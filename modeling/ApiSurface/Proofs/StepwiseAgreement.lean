import ApiSurface.Proofs.BytewiseAgreement
import ApiSurface.Proofs.SignatureGrammar
import ApiSurface.Proofs.StepwiseReading

/-!
# Steps are readings

Every production of the grammar is a stretch of the run that reads into nodes: the steps lead to
the text and the nodes that the production leaves, or to the fault with which it fails. A run
therefore ends, and as the reader of the text does.
-/

namespace ApiSurface.Signature.Stepwise

/-- Reading into nodes leads from one point to the other. -/
def Reaches (point last : Point NodeId Arena) : Prop :=
  ∃ steps, (step nodewise)^[steps] point = last

theorem Reaches.trans {first second third : Point NodeId Arena} (h : Reaches first second)
    (h' : Reaches second third) : Reaches first third := by
  obtain ⟨steps, rfl⟩ := h
  obtain ⟨more, rfl⟩ := h'
  exact ⟨more + steps, Function.iterate_add_apply ..⟩

theorem Reaches.of_step {point last : Point NodeId Arena} (h : Reaches (step nodewise point) last) :
    Reaches point last := by
  obtain ⟨steps, rfl⟩ := h
  exact ⟨steps + 1, rfl⟩

theorem reaches_turn {reading after : Reading NodeId} (hnone : reading.task.production? = none)
    (h : reading.turn = after) (arena : Arena) : Reaches ⟨reading, arena⟩ ⟨after, arena⟩ :=
  ⟨1, by rw [Function.iterate_one, step_of_none hnone, h]⟩

/-- A run from this point does what a reader does: it goes on in the given way with what the reader
gets, in front of a text that is shorter than a limit, or fails as the reader fails. The limit tells
that the fuel of the readers that follow suffices. -/
inductive Performs {α : Type} (limit : Nat) (next : α → List Char → Reading NodeId)
    (point : Point NodeId Arena) : Except Fault (α × Cursor) → Prop where
  | value {a : α} {rest : List Char} {arena : Arena} : Reaches point ⟨next a rest, arena⟩ →
      rest.length < limit → Performs limit next point (.ok (a, ⟨rest, arena⟩))
  | fault {fault : Fault} {arena : Arena} : Reaches point ⟨fail fault.rest fault.cause, arena⟩ →
      Performs limit next point (.error fault)

/-- Gives a part to the frame that waits. -/
def returns (frames : List (Frame NodeId)) (id : NodeId) (rest : List Char) : Reading NodeId :=
  ⟨rest, .give id, frames⟩

section

variable {α β : Type} {limit limit' : Nat} {next : α → List Char → Reading NodeId}
  {next' : β → List Char → Reading NodeId} {point : Point NodeId Arena} {rest : List Char}
  {arena : Arena}

theorem Performs.of_step {result : Except Fault (α × Cursor)}
    (h : Performs limit next (step nodewise point) result) : Performs limit next point result := by
  cases h with
  | value hreach hlimit => exact .value hreach.of_step hlimit
  | fault hreach => exact .fault hreach.of_step

theorem Performs.mono {result : Except Fault (α × Cursor)} (h : Performs limit next point result)
    (hle : limit ≤ limit') : Performs limit' next point result := by
  cases h with
  | value hreach hlimit => exact .value hreach (Nat.lt_of_lt_of_le hlimit hle)
  | fault hreach => exact .fault hreach

/-- What follows on every value may be left to more steps. -/
theorem Performs.goOn {later : α → List Char → Reading NodeId}
    {result : Except Fault (α × Cursor)} (h : Performs limit next point result)
    (hnext : ∀ a rest arena, Reaches ⟨next a rest, arena⟩ ⟨later a rest, arena⟩) :
    Performs limit later point result := by
  cases h with
  | value hreach hlimit => exact .value (hreach.trans (hnext _ _ _)) hlimit
  | fault hreach => exact .fault hreach

theorem performs_pure (hlimit : rest.length < limit) (a : α) :
    Performs limit next ⟨next a rest, arena⟩ ((pure a : Reader α) ⟨rest, arena⟩) :=
  .value ⟨0, rfl⟩ hlimit

theorem performs_fail (cause : SignatureFault) :
    Performs limit next ⟨fail rest cause, arena⟩ ((Reader.fail cause : Reader α) ⟨rest, arena⟩) :=
  .fault ⟨0, rfl⟩

theorem skip_bind {f : Unit → Reader α} :
    (Reader.skip >>= f) ⟨rest, arena⟩ = f () ⟨rest.tail, arena⟩ := rfl

theorem performs_alloc {frames : List (Frame NodeId)} (hlimit : rest.length < limit)
    (production : Production NodeId) :
    Performs limit (returns frames) ⟨⟨rest, .make production, frames⟩, arena⟩
      (Reader.alloc production.node ⟨rest, arena⟩) :=
  .value ⟨1, rfl⟩ hlimit

theorem Performs.bind {reader : Reader α} {f : α → Reader β}
    (h : Performs limit next point (reader ⟨rest, arena⟩))
    (hnext : ∀ a left later, left.length < limit →
      Performs limit' next' ⟨next a left, later⟩ (f a ⟨left, later⟩)) :
    Performs limit' next' point ((reader >>= f) ⟨rest, arena⟩) := by
  rw [Reader.bind_apply]
  generalize reader ⟨rest, arena⟩ = run at h
  cases h with
  | fault hreach => exact .fault hreach
  | value hreach hlimit =>
    rename_i a left later
    have hrun : (.ok (a, ⟨left, later⟩) >>= fun p => f p.1 p.2 : Except Fault (β × Cursor)) =
        f a ⟨left, later⟩ := rfl
    rw [hrun]
    have hgoes := hnext a left later hlimit
    generalize f a ⟨left, later⟩ = run at hgoes
    cases hgoes with
    | fault hreach' => exact .fault (hreach.trans hreach')
    | value hreach' hlimit' => exact .value (hreach.trans hreach') hlimit'

/-- A piece of text is read, which the steps read at once. -/
theorem performs_after {direct : Except Fault (α × List Char)} {reader : Reader α}
    {f : α → Reader β}
    (hsame : reader ⟨rest, arena⟩ = direct.map fun read => (read.1, ⟨read.2, arena⟩))
    (h : ∀ a left, direct = .ok (a, left) →
      Performs limit' next' ⟨next a left, arena⟩ (f a ⟨left, arena⟩)) :
    Performs limit' next' ⟨after direct next, arena⟩ ((reader >>= f) ⟨rest, arena⟩) := by
  rw [Reader.bind_apply, hsame]
  cases direct with
  | error fault => exact .fault ⟨0, rfl⟩
  | ok read => exact h read.1 read.2 rfl

theorem performs_identifier {terminators : List Char} {k : String → List Char → Reading NodeId}
    {f : String → Reader β}
    (h : ∀ name left, left.length < rest.length →
      Performs limit' next' ⟨k name left, arena⟩ (f name ⟨left, arena⟩)) :
    Performs limit' next' ⟨after (Direct.identifier terminators rest) k, arena⟩
      ((Reader.identifier terminators >>= f) ⟨rest, arena⟩) := by
  refine performs_after ?_ fun name left hread => h name left ?_
  · unfold Reader.identifier Direct.identifier
    rcases rest.span fun c => !terminators.contains c with ⟨name, left⟩
    cases name <;> rfl
  · obtain ⟨read, -, hname, rfl⟩ := Direct.exists_of_identifier hread
    have hpos := List.length_pos_of_ne_nil hname.1
    rw [List.length_append]
    omega

theorem performs_expect {wanted : Char} {k : Unit → List Char → Reading NodeId}
    {f : Unit → Reader β}
    (h : ∀ left, left.length < rest.length →
      Performs limit' next' ⟨k () left, arena⟩ (f () ⟨left, arena⟩)) :
    Performs limit' next' ⟨after (Direct.expect wanted rest) k, arena⟩
      ((Reader.expect wanted >>= f) ⟨rest, arena⟩) := by
  refine performs_after ?_ fun _ left hread => h left ?_
  · rw [Reader.expect, peek_bind]
    unfold Direct.expect
    cases rest.head? with
    | none => rfl
    | some c =>
      simp only
      split_ifs <;> rfl
  · rw [Direct.expect_eq_ok_iff.mp hread]
    exact Nat.lt_succ_self _

end

/-! ## Productions -/

/-- Each production of the grammar of types, read with this fuel, is a stretch of a run. -/
structure Performed (fuel : Nat) : Prop where
  javaType : ∀ rest arena frames, 2 * rest.length + 2 ≤ fuel →
    Performs rest.length (returns frames) ⟨⟨rest, .type, frames⟩, arena⟩
      (javaType fuel ⟨rest, arena⟩)
  referenceType : ∀ rest arena frames, 2 * rest.length + 1 ≤ fuel →
    Performs rest.length (returns frames) ⟨⟨rest, .reference, frames⟩, arena⟩
      (referenceType fuel ⟨rest, arena⟩)
  classType : ∀ rest arena frames, 2 * rest.length + 2 ≤ fuel →
    Performs rest.length (returns frames) ⟨⟨rest, .className, frames⟩, arena⟩
      (classType fuel ⟨rest, arena⟩)
  memberClasses : ∀ rest arena frames outer, 2 * rest.length + 2 ≤ fuel →
    Performs (rest.length + 1) (fun id left => ⟨left, .classEnd id, frames⟩)
      ⟨⟨rest, .members outer, frames⟩, arena⟩ (memberClasses fuel outer ⟨rest, arena⟩)
  withTypeArguments : ∀ rest arena frames base, 2 * rest.length + 2 ≤ fuel →
    Performs (rest.length + 1) (fun id left => ⟨left, .members id, frames⟩)
      ⟨⟨rest, .arguments base, frames⟩, arena⟩ (withTypeArguments fuel base ⟨rest, arena⟩)
  typeArguments : ∀ rest arena frames base read, 2 * rest.length + 3 ≤ fuel →
    Performs (rest.length + 1) (fun ids left => ⟨left, .argumentsEnd base (read ++ ids), frames⟩)
      ⟨⟨rest, .argumentList base read, frames⟩, arena⟩ (typeArguments fuel ⟨rest, arena⟩)
  typeArgument : ∀ rest arena frames, 2 * rest.length + 2 ≤ fuel →
    Performs rest.length (returns frames) ⟨⟨rest, .argument, frames⟩, arena⟩
      (typeArgument fuel ⟨rest, arena⟩)

section

variable {fuel : Nat} (h : Performed fuel) {rest : List Char} (arena : Arena)
  (frames : List (Frame NodeId))

include h

theorem performs_javaType (hfuel : 2 * rest.length + 2 ≤ fuel + 1) :
    Performs rest.length (returns frames) ⟨⟨rest, .type, frames⟩, arena⟩
      (javaType (fuel + 1) ⟨rest, arena⟩) := by
  refine .of_step ?_
  show Performs _ _ ⟨Turn.type frames rest, arena⟩ _
  rw [javaType, peek_bind, Turn.type]
  cases rest with
  | nil => exact performs_fail _
  | cons c rest =>
    simp only [List.head?_cons]
    split_ifs
    · exact h.referenceType (c :: rest) arena frames (by omega)
    · cases primitiveName c with
      | none => exact performs_fail _
      | some name => exact performs_alloc (Nat.lt_succ_self _) (.basic name)

theorem performs_referenceType (hfuel : 2 * rest.length + 1 ≤ fuel + 1) :
    Performs rest.length (returns frames) ⟨⟨rest, .reference, frames⟩, arena⟩
      (referenceType (fuel + 1) ⟨rest, arena⟩) := by
  refine .of_step ?_
  show Performs _ _ ⟨Turn.reference frames rest, arena⟩ _
  rw [referenceType, peek_bind, Turn.reference]
  cases rest with
  | nil => exact performs_fail _
  | cons c rest =>
    rw [List.length_cons] at hfuel ⊢
    simp only [List.head?_cons]
    split
    · contradiction
    · rename_i hnext
      cases hnext
      exact (h.classType rest arena frames (by omega)).mono (Nat.le_succ _)
    · rename_i hnext
      cases hnext
      simp only [skip_bind, List.tail_cons]
      refine performs_identifier fun name left hshort => ?_
      refine performs_expect fun left hshorter => ?_
      exact performs_alloc (by omega) (.var name)
    · rename_i hnext
      cases hnext
      simp only [skip_bind, List.tail_cons]
      refine (h.javaType rest arena (.array :: frames) (by omega)).bind
        fun element left later hshort => .of_step ?_
      exact performs_alloc (by omega) (.array element)
    · rename_i hnext
      cases hnext
      simp only
      exact performs_fail _

theorem performs_classType (hfuel : 2 * rest.length + 2 ≤ fuel + 1) :
    Performs rest.length (returns frames) ⟨⟨rest, .className, frames⟩, arena⟩
      (classType (fuel + 1) ⟨rest, arena⟩) := by
  refine .of_step ?_
  show Performs _ _ ⟨Turn.className frames rest, arena⟩ _
  rw [classType, Turn.className]
  refine performs_identifier fun name named hshort => ?_
  refine (performs_alloc hshort (.basic (dotted name))).bind fun base made later hshort => ?_
  refine .of_step ((h.withTypeArguments made later frames base (by omega)).bind
    fun outer given later hshorter => ?_)
  refine (h.memberClasses given later frames outer (by omega)).bind
    fun type read later hshortest => .of_step ?_
  show Performs _ _ ⟨Turn.classEnd frames read type, later⟩ _
  exact performs_expect fun left hend => performs_pure (by omega) _

theorem performs_memberClasses (outer : NodeId) (hfuel : 2 * rest.length + 2 ≤ fuel + 1) :
    Performs (rest.length + 1) (fun id left => ⟨left, .classEnd id, frames⟩)
      ⟨⟨rest, .members outer, frames⟩, arena⟩ (memberClasses (fuel + 1) outer ⟨rest, arena⟩) := by
  refine .of_step ?_
  show Performs _ _ ⟨Turn.members frames rest outer, arena⟩ _
  rw [memberClasses, peek_bind, Turn.members]
  split_ifs with hnext
  · obtain ⟨rest, rfl⟩ := List.head?_eq_some_iff.mp hnext
    rw [List.length_cons] at hfuel ⊢
    rw [skip_bind, List.tail_cons]
    refine performs_identifier fun name named hshort => ?_
    refine (performs_alloc hshort (.inner outer name)).bind fun member made later hshort => ?_
    refine .of_step ((h.withTypeArguments made later frames member (by omega)).bind
      fun outer given later hshorter => ?_)
    exact (h.memberClasses given later frames outer (by omega)).mono (by omega)
  · exact performs_pure (Nat.lt_succ_self _) _

theorem performs_withTypeArguments (base : NodeId) (hfuel : 2 * rest.length + 2 ≤ fuel + 1) :
    Performs (rest.length + 1) (fun id left => ⟨left, .members id, frames⟩)
      ⟨⟨rest, .arguments base, frames⟩, arena⟩
      (withTypeArguments (fuel + 1) base ⟨rest, arena⟩) := by
  refine .of_step ?_
  show Performs _ _ ⟨Turn.arguments frames rest base, arena⟩ _
  rw [withTypeArguments, peek_bind, Turn.arguments]
  split_ifs with hnext
  · obtain ⟨rest, rfl⟩ := List.head?_eq_some_iff.mp hnext
    rw [List.length_cons] at hfuel ⊢
    rw [skip_bind, List.tail_cons]
    refine (h.typeArguments rest arena frames base [] (by omega)).bind
      fun arguments given later hshort => .of_step ?_
    show Performs _ _ ⟨Turn.argumentsEnd frames given base arguments, later⟩ _
    refine performs_expect fun closed hshorter => ?_
    split_ifs
    · exact performs_fail _
    · exact (performs_alloc (by omega) (.parameterized base arguments)).goOn fun id rest arena =>
        ⟨1, rfl⟩
  · exact performs_pure (Nat.lt_succ_self _) _

theorem performs_typeArguments (base : NodeId) (read : List NodeId)
    (hfuel : 2 * rest.length + 3 ≤ fuel + 1) :
    Performs (rest.length + 1) (fun ids left => ⟨left, .argumentsEnd base (read ++ ids), frames⟩)
      ⟨⟨rest, .argumentList base read, frames⟩, arena⟩
      (typeArguments (fuel + 1) ⟨rest, arena⟩) := by
  refine .of_step ?_
  show Performs _ _ ⟨Turn.argumentList frames rest base read, arena⟩ _
  rw [typeArguments, peek_bind, Turn.argumentList]
  split_ifs with hnext
  · refine .value ?_ (Nat.lt_succ_self _)
    rw [List.append_nil]
    exact ⟨0, rfl⟩
  · refine (h.typeArgument rest arena (.argument base read :: frames) (by omega)).bind
      fun argument left later hshort => .of_step ?_
    refine (h.typeArguments left later frames base (read ++ [argument]) (by omega)).bind
      fun arguments last later hshorter => ?_
    rw [List.append_assoc, List.singleton_append]
    exact performs_pure (by omega) _

omit h in
theorem typeArgument_of_ne (hany : rest.head? ≠ some '*') (hupper : rest.head? ≠ some '+')
    (hlower : rest.head? ≠ some '-') :
    typeArgument (fuel + 1) ⟨rest, arena⟩ = referenceType fuel ⟨rest, arena⟩ := by
  rw [typeArgument, peek_bind]
  generalize rest.head? = next at hany hupper hlower ⊢
  split
  · exact absurd rfl hany
  · exact absurd rfl hupper
  · exact absurd rfl hlower
  · rfl

theorem performs_typeArgument (hfuel : 2 * rest.length + 2 ≤ fuel + 1) :
    Performs rest.length (returns frames) ⟨⟨rest, .argument, frames⟩, arena⟩
      (typeArgument (fuel + 1) ⟨rest, arena⟩) := by
  refine .of_step ?_
  show Performs _ _ ⟨Turn.argument frames rest, arena⟩ _
  unfold Turn.argument
  split
  · rename_i hnext
    obtain ⟨rest, rfl⟩ := List.head?_eq_some_iff.mp hnext
    rw [typeArgument, peek_bind]
    exact performs_alloc (Nat.lt_succ_self _) (.wildcard none none)
  · rename_i hnext
    obtain ⟨rest, rfl⟩ := List.head?_eq_some_iff.mp hnext
    rw [List.length_cons] at hfuel ⊢
    rw [typeArgument, peek_bind]
    simp only [List.head?_cons, skip_bind, List.tail_cons]
    refine (h.referenceType rest arena (.upper :: frames) (by omega)).bind
      fun bound left later hshort => .of_step ?_
    exact performs_alloc (by omega) (.wildcard (some bound) none)
  · rename_i hnext
    obtain ⟨rest, rfl⟩ := List.head?_eq_some_iff.mp hnext
    rw [List.length_cons] at hfuel ⊢
    rw [typeArgument, peek_bind]
    simp only [List.head?_cons, skip_bind, List.tail_cons]
    refine (h.referenceType rest arena (.lower :: frames) (by omega)).bind
      fun bound left later hshort => .of_step ?_
    exact performs_alloc (by omega) (.wildcard none (some bound))
  · rename_i hany hupper hlower
    rw [typeArgument_of_ne arena hany hupper hlower]
    exact h.referenceType rest arena frames (by omega)

end

/-- By induction on the fuel, which bounds how deep the productions are nested. -/
theorem performed (fuel : Nat) : Performed fuel := by
  induction fuel with
  | zero => constructor <;> intros <;> omega
  | succ fuel ih =>
    exact {
      javaType _ arena frames := performs_javaType ih arena frames
      referenceType _ arena frames := performs_referenceType ih arena frames
      classType _ arena frames := performs_classType ih arena frames
      memberClasses _ arena frames outer := performs_memberClasses ih arena frames outer
      withTypeArguments _ arena frames base := performs_withTypeArguments ih arena frames base
      typeArguments _ arena frames base read := performs_typeArguments ih arena frames base read
      typeArgument _ arena frames := performs_typeArgument ih arena frames }

/-! ## Repeated parts -/

section

variable {α : Type} {rest : List Char} (arena : Arena) {frames : List (Frame NodeId)}

/-- A loop that keeps what it has read. By induction on the steps: each part takes a character, so
they are enough. -/
theorem performs_many {goesOn : Option Char → Bool} {part : Reader α} {steps : Nat}
    (loop last : List α → Task NodeId) (read : List α) (hsteps : rest.length < steps)
    (hloop : ∀ read, (loop read).production? = none)
    (hstop : ∀ read left, goesOn left.head? = false →
      (⟨left, loop read, frames⟩ : Reading NodeId).turn = ⟨left, last read, frames⟩)
    (hpart : ∀ read left arena, left.length ≤ rest.length → goesOn left.head? = true →
      Performs left.length (fun a later => ⟨later, loop (read ++ [a]), frames⟩)
        ⟨⟨left, loop read, frames⟩, arena⟩ (part ⟨left, arena⟩)) :
    Performs (rest.length + 1) (fun others left => ⟨left, last (read ++ others), frames⟩)
      ⟨⟨rest, loop read, frames⟩, arena⟩ (Reader.many goesOn part steps ⟨rest, arena⟩) := by
  induction steps generalizing read rest arena with
  | zero => omega
  | succ steps ih =>
    rw [Reader.many, peek_bind]
    split_ifs with hnext
    · refine (hpart read rest arena le_rfl hnext).bind fun first left later hshort => ?_
      refine (ih later (read ++ [first]) (by omega) fun read' left' arena' hle =>
        hpart read' left' arena' (by omega)).bind fun others left later hend => ?_
      rw [List.append_assoc, List.singleton_append]
      exact performs_pure (by omega) _
    · refine .of_step (.value ?_ (Nat.lt_succ_self _))
      rw [step_of_none (hloop read), hstop read rest (by simpa using hnext), List.append_nil]
      exact ⟨0, rfl⟩

/-- A loop over reference types behind marks, with the frame that waits for each of them. -/
theorem performs_marked {mark : Char} {fuel : Nat}
    (loop last : List NodeId → Task NodeId) (frame : List NodeId → Frame NodeId)
    (read : List NodeId) (hfuel : 2 * rest.length + 2 ≤ fuel)
    (hloop : ∀ read, (loop read).production? = none)
    (hturn : ∀ read left, (⟨left, loop read, frames⟩ : Reading NodeId).turn =
      if left.head? = some mark then ⟨left.tail, .reference, frame read :: frames⟩
      else ⟨left, last read, frames⟩)
    (hresume : ∀ read id, (frame read).resume id = loop (read ++ [id])) :
    Performs (rest.length + 1) (fun others left => ⟨left, last (read ++ others), frames⟩)
      ⟨⟨rest, loop read, frames⟩, arena⟩ (Reader.marked mark fuel fuel ⟨rest, arena⟩) := by
  refine performs_many arena loop last read (by omega) hloop ?_ ?_
  · intro read left hnext
    exact (hturn read left).trans (if_neg (by simpa using hnext))
  · intro read left arena hle hnext
    obtain ⟨more, rfl⟩ := List.head?_eq_some_iff.mp (beq_iff_eq.mp hnext)
    rw [List.length_cons] at hle ⊢
    have hmark := (hturn read (mark :: more)).trans (if_pos rfl)
    refine .of_step ?_
    rw [step_of_none (hloop read), hmark, skip_bind, List.tail_cons]
    refine (((performed fuel).referenceType more arena (frame read :: frames) (by omega)).mono
      (Nat.le_succ _)).goOn fun id left arena => ?_
    have hgive : (returns (frame read :: frames) id left).turn =
        ⟨left, loop (read ++ [id]), frames⟩ := by
      rw [← hresume]
      rfl
    exact reaches_turn rfl hgive arena

end

section

variable {fuel : Nat} {rest : List Char} (arena : Arena) (frames : List (Frame NodeId))
  (hfuel : 2 * rest.length + 2 ≤ fuel)

include hfuel

theorem performs_interfaceBounds (declaration : Declaration) (schema : Schema NodeId)
    (name : String) (read : List NodeId) :
    Performs (rest.length + 1)
      (fun bounds left =>
        ⟨left, .parameterList declaration (schema ++ [(name, read ++ bounds)]), frames⟩)
      ⟨⟨rest, .bounds declaration schema name read, frames⟩, arena⟩
      (interfaceBounds fuel fuel ⟨rest, arena⟩) := by
  rw [interfaceBounds_eq]
  exact performs_marked arena (.bounds declaration schema name)
    (fun read => .parameterList declaration (schema ++ [(name, read)]))
    (.bound declaration schema name) read hfuel (fun _ => rfl) (fun _ _ => rfl) fun _ _ => rfl

theorem performs_thrownTypes (schema : Schema NodeId) (parameters : List NodeId)
    (returned : NodeId) :
    Performs (rest.length + 1)
      (fun _ left => ⟨left, .finish (.ofMethod schema parameters returned), frames⟩)
      ⟨⟨rest, .thrownTypes schema parameters returned, frames⟩, arena⟩
      (thrownTypes fuel fuel ⟨rest, arena⟩) := by
  rw [thrownTypes_eq]
  refine (performs_marked arena (fun _ => .thrownTypes schema parameters returned)
    (fun _ => .finish (.ofMethod schema parameters returned))
    (fun _ => .thrownType schema parameters returned) [] hfuel (fun _ => rfl) (fun _ _ => rfl)
    fun _ _ => rfl).bind fun _ left later hshort => performs_pure hshort _

theorem performs_typeParameter (declaration : Declaration) (schema : Schema NodeId) :
    Performs rest.length
      (fun parameter left => ⟨left, .parameterList declaration (schema ++ [parameter]), frames⟩)
      ⟨⟨rest, .parameter declaration schema, frames⟩, arena⟩
      (typeParameter fuel ⟨rest, arena⟩) := by
  refine .of_step ?_
  show Performs _ _ ⟨Turn.parameter frames rest declaration schema, arena⟩ _
  rw [typeParameter, Turn.parameter]
  refine performs_identifier fun name named hshort => performs_expect fun parted hshorter => ?_
  rw [peek_bind]
  split_ifs
  · refine (performs_interfaceBounds arena frames (by omega) declaration schema name []).bind
      fun bounds left later hend => ?_
    exact performs_pure (by omega) _
  · refine ((performed fuel).referenceType parted arena
      (.bound declaration schema name [] :: frames) (by omega)).bind
      fun classBound bounded later hbound => .of_step ?_
    refine (performs_interfaceBounds later frames (by omega) declaration schema name
      [classBound]).bind fun bounds left later hend => ?_
    exact performs_pure (by omega) _

theorem performs_typeParameterList (declaration : Declaration) :
    Performs (rest.length + 1)
      (fun schema left => ⟨left, .parametersEnd declaration schema, frames⟩)
      ⟨⟨rest, .parameterList declaration [], frames⟩, arena⟩
      (typeParameterList fuel fuel ⟨rest, arena⟩) := by
  rw [typeParameterList_eq]
  refine performs_many arena (.parameterList declaration) (.parametersEnd declaration) [] (by omega)
    (fun _ => rfl) ?_ ?_
  · intro schema left hnext
    exact if_pos (by simpa using hnext)
  · intro schema left arena hle hnext
    refine .of_step ?_
    show Performs _ _ ⟨Turn.parameterList frames left declaration schema, arena⟩ _
    rw [Turn.parameterList, if_neg (by simpa using hnext)]
    exact performs_typeParameter arena frames (by omega) declaration schema

theorem performs_typeParameters (declaration : Declaration) :
    Performs (rest.length + 1) (fun schema left => ⟨left, .declared declaration schema, frames⟩)
      ⟨⟨rest, .typeParameters declaration, frames⟩, arena⟩
      (typeParameters fuel ⟨rest, arena⟩) := by
  refine .of_step ?_
  show Performs _ _ ⟨Turn.typeParameters frames rest declaration, arena⟩ _
  rw [typeParameters, peek_bind, Turn.typeParameters]
  split_ifs with hnext
  · obtain ⟨rest, rfl⟩ := List.head?_eq_some_iff.mp hnext
    rw [List.length_cons] at hfuel ⊢
    rw [skip_bind, List.tail_cons]
    refine (performs_typeParameterList arena frames (by omega) declaration).bind
      fun schema listed later hshort => .of_step ?_
    show Performs _ _ ⟨Turn.parametersEnd frames listed declaration schema, later⟩ _
    refine performs_expect fun left hshorter => ?_
    split_ifs
    · exact performs_fail _
    · exact performs_pure (by omega) _
  · exact performs_pure (Nat.lt_succ_self _) _

theorem performs_interfaceTypes (schema : Schema NodeId) (superclass : NodeId) :
    Performs (rest.length + 1)
      (fun interfaces left => ⟨left, .done (.ofClass schema superclass interfaces), frames⟩)
      ⟨⟨rest, .interfaces schema superclass [], frames⟩, arena⟩
      (interfaceTypes fuel fuel ⟨rest, arena⟩) := by
  rw [interfaceTypes_eq]
  refine performs_many arena (.interfaces schema superclass)
    (fun read => .done (.ofClass schema superclass read)) [] (by omega) (fun _ => rfl) ?_ ?_
  · intro read left hnext
    exact if_pos (by simpa using hnext)
  · intro read left arena hle hnext
    refine .of_step ?_
    show Performs _ _ ⟨Turn.interfaces frames left schema superclass read, arena⟩ _
    rw [Turn.interfaces, if_neg (by simpa using hnext)]
    exact ((performed fuel).referenceType left arena _ (by omega)).goOn fun id left arena =>
      ⟨1, rfl⟩

theorem performs_parameterTypes (schema : Schema NodeId) :
    Performs (rest.length + 1)
      (fun parameters left => ⟨left, .parameterTypesEnd schema parameters, frames⟩)
      ⟨⟨rest, .parameterTypes schema [], frames⟩, arena⟩
      (parameterTypes fuel fuel ⟨rest, arena⟩) := by
  rw [parameterTypes_eq]
  refine performs_many arena (.parameterTypes schema) (.parameterTypesEnd schema) [] (by omega)
    (fun _ => rfl) ?_ ?_
  · intro read left hnext
    exact if_pos (by simpa using hnext)
  · intro read left arena hle hnext
    refine .of_step ?_
    show Performs _ _ ⟨Turn.parameterTypes frames left schema read, arena⟩ _
    rw [Turn.parameterTypes, if_neg (by simpa using hnext)]
    exact ((performed fuel).javaType left arena _ (by omega)).goOn fun id left arena => ⟨1, rfl⟩

end

/-! ## Whole texts -/

/-- The reader of a whole text. -/
def Goal.reader : Goal → Nat → Reader (Parts NodeId)
  | .type, fuel => do
    let read ← wholeType fuel
    pure (.type read)
  | .declared .ofClass, fuel => do
    let (schema, superclass, interfaces) ← wholeClass fuel
    pure (.ofClass schema superclass interfaces)
  | .declared .ofMethod, fuel => do
    let (schema, parameters, returned) ← wholeMethod fuel
    pure (.ofMethod schema parameters returned)

section

variable {limit : Nat} {next : Parts NodeId → List Char → Reading NodeId} {rest : List Char}
  {arena : Arena} {frames : List (Frame NodeId)}

theorem performs_finish {f : Unit → Reader (Parts NodeId)} (parts : Parts NodeId)
    (h : Performs limit next ⟨⟨rest, .done parts, frames⟩, arena⟩ (f () ⟨rest, arena⟩)) :
    Performs limit next ⟨⟨rest, .finish parts, frames⟩, arena⟩
      ((Reader.finish >>= f) ⟨rest, arena⟩) := by
  refine .of_step ?_
  show Performs _ _ ⟨Turn.finish frames rest parts, arena⟩ _
  rw [Reader.finish, bind_assoc, peek_bind, Turn.finish]
  split_ifs
  · exact performs_fail _
  · exact h

end

/-- The point at which everything is read. -/
def ended (parts : Parts NodeId) (rest : List Char) : Reading NodeId := ⟨rest, .done parts, []⟩

section

variable {fuel : Nat} {text : List Char} (hfuel : 2 * text.length + 2 ≤ fuel)

include hfuel

theorem performs_type :
    Performs text.length ended ⟨Goal.type.start text, .empty⟩
      (Goal.type.reader fuel ⟨text, .empty⟩) := by
  simp only [Goal.reader, wholeType, bind_assoc, pure_bind]
  refine ((performed fuel).javaType text .empty [.whole] hfuel).bind
    fun type left later hshort => .of_step ?_
  exact performs_finish _ (performs_pure hshort _)

theorem performs_ofClass :
    Performs (text.length + 1) ended ⟨(Goal.declared .ofClass).start text, .empty⟩
      ((Goal.declared .ofClass).reader fuel ⟨text, .empty⟩) := by
  simp only [Goal.reader, wholeClass, bind_assoc, pure_bind]
  refine (performs_typeParameters .empty [] hfuel .ofClass).bind
    fun schema declared later hshort => .of_step ?_
  refine ((performed fuel).referenceType declared later [.supertype schema] (by omega)).bind
    fun superclass read later hshorter => .of_step ?_
  refine (performs_interfaceTypes later [] (by omega) schema superclass).bind
    fun interfaces left later hend => ?_
  exact performs_pure (by omega) _

theorem performs_ofMethod :
    Performs (text.length + 1) ended ⟨(Goal.declared .ofMethod).start text, .empty⟩
      ((Goal.declared .ofMethod).reader fuel ⟨text, .empty⟩) := by
  simp only [Goal.reader, wholeMethod, bind_assoc, pure_bind]
  refine (performs_typeParameters .empty [] hfuel .ofMethod).bind
    fun schema declared later hshort => .of_step ?_
  show Performs _ _ ⟨Turn.declared [] declared schema .ofMethod, later⟩ _
  refine performs_expect fun opened hopened => ?_
  refine (performs_parameterTypes later [] (by omega) schema).bind
    fun parameters listed later hlisted => .of_step ?_
  show Performs _ _ ⟨Turn.parameterTypesEnd [] listed schema parameters, later⟩ _
  refine performs_expect fun closed hclosed => ?_
  refine ((performed fuel).javaType closed later [.returnType schema parameters] (by omega)).bind
    fun returned read later hread => .of_step ?_
  refine (performs_thrownTypes later [] (by omega) schema parameters returned).bind
    fun _ left later hleft => ?_
  exact performs_finish _ (performs_pure (by omega) _)

theorem performs_goal (goal : Goal) :
    Performs (text.length + 1) ended ⟨goal.start text, .empty⟩
      (goal.reader fuel ⟨text, .empty⟩) := by
  match goal with
  | .type => exact (performs_type hfuel).mono (Nat.le_succ _)
  | .declared .ofClass => exact performs_ofClass hfuel
  | .declared .ofMethod => exact performs_ofMethod hfuel

end

/-! ## Ends -/

section

variable {H σ : Type} {build : Production H → σ → H × σ} {point : Point H σ} {text : String}
  {result : Except SurfaceError (Parts H × σ)}

/-- At the end of a run nothing moves. -/
theorem step_of_outcome? (h : point.outcome? text = some result) : step build point = point := by
  obtain ⟨⟨rest, task, frames⟩, store⟩ := point
  cases task with
  | done parts => rfl
  | failed cause => rfl
  | _ => cases h

end

/-- The run of a text ends, and stays at the end, with what the reader of the text gets. -/
theorem exists_outcome_nodesAt (goal : Goal) (text : String) :
    ∃ steps, ∀ later, steps ≤ later →
      (goal.nodesAt text later).outcome? text = some (run goal.reader text) := by
  have hfuel : 2 * text.toList.length + 2 ≤ fuelFor text.toList := by unfold fuelFor; omega
  have hend : ∃ steps, (goal.nodesAt text steps).outcome? text = some (run goal.reader text) := by
    have hperforms := performs_goal hfuel goal
    unfold run
    generalize goal.reader (fuelFor text.toList) ⟨text.toList, .empty⟩ = result at hperforms
    cases hperforms with
    | value hreach =>
      obtain ⟨steps, hlast⟩ := hreach
      exact ⟨steps, congrArg (Point.outcome? text) hlast⟩
    | fault hreach =>
      obtain ⟨steps, hlast⟩ := hreach
      exact ⟨steps, congrArg (Point.outcome? text) hlast⟩
  obtain ⟨steps, houtcome⟩ := hend
  refine ⟨steps, fun later hle => ?_⟩
  obtain ⟨more, rfl⟩ := Nat.exists_eq_add_of_le' hle
  have hstay : goal.nodesAt text (more + steps) = goal.nodesAt text steps :=
    (Function.iterate_add_apply ..).trans (Function.iterate_fixed (step_of_outcome? houtcome) more)
  rw [hstay, houtcome]

end ApiSurface.Signature.Stepwise
