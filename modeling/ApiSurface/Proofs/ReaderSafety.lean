import ApiSurface.Proofs.BytewiseAgreement
import ApiSurface.Proofs.ParameterLists
import ApiSurface.Proofs.SignatureRoundTrip

/-!
# Safety of reading

Read from its bytes, every text ends in a value or an error once the clock allows for it: no node
is missing, no position lies in front of the text, no name is cut through a character and nothing
goes on forever. An error tells either where in the text reading failed, or which name its type
parameters declare twice.
-/

namespace ApiSurface.Signature

/-! ## Types of nodes -/

namespace Bytewise

section

variable {α β : Type} {arena : Arena} {clock : Nat}

theorem ends_ok (a : α) : ends (.ok a) = pure a := rfl

theorem ends_bind (x : Except SurfaceError α) (f : α → Except SurfaceError β) :
    ends (x >>= f) = ends x >>= fun a => ends (f a) := by
  cases x <;> rfl

theorem foldlM_ends {items : List α} {f : β → α → Outcome β} {g : β → α → Except SurfaceError β}
    (h : ∀ item ∈ items, ∀ b, f b item = ends (g b item)) (start : β) :
    items.foldlM f start = ends (items.foldlM g start) := by
  induction items generalizing start with
  | nil => rfl
  | cons item items ih =>
    obtain ⟨hitem, hitems⟩ := List.forall_mem_cons.mp h
    rw [List.foldlM_cons, List.foldlM_cons, ends_bind, hitem]
    exact congrArg _ (funext fun b => ih hitems b)

theorem mapM_ends {items : List α} {f : α → Outcome β} {g : α → β}
    (h : ∀ item ∈ items, f item = ends (.ok (g item))) :
    items.mapM f = ends (.ok (items.map g)) := by
  induction items with
  | nil => rfl
  | cons item items ih =>
    obtain ⟨hitem, hitems⟩ := List.forall_mem_cons.mp h
    rw [List.mapM_cons, hitem, ih hitems]
    rfl

/-- By induction on the clock. A node is numbered after its children, so its number is time enough
to reach what it is made of. -/
theorem materialize_eq (harena : arena.Ordered) {id : NodeId} (hid : id < arena.size)
    (hclock : id < clock) : materialize arena clock id = ends (.ok (arena.materialize id)) := by
  induction clock generalizing id with
  | zero => exact absurd hclock (Nat.not_lt_zero id)
  | succ clock ih =>
    obtain ⟨node, hnode⟩ := Arena.exists_node hid
    have hchild : ∀ child ∈ node.children,
        materialize arena clock child = ends (.ok (arena.materialize child)) := fun child hchild =>
      have hlt := harena id node hnode child hchild
      ih (Nat.lt_trans hlt hid) (Nat.lt_of_lt_of_le hlt (Nat.le_of_lt_succ hclock))
    have htype : arena.materialize id = node.typeFrom arena.materialize := by
      rw [Arena.materialize, Arena.typeWithin_succ hnode]
      refine Node.typeFrom_congr fun child hchild => ?_
      have hlt := harena id node hnode child hchild
      exact harena.typeWithin_eq (.refl arena) hlt (Nat.lt_trans hlt hid)
    rw [htype, materialize, hnode]
    cases node with
    | basic name => rfl
    | var name => rfl
    | array element =>
      simp only [hchild element (by simp [Node.children])]
      rfl
    | parameterized base arguments =>
      have harguments : arguments.mapM (materialize arena clock) =
          ends (.ok (arguments.map arena.materialize)) :=
        mapM_ends fun argument hargument => hchild argument (List.mem_cons_of_mem _ hargument)
      simp only [hchild base List.mem_cons_self, harguments]
      rfl
    | wildcard upper lower =>
      have hbound : ∀ bound : Option NodeId,
          (∀ id ∈ bound, materialize arena clock id = ends (.ok (arena.materialize id))) →
          bound.mapM (materialize arena clock) = ends (.ok (bound.map arena.materialize)) := by
        rintro (_ | id) h
        · rfl
        · simp [h id rfl, ends_ok]
      have hupper := hbound upper fun id hid => hchild id
        (List.mem_append_left _ (Option.mem_toList.mpr hid))
      have hlower := hbound lower fun id hid => hchild id
        (List.mem_append_right _ (Option.mem_toList.mpr hid))
      simp only [hupper, hlower]
      rfl
    | inner outer name =>
      simp only [hchild outer List.mem_cons_self]
      rfl

theorem mapM_materialize (harena : arena.Ordered) {ids : List NodeId} {types : List JavaType}
    (hids : arena.ShowsAll ids types) (hclock : arena.size ≤ clock) :
    ids.mapM (materialize arena clock) = ends (.ok types) := by
  rw [← hids.map_materialize]
  exact mapM_ends fun id hid =>
    materialize_eq harena (hids.inRange id hid) (Nat.lt_of_lt_of_le (hids.inRange id hid) hclock)

theorem build_eq (harena : arena.Ordered) {pending : PendingSchema}
    {entries : List (String × List JavaType)} (hpending : arena.ShowsParameters pending entries)
    (hclock : arena.size ≤ clock) :
    build pending arena clock = ends (TypeSchema.ofEntries entries) := by
  have hrange : ∀ p ∈ pending, ∀ bound ∈ p.2, bound < arena.size := by
    intro p hp
    induction hpending with
    | nil => simp at hp
    | cons hparameter _ ih =>
      rcases List.mem_cons.mp hp with rfl | hp
      · exact hparameter.2.inRange
      · exact ih hp
  rw [← hpending.build_eq, PendingSchema.build, TypeSchema.ofEntries, build, ends_bind,
    List.foldlM_map]
  refine congrArg _ (funext fun declared => ?_)
  rw [List.foldlM_map]
  refine foldlM_ends (fun p hp schema => ?_) declared
  rw [List.foldlM_map]
  refine foldlM_ends (fun bound hbound schema => ?_) schema
  have hbound := hrange p hp bound hbound
  rw [materialize_eq harena hbound (Nat.lt_of_lt_of_le hbound hclock)]
  rfl

end

end Bytewise

/-! ## Whole texts -/

/-- A name that is declared twice in front of a signature. -/
def DeclaredTwice (text name : String) : Prop :=
  ∃ names, Declares text names ∧ List.Duplicate name names

/-- The names are the only ones that the text declares. -/
theorem declaredTwice_iff {text name : String} {names : List String} (h : Declares text names) :
    DeclaredTwice text name ↔ List.Duplicate name names := by
  constructor
  · rintro ⟨others, hothers, htwice⟩
    rwa [h.unique hothers]
  · exact fun htwice => ⟨names, h, htwice⟩

/-- How reading a text may end: with a value, with the offset of a character where the given text
is malformed, or with a name that it must not declare twice. -/
inductive Sound {α : Type} (text : String) (twice : String → Prop) :
    Except SurfaceError α → Prop where
  | value (a : α) : Sound text twice (.ok a)
  | malformed {offset : Nat} (cause : SignatureFault) : offset ≤ text.utf8ByteSize →
      String.Pos.Raw.IsValid text ⟨offset⟩ →
      Sound text twice (.error (.malformedSignature text offset cause))
  | duplicate {name : String} : twice name →
      Sound text twice (.error (.duplicateTypeVariable name))

/-- Reading byte by byte ends, and given the time does so with this result, which is one of those
it may have. -/
structure Safe {α : Type} (text : String) (twice : String → Prop) (bytes : Nat → Outcome α)
    (result : Except SurfaceError α) : Prop where
  ends : ∃ time, ∀ clock, time ≤ clock → bytes clock = Bytewise.ends result
  sound : Sound text twice result

section

variable {α β γ : Type} {text : String} {twice : String → Prop}

theorem sound_fault {fault : Fault} (hsuffix : fault.rest <:+ text.toList) :
    Sound text twice (.error (fault.toError text) : Except SurfaceError α) := by
  obtain ⟨before, htext⟩ := hsuffix
  have hat : At text (byteLength before) fault.rest := ⟨before, htext.symm, rfl⟩
  rw [Fault.toError, ← hat.position_eq]
  exact .malformed _ hat.isValid.le_utf8ByteSize hat.isValid

/-- Reading byte by byte is safe if what follows on the reading is: from nodes which have the types
that reading in one pass gives, it has to come to what is made of these types. -/
theorem safe_read {R : Arena → α → β → Prop} {limit : Nat} {bytes : Nat → ByteReader α}
    {reader : Nat → Reader α} {direct : Nat → List Char → Except Fault (β × List Char)}
    (follow : Nat → α → Arena → Outcome γ) (make : β → Except SurfaceError γ)
    (hmirror : ∀ clock, 2 * fuelFor text.toList ≤ clock →
      Mirrors text limit (bytes clock ⟨0, .empty⟩)
        (reader (fuelFor text.toList) ⟨text.toList, .empty⟩))
    (hfollows : Follows R .empty (reader (fuelFor text.toList) ⟨text.toList, .empty⟩)
      (direct (fuelFor text.toList) text.toList))
    (hmake : ∀ arena a b, arena.Ordered → R arena a b → ∀ clock, arena.size ≤ clock →
      follow clock a arena = Bytewise.ends (make b))
    (hsound : ∀ b, Direct.read direct text = .ok b → Sound text twice (make b)) :
    Safe text twice
      (fun clock => bytes clock ⟨0, .empty⟩ >>= fun read => follow clock read.1 read.2.arena)
      (Direct.read direct text >>= make) := by
  unfold Direct.read at hsound ⊢
  generalize reader (fuelFor text.toList) ⟨text.toList, .empty⟩ = run at hmirror hfollows
  generalize direct (fuelFor text.toList) text.toList = run' at hfollows hsound ⊢
  cases run with
  | error fault =>
    cases run' with
    | ok result => cases hfollows
    | error fault' =>
      cases hfollows
      refine ⟨⟨2 * fuelFor text.toList, fun clock hclock => ?_⟩, ?_⟩
      · simp only [(hmirror clock hclock).of_error.1]
        rfl
      · exact sound_fault (hmirror _ le_rfl).of_error.2
  | ok read =>
    cases run' with
    | error fault => cases hfollows
    | ok result =>
      obtain ⟨-, hordered, -, hr⟩ := hfollows
      refine ⟨⟨max (2 * fuelFor text.toList) read.2.arena.size, fun clock hclock => ?_⟩,
        hsound _ rfl⟩
      obtain ⟨htime, hsize⟩ := Nat.max_le.mp hclock
      obtain ⟨position, hread⟩ := (hmirror clock htime).of_ok
      simp only [hread]
      exact hmake _ _ _ hordered hr clock hsize

theorem safe_parseType (text : String) (twice : String → Prop) :
    Safe text twice (Bytewise.parseType text) (parseType text) := by
  rw [parseType_eq, ← bind_pure (Direct.read _ text)]
  refine safe_read (fun clock id arena => Bytewise.materialize arena clock id) pure
    (fun _ => mirrors_wholeType) (follows_wholeType _ text.toList)
    (fun arena id type hordered hid clock hclock => ?_) fun type _ => .value type
  rw [← hid.type_eq]
  exact Bytewise.materialize_eq hordered hid.inRange (Nat.lt_of_lt_of_le hid.inRange hclock)

/-- What a reader is refused for afterwards is found at the start of the text. -/
theorem Safe.check {bytes : Nat → Outcome α} {result : Except SurfaceError α}
    (h : Safe text twice bytes result) (refused : α → Bool) (cause : SignatureFault) :
    Safe text twice
      (fun clock => do
        let a ← bytes clock
        if refused a then throw (.error (.malformedSignature text 0 cause))
        pure a)
      (do
        let a ← result
        if refused a then throw (.malformedSignature text 0 cause)
        pure a) := by
  obtain ⟨⟨time, hends⟩, hsound⟩ := h
  refine ⟨⟨time, fun clock hclock => ?_⟩, ?_⟩
  · rw [hends clock hclock, Bytewise.ends_bind]
    refine congrArg _ (funext fun a => ?_)
    cases refused a <;> rfl
  · cases hsound with
    | malformed cause' hsize hvalid => exact .malformed cause' hsize hvalid
    | duplicate htwice => exact .duplicate htwice
    | value a =>
      show Sound text twice (do
        if refused a then throw (.malformedSignature text 0 cause)
        pure a)
      cases refused a with
      | false => exact .value a
      | true => exact .malformed cause (Nat.zero_le _) String.Pos.Raw.isValid_zero

theorem safe_parseTypeDescriptor (text : String) (twice : String → Prop) :
    Safe text twice (Bytewise.parseTypeDescriptor text) (parseTypeDescriptor text) :=
  (safe_parseType text twice).check isGeneric .genericDescriptor

theorem sound_ofEntries {entries : List (String × List JavaType)} (f : TypeSchema → α)
    (hnames : entries ≠ [] → Declares text (entries.map Prod.fst)) :
    Sound text (DeclaredTwice text) (TypeSchema.ofEntries entries >>= fun schema =>
      pure (f schema)) := by
  by_cases hnodup : (entries.map Prod.fst).Nodup
  · rw [TypeSchema.ofEntries_eq hnodup]
    exact .value _
  · obtain ⟨name, htwice, hfail⟩ := TypeSchema.ofEntries_of_not_nodup hnodup
    have hsome : entries ≠ [] := by
      rintro rfl
      exact hnodup List.nodup_nil
    rw [hfail]
    exact .duplicate ((declaredTwice_iff (hnames hsome)).mpr htwice)

theorem safe_parseClassSignature (text : String) :
    Safe text (DeclaredTwice text) (Bytewise.parseClassSignature text)
      (parseClassSignature text) := by
  rw [parseClassSignature_eq]
  refine safe_read
    (fun clock read arena => do
      let schema ← Bytewise.build read.1 arena clock
      let superclass ← Bytewise.materialize arena clock read.2.1
      let interfaces ← read.2.2.mapM (Bytewise.materialize arena clock)
      pure (ClassSignature.mk schema superclass interfaces))
    _ (fun _ => mirrors_wholeClass) (follows_wholeClass _ text.toList) ?_ ?_
  · rintro arena ⟨pending, superclass, interfaces⟩ ⟨entries, supertype, types⟩ hordered
      ⟨hpending, hsuper, hinterfaces⟩ clock hclock
    have hsupertype := Bytewise.materialize_eq hordered hsuper.inRange
      (Nat.lt_of_lt_of_le hsuper.inRange hclock)
    simp only [Bytewise.build_eq hordered hpending hclock, hsupertype, hsuper.type_eq,
      Bytewise.mapM_materialize hordered hinterfaces hclock]
    exact (Bytewise.ends_bind (TypeSchema.ofEntries entries) fun schema =>
      pure (ClassSignature.mk schema supertype types)).symm
  · rintro ⟨entries, supertype, types⟩ hread
    refine sound_ofEntries _ fun hsome => ?_
    obtain ⟨rest, hwhole⟩ := Direct.read_eq_ok_iff.mp hread
    obtain ⟨left, hbegin⟩ := Direct.typeParameters_of_wholeClass hwhole
    exact declares_of_typeParameters (by unfold fuelFor; omega) hbegin hsome

theorem safe_parseGenericMethodSignature (text : String) :
    Safe text (DeclaredTwice text) (Bytewise.parseGenericMethodSignature text)
      (parseGenericMethodSignature text) := by
  rw [parseGenericMethodSignature_eq]
  refine safe_read
    (fun clock read arena => do
      let returnType ← Bytewise.materialize arena clock read.2.2
      let parameters ← read.2.1.mapM (Bytewise.materialize arena clock)
      let schema ← Bytewise.build read.1 arena clock
      pure (MethodSignature.mk returnType parameters schema))
    _ (fun _ => mirrors_wholeMethod) (follows_wholeMethod _ text.toList) ?_ ?_
  · rintro arena ⟨pending, parameters, returnType⟩ ⟨entries, types, type⟩ hordered
      ⟨hpending, hparameters, hreturn⟩ clock hclock
    have htype := Bytewise.materialize_eq hordered hreturn.inRange
      (Nat.lt_of_lt_of_le hreturn.inRange hclock)
    simp only [Bytewise.build_eq hordered hpending hclock, htype, hreturn.type_eq,
      Bytewise.mapM_materialize hordered hparameters hclock]
    exact (Bytewise.ends_bind (TypeSchema.ofEntries entries) fun schema =>
      pure (MethodSignature.mk type types schema)).symm
  · rintro ⟨entries, types, type⟩ hread
    refine sound_ofEntries _ fun hsome => ?_
    obtain ⟨rest, hwhole⟩ := Direct.read_eq_ok_iff.mp hread
    obtain ⟨left, hbegin⟩ := Direct.typeParameters_of_wholeMethod hwhole
    exact declares_of_typeParameters (by unfold fuelFor; omega) hbegin hsome

theorem safe_parseMethodDescriptor (text : String) :
    Safe text (DeclaredTwice text) (Bytewise.parseMethodDescriptor text)
      (parseMethodDescriptor text) :=
  (safe_parseGenericMethodSignature text).check (fun signature => !signature.schema.isEmpty)
    .parametersInDescriptor

end

/-- Every reader of signatures is safe on every text. Readers of types know no type parameters and
never find one declared twice. -/
theorem readers_safe (text : String) :
    Safe text (fun _ => False) (Bytewise.parseTypeDescriptor text) (parseTypeDescriptor text) ∧
    Safe text (fun _ => False) (Bytewise.parseType text) (parseType text) ∧
    Safe text (DeclaredTwice text) (Bytewise.parseClassSignature text)
      (parseClassSignature text) ∧
    Safe text (DeclaredTwice text) (Bytewise.parseMethodDescriptor text)
      (parseMethodDescriptor text) ∧
    Safe text (DeclaredTwice text) (Bytewise.parseGenericMethodSignature text)
      (parseGenericMethodSignature text) :=
  ⟨safe_parseTypeDescriptor text _, safe_parseType text _, safe_parseClassSignature text,
    safe_parseMethodDescriptor text, safe_parseGenericMethodSignature text⟩

example : parseType "Lä/ö" = .error (.malformedSignature "Lä/ö" 6 .endOfText) := by
  decide +kernel

example : parseClassSignature "<T:La/B;T::La/C;>La/D;" = .error (.duplicateTypeVariable "T") := by
  decide +kernel

end ApiSurface.Signature
