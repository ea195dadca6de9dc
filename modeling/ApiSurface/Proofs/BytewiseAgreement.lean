import ApiSurface.Proofs.BytewiseReading

/-!
# Reading bytes is reading characters

Every production comes to the same on the bytes of a text as on its characters. As each part that
is repeated takes at least one character, no repetition goes on forever.
-/

namespace ApiSurface.Signature

/-- Each production of the grammar of types, read from the bytes by this clock, comes to what is
read with this fuel. A class type that is read on may end at once, the other parts take a
character. -/
structure Mirrored (text : String) (clock fuel : Nat) : Prop where
  javaType : ∀ position rest arena, At text position rest → 2 * rest.length + 2 ≤ fuel →
    Mirrors text rest.length (Bytewise.javaType text clock ⟨position, arena⟩)
      (javaType fuel ⟨rest, arena⟩)
  referenceType : ∀ position rest arena, At text position rest → 2 * rest.length + 1 ≤ fuel →
    Mirrors text rest.length (Bytewise.referenceType text clock ⟨position, arena⟩)
      (referenceType fuel ⟨rest, arena⟩)
  classType : ∀ position rest arena, At text position rest → 2 * rest.length + 2 ≤ fuel →
    Mirrors text rest.length (Bytewise.classType text clock ⟨position, arena⟩)
      (classType fuel ⟨rest, arena⟩)
  memberClasses : ∀ position rest arena outer, At text position rest →
    2 * rest.length + 2 ≤ fuel →
    Mirrors text (rest.length + 1) (Bytewise.memberClasses text clock outer ⟨position, arena⟩)
      (memberClasses fuel outer ⟨rest, arena⟩)
  withTypeArguments : ∀ position rest arena base, At text position rest →
    2 * rest.length + 2 ≤ fuel →
    Mirrors text (rest.length + 1) (Bytewise.withTypeArguments text clock base ⟨position, arena⟩)
      (withTypeArguments fuel base ⟨rest, arena⟩)
  typeArguments : ∀ position rest arena, At text position rest → 2 * rest.length + 3 ≤ fuel →
    Mirrors text (rest.length + 1) (Bytewise.typeArguments text clock ⟨position, arena⟩)
      (typeArguments fuel ⟨rest, arena⟩)
  typeArgument : ∀ position rest arena, At text position rest → 2 * rest.length + 2 ≤ fuel →
    Mirrors text rest.length (Bytewise.typeArgument text clock ⟨position, arena⟩)
      (typeArgument fuel ⟨rest, arena⟩)

theorem ascii_of_primitiveName {c : Char} {name : String} (h : primitiveName c = some name) :
    c.toNat < 0x80 := by
  unfold primitiveName at h
  split at h <;> first | decide | cases h

theorem primitiveName_firstByte (c : Char) : primitiveName (firstByte c) = primitiveName c := by
  rcases Nat.lt_or_ge c.toNat 0x80 with hone | hmore
  · rw [firstByte_ascii hone]
  · have hnone : ∀ c : Char, 0x80 ≤ c.toNat → primitiveName c = none := fun c hc =>
      Option.eq_none_iff_forall_ne_some.mpr fun name hname =>
        absurd (ascii_of_primitiveName hname) (Nat.not_lt.mpr hc)
    rw [hnone c hmore, hnone _ (le_toNat_firstByte hmore)]

theorem peek_bind {α : Type} {g : Option Char → Reader α} {rest : List Char} {arena : Arena} :
    (Reader.peek >>= g) ⟨rest, arena⟩ = g rest.head? ⟨rest, arena⟩ := rfl

section

variable {text : String} {clock fuel position : Nat} {rest : List Char}
  (h : Mirrored text clock fuel) (arena : Arena) (hat : At text position rest)

include h hat

theorem mirrors_javaType (hfuel : 2 * rest.length + 2 ≤ fuel + 1) :
    Mirrors text rest.length (Bytewise.javaType text (clock + 1) ⟨position, arena⟩)
      (javaType (fuel + 1) ⟨rest, arena⟩) := by
  rw [Bytewise.javaType]
  refine mirrors_peek hat ?_
  cases rest with
  | nil => exact mirrors_fail hat _
  | cons c rest =>
    simp (disch := decide) only [List.head?_cons, Option.map_some, firstByte_eq_iff,
      primitiveName_firstByte]
    split_ifs
    · exact h.referenceType position (c :: rest) arena hat (by omega)
    · cases hprimitive : primitiveName c with
      | none => exact mirrors_fail hat _
      | some name =>
        exact mirrors_advance hat (ascii_of_primitiveName hprimitive) fun hnext =>
          mirrors_alloc hnext (Nat.lt_succ_self _) _

theorem mirrors_referenceType (hclock : 2 * fuel ≤ clock)
    (hfuel : 2 * rest.length + 1 ≤ fuel + 1) :
    Mirrors text rest.length (Bytewise.referenceType text (clock + 1) ⟨position, arena⟩)
      (referenceType (fuel + 1) ⟨rest, arena⟩) := by
  rw [Bytewise.referenceType]
  cases rest with
  | nil =>
    rw [next_nil hat]
    exact mirrors_fail hat _
  | cons c rest =>
    rw [next_cons hat]
    rw [List.length_cons] at hfuel ⊢
    generalize hbyte : firstByte c = byte
    split
    · obtain rfl : c = 'L' := (firstByte_eq_iff (by decide)).mp hbyte
      exact (h.classType _ rest arena (hat.tail (by decide)) (by omega)).mono (Nat.le_succ _)
    · obtain rfl : c = 'T' := (firstByte_eq_iff (by decide)).mp hbyte
      show Mirrors text _ _ ((Reader.identifier [';'] >>= fun name => do
        Reader.expect ';'
        Reader.alloc (.var name)) ⟨rest, arena⟩)
      refine (mirrors_identifier (by simp) (hat.tail (by decide)) (by omega)).bind
        fun name _ named _ hname hshort => ?_
      refine (mirrors_expect (by decide) hname).bind fun _ _ closed _ hclose hshorter => ?_
      exact mirrors_alloc hclose (by omega) _
    · obtain rfl : c = '[' := (firstByte_eq_iff (by decide)).mp hbyte
      show Mirrors text _ _ ((javaType fuel >>= fun element => Reader.alloc (.array element))
        ⟨rest, arena⟩)
      refine (h.javaType _ rest arena (hat.tail (by decide)) (by omega)).bind
        fun element _ read _ hread hshort => ?_
      exact mirrors_alloc hread (by omega) _
    · rename_i hclass hvar harray
      subst hbyte
      have hfault : referenceType (fuel + 1) ⟨c :: rest, arena⟩ =
          Reader.fail (.referenceTypeExpected (firstByte c)) ⟨c :: rest, arena⟩ := by
        rw [referenceType, peek_bind]
        generalize hnext : (c :: rest).head? = next
        split
        · cases hnext
        · cases hnext
          exact (hclass rfl).elim
        · cases hnext
          exact (hvar rfl).elim
        · cases hnext
          exact (harray rfl).elim
        · cases hnext
          rfl
      rw [hfault]
      exact mirrors_fail hat _

theorem mirrors_classType (hclock : 2 * fuel ≤ clock)
    (hfuel : 2 * rest.length + 2 ≤ fuel + 1) :
    Mirrors text rest.length (Bytewise.classType text (clock + 1) ⟨position, arena⟩)
      (classType (fuel + 1) ⟨rest, arena⟩) := by
  rw [Bytewise.classType, classType]
  refine (mirrors_identifier (by simp) hat (by omega)).bind fun name _ named _ hname hshort => ?_
  refine (mirrors_alloc hname hshort _).bind fun base _ made _ hmade hshort => ?_
  refine (h.withTypeArguments _ made _ base hmade (by omega)).bind
    fun outer _ given _ hgiven hshorter => ?_
  refine (h.memberClasses _ given _ outer hgiven (by omega)).bind
    fun type _ read _ hread hshortest => ?_
  refine (mirrors_expect (by decide) hread).bind fun _ _ closed _ hclosed hend => ?_
  exact mirrors_pure hclosed (by omega) _

theorem mirrors_memberClasses (outer : NodeId) (hclock : 2 * fuel ≤ clock)
    (hfuel : 2 * rest.length + 2 ≤ fuel + 1) :
    Mirrors text (rest.length + 1) (Bytewise.memberClasses text (clock + 1) outer ⟨position, arena⟩)
      (memberClasses (fuel + 1) outer ⟨rest, arena⟩) := by
  rw [Bytewise.memberClasses, memberClasses]
  refine mirrors_peek hat ?_
  simp (disch := decide) only [map_firstByte_eq_some_iff]
  split_ifs with hnext
  · obtain ⟨rest, rfl⟩ := List.head?_eq_some_iff.mp hnext
    rw [List.length_cons] at hfuel ⊢
    refine mirrors_advance hat (by decide) fun hat => ?_
    refine (mirrors_identifier (by simp) hat (by omega)).bind fun name _ named _ hname hshort => ?_
    refine (mirrors_alloc hname hshort _).bind fun member _ made _ hmade hshort => ?_
    refine (h.withTypeArguments _ made _ member hmade (by omega)).bind
      fun outer _ given _ hgiven hshorter => ?_
    exact (h.memberClasses _ given _ outer hgiven (by omega)).mono (by omega)
  · exact mirrors_pure hat (Nat.lt_succ_self _) _

theorem mirrors_withTypeArguments (base : NodeId) (hfuel : 2 * rest.length + 2 ≤ fuel + 1) :
    Mirrors text (rest.length + 1)
      (Bytewise.withTypeArguments text (clock + 1) base ⟨position, arena⟩)
      (withTypeArguments (fuel + 1) base ⟨rest, arena⟩) := by
  rw [Bytewise.withTypeArguments, withTypeArguments]
  refine mirrors_peek hat ?_
  simp (disch := decide) only [map_firstByte_eq_some_iff]
  split_ifs with hnext
  · obtain ⟨rest, rfl⟩ := List.head?_eq_some_iff.mp hnext
    rw [List.length_cons] at hfuel ⊢
    refine mirrors_advance hat (by decide) fun hat => ?_
    refine (h.typeArguments _ rest _ hat (by omega)).bind
      fun arguments _ given _ hgiven hshort => ?_
    refine (mirrors_expect (by decide) hgiven).bind fun _ _ closed _ hclosed hshorter => ?_
    split_ifs
    · exact mirrors_fail hclosed _
    · exact mirrors_alloc hclosed (by omega) _
  · exact mirrors_pure hat (Nat.lt_succ_self _) _

theorem mirrors_typeArguments (hfuel : 2 * rest.length + 3 ≤ fuel + 1) :
    Mirrors text (rest.length + 1) (Bytewise.typeArguments text (clock + 1) ⟨position, arena⟩)
      (typeArguments (fuel + 1) ⟨rest, arena⟩) := by
  rw [Bytewise.typeArguments, typeArguments]
  refine mirrors_peek hat ?_
  simp (disch := decide) only [map_firstByte_eq_some_iff]
  split_ifs with hnext
  · exact mirrors_pure hat (Nat.lt_succ_self _) _
  · refine (h.typeArgument _ rest _ hat (by omega)).bind fun argument _ read _ hread hshort => ?_
    refine (h.typeArguments _ read _ hread (by omega)).bind
      fun arguments _ last _ hlast hshorter => ?_
    exact mirrors_pure hlast (by omega) _

theorem mirrors_typeArgument (hfuel : 2 * rest.length + 2 ≤ fuel + 1) :
    Mirrors text rest.length (Bytewise.typeArgument text (clock + 1) ⟨position, arena⟩)
      (typeArgument (fuel + 1) ⟨rest, arena⟩) := by
  rw [Bytewise.typeArgument]
  cases rest with
  | nil =>
    rw [next_nil hat]
    cases fuel <;> exact mirrors_fail hat _
  | cons c rest =>
    rw [next_cons hat]
    rw [List.length_cons] at hfuel ⊢
    generalize hbyte : firstByte c = byte
    split
    · obtain rfl : c = '*' := (firstByte_eq_iff (by decide)).mp hbyte
      exact mirrors_alloc (hat.tail (by decide)) (Nat.lt_succ_self _) _
    · obtain rfl : c = '+' := (firstByte_eq_iff (by decide)).mp hbyte
      show Mirrors text _ _ ((referenceType fuel >>= fun bound =>
        Reader.alloc (.wildcard (some bound) none)) ⟨rest, arena⟩)
      refine (h.referenceType _ rest arena (hat.tail (by decide)) (by omega)).bind
        fun bound _ read _ hread hshort => ?_
      exact mirrors_alloc hread (by omega) _
    · obtain rfl : c = '-' := (firstByte_eq_iff (by decide)).mp hbyte
      show Mirrors text _ _ ((referenceType fuel >>= fun bound =>
        Reader.alloc (.wildcard none (some bound))) ⟨rest, arena⟩)
      refine (h.referenceType _ rest arena (hat.tail (by decide)) (by omega)).bind
        fun bound _ read _ hread hshort => ?_
      exact mirrors_alloc hread (by omega) _
    · rename_i hany hupper hlower
      subst hbyte
      have hread : typeArgument (fuel + 1) ⟨c :: rest, arena⟩ =
          referenceType fuel ⟨c :: rest, arena⟩ := by
        rw [typeArgument, peek_bind]
        generalize hnext : (c :: rest).head? = next
        split
        · cases hnext
          exact (hany rfl).elim
        · cases hnext
          exact (hupper rfl).elim
        · cases hnext
          exact (hlower rfl).elim
        · rfl
      rw [hread]
      exact h.referenceType _ (c :: rest) arena hat (by rw [List.length_cons]; omega)

end

/-- By induction on the fuel, which bounds how deep the productions are nested. The clock is twice
as large, since a name may have four bytes for each character. -/
theorem mirrored (text : String) {clock fuel : Nat} (hclock : 2 * fuel ≤ clock) :
    Mirrored text clock fuel := by
  induction fuel generalizing clock with
  | zero => constructor <;> intros <;> omega
  | succ fuel ih =>
    obtain ⟨clock, rfl⟩ := Nat.exists_eq_add_one_of_ne_zero (show clock ≠ 0 by omega)
    have hclock : 2 * fuel ≤ clock := by omega
    have h := ih hclock
    exact {
      javaType _ _ arena hat := mirrors_javaType h arena hat
      referenceType _ _ arena hat := mirrors_referenceType h arena hat hclock
      classType _ _ arena hat := mirrors_classType h arena hat hclock
      memberClasses _ _ arena outer hat := mirrors_memberClasses h arena hat outer hclock
      withTypeArguments _ _ arena base hat := mirrors_withTypeArguments h arena hat base
      typeArguments _ _ arena hat := mirrors_typeArguments h arena hat
      typeArgument _ _ arena hat := mirrors_typeArgument h arena hat }

/-! ## Repeated parts -/

/-- Reads one part after another as long as the next character says so. -/
def Reader.many {α : Type} (goesOn : Option Char → Bool) (part : Reader α) : Nat → Reader (List α)
  | 0 => Reader.fail .endOfText
  | steps + 1 => do
    if goesOn (← Reader.peek) then
      let first ← part
      let others ← many goesOn part steps
      pure (first :: others)
    else
      pure []

/-- Reads reference types, each behind a mark. -/
def Reader.marked (mark : Char) (fuel : Nat) : Nat → Reader (List NodeId) :=
  Reader.many (· == some mark) do
    Reader.skip
    referenceType fuel

section

variable {fuel : Nat}

theorem interfaceBounds_eq (steps : Nat) :
    interfaceBounds fuel steps = Reader.marked ':' fuel steps := by
  induction steps with
  | zero => rfl
  | succ steps ih =>
    unfold interfaceBounds Reader.marked Reader.many
    simp only [beq_iff_eq, ih, bind_assoc]
    rfl

theorem typeParameterList_eq (steps : Nat) :
    typeParameterList fuel steps = Reader.many (· != some '>') (typeParameter fuel) steps := by
  induction steps with
  | zero => rfl
  | succ steps ih =>
    unfold typeParameterList Reader.many
    simp only [bne_iff_ne, ne_eq, ite_not, ih]

theorem interfaceTypes_eq (steps : Nat) :
    interfaceTypes fuel steps = Reader.many Option.isSome (referenceType fuel) steps := by
  induction steps with
  | zero => rfl
  | succ steps ih =>
    unfold interfaceTypes Reader.many
    simp only [ih, Option.isSome_iff_ne_none, Option.isNone_iff_eq_none, ne_eq, ite_not]

theorem parameterTypes_eq (steps : Nat) :
    parameterTypes fuel steps = Reader.many (· != some ')') (javaType fuel) steps := by
  induction steps with
  | zero => rfl
  | succ steps ih =>
    unfold parameterTypes Reader.many
    simp only [bne_iff_ne, ne_eq, ite_not, ih]

theorem thrownTypes_eq (steps : Nat) :
    thrownTypes fuel steps = (do let _ ← Reader.marked '^' fuel steps; pure ()) := by
  induction steps with
  | zero => rfl
  | succ steps ih =>
    unfold thrownTypes Reader.marked Reader.many
    simp only [beq_iff_eq, ih, bind_assoc]
    refine congrArg _ (funext fun next => ?_)
    split_ifs
    · simp only [bind_assoc, pure_bind]
      rfl
    · simp only [pure_bind]

end

section

variable {α : Type} {text : String} {position : Nat} {rest : List Char}

/-- By induction on the steps. Each part takes a character, so they are enough. -/
theorem mirrors_many {goesOn : Option Char → Bool} {bytes : ByteReader α} {part : Reader α}
    {clock steps : Nat} (arena : Arena) (hat : At text position rest)
    (hclock : rest.length < clock) (hsteps : rest.length < steps)
    (hgoes : ∀ next : Option Char, goesOn (next.map firstByte) = goesOn next)
    (hpart : ∀ position rest' arena, At text position rest' → rest'.length ≤ rest.length →
      goesOn rest'.head? →
      Mirrors text rest'.length (bytes ⟨position, arena⟩) (part ⟨rest', arena⟩)) :
    Mirrors text (rest.length + 1) (Bytewise.many text goesOn bytes clock ⟨position, arena⟩)
      (Reader.many goesOn part steps ⟨rest, arena⟩) := by
  induction steps generalizing clock position rest arena with
  | zero => omega
  | succ steps ih =>
    obtain ⟨clock, rfl⟩ := Nat.exists_eq_add_one_of_ne_zero (show clock ≠ 0 by omega)
    rw [Bytewise.many, Reader.many]
    refine mirrors_peek hat ?_
    rw [hgoes]
    split_ifs with hnext
    · refine (hpart position rest arena hat le_rfl hnext).bind
        fun first _ read _ hread hshort => ?_
      refine (ih _ hread (by omega) (by omega) fun position rest' arena hat hle =>
        hpart position rest' arena hat (by omega)).bind fun others _ last _ hlast hshorter => ?_
      exact mirrors_pure hlast (by omega) _
    · exact mirrors_pure hat (Nat.lt_succ_self _) _

theorem beq_map_firstByte {mark : Char} (hmark : mark.toNat < 0x80) (next : Option Char) :
    (next.map firstByte == some mark) = (next == some mark) := by
  rw [Bool.eq_iff_iff, beq_iff_eq, beq_iff_eq]
  exact map_firstByte_eq_some_iff hmark

theorem bne_map_firstByte {mark : Char} (hmark : mark.toNat < 0x80) (next : Option Char) :
    (next.map firstByte != some mark) = (next != some mark) :=
  congrArg (! ·) (beq_map_firstByte hmark next)

end

section

variable {text : String} {clock fuel position : Nat} {rest : List Char} (hclock : 2 * fuel ≤ clock)
  (arena : Arena) (hat : At text position rest) (hfuel : 2 * rest.length + 2 ≤ fuel)

include hclock hat hfuel

theorem mirrors_marked {mark : Char} (hmark : mark.toNat < 0x80) :
    Mirrors text (rest.length + 1) (Bytewise.marked text mark clock ⟨position, arena⟩)
      (Reader.marked mark fuel fuel ⟨rest, arena⟩) := by
  refine mirrors_many arena hat (by omega) (by omega) (beq_map_firstByte hmark)
    fun position rest' arena hat hle hgo => ?_
  obtain ⟨more, rfl⟩ := List.head?_eq_some_iff.mp (beq_iff_eq.mp hgo)
  rw [List.length_cons] at hle
  refine mirrors_advance hat hmark fun hat => ?_
  exact ((mirrored text hclock).referenceType _ more arena hat (by omega)).mono (Nat.le_succ _)

theorem mirrors_typeParameter :
    Mirrors text rest.length (Bytewise.typeParameter text clock ⟨position, arena⟩)
      (typeParameter fuel ⟨rest, arena⟩) := by
  rw [Bytewise.typeParameter, typeParameter]
  refine (mirrors_identifier (by simp) hat (by omega)).bind
    fun name _ named arena hname hshort => ?_
  refine (mirrors_expect (by decide) hname).bind fun _ _ parted arena hparted hshorter => ?_
  refine mirrors_peek hparted ?_
  simp (disch := decide) only [map_firstByte_eq_some_iff, interfaceBounds_eq]
  split_ifs
  · refine (mirrors_marked hclock arena hparted (by omega) (by decide)).bind
      fun bounds _ read _ hread hend => ?_
    exact mirrors_pure hread (by omega) _
  · refine ((mirrored text hclock).referenceType _ parted arena hparted (by omega)).bind
      fun classBound _ bounded arena hbounded hend => ?_
    refine (mirrors_marked hclock arena hbounded (by omega) (by decide)).bind
      fun bounds _ read _ hread hend => ?_
    exact mirrors_pure hread (by omega) _

theorem mirrors_typeParameters :
    Mirrors text (rest.length + 1) (Bytewise.typeParameters text clock ⟨position, arena⟩)
      (typeParameters fuel ⟨rest, arena⟩) := by
  rw [Bytewise.typeParameters, typeParameters]
  refine mirrors_peek hat ?_
  simp (disch := decide) only [map_firstByte_eq_some_iff, typeParameterList_eq]
  split_ifs with hnext
  · obtain ⟨rest, rfl⟩ := List.head?_eq_some_iff.mp hnext
    rw [List.length_cons] at hfuel ⊢
    refine mirrors_advance hat (by decide) fun hat => ?_
    refine (mirrors_many arena hat (by omega) (by omega) (bne_map_firstByte (by decide))
      fun position rest' arena hat hle _ => mirrors_typeParameter hclock arena hat (by omega)).bind
      fun parameters _ listed arena hlisted hshort => ?_
    refine (mirrors_expect (by decide) hlisted).bind fun _ _ closed _ hclosed hshorter => ?_
    split_ifs
    · exact mirrors_fail hclosed _
    · exact mirrors_pure hclosed (by omega) _
  · exact mirrors_pure hat (Nat.lt_succ_self _) _

end

/-! ## Whole texts -/

section

variable {text : String} {limit position clock : Nat} {rest : List Char} {arena : Arena}

theorem mirrors_finish (hat : At text position rest) (hlimit : rest.length < limit) :
    Mirrors text limit (Bytewise.finish text ⟨position, arena⟩)
      (Reader.finish ⟨rest, arena⟩) := by
  rw [Bytewise.finish, Reader.finish]
  refine mirrors_peek hat ?_
  rw [Option.isSome_map]
  split_ifs
  · exact mirrors_fail hat _
  · exact mirrors_pure hat hlimit _

theorem mirrors_wholeType (hclock : 2 * fuelFor text.toList ≤ clock) :
    Mirrors text text.toList.length (Bytewise.wholeType text clock ⟨0, .empty⟩)
      (wholeType (fuelFor text.toList) ⟨text.toList, .empty⟩) := by
  have hfuel : 2 * text.toList.length + 2 ≤ fuelFor text.toList := by unfold fuelFor; omega
  refine ((mirrored text hclock).javaType 0 _ .empty (at_zero text) hfuel).bind
    fun type _ read _ hread hshort => ?_
  exact (mirrors_finish hread hshort).bind fun _ _ last _ hlast hend => mirrors_pure hlast hend _

theorem mirrors_wholeClass (hclock : 2 * fuelFor text.toList ≤ clock) :
    Mirrors text (text.toList.length + 1) (Bytewise.wholeClass text clock ⟨0, .empty⟩)
      (wholeClass (fuelFor text.toList) ⟨text.toList, .empty⟩) := by
  have hfuel : 2 * text.toList.length + 2 ≤ fuelFor text.toList := by unfold fuelFor; omega
  refine (mirrors_typeParameters hclock .empty (at_zero text) hfuel).bind
    fun parameters _ first arena hfirst hshort => ?_
  refine ((mirrored text hclock).referenceType _ first arena hfirst (by omega)).bind
    fun superclass _ second arena hsecond hshorter => ?_
  rw [interfaceTypes_eq]
  refine (mirrors_many arena hsecond (by omega) (by omega) (fun next => Option.isSome_map)
    fun _ rest arena hat hle _ =>
      (mirrored text hclock).referenceType _ rest arena hat (by omega)).bind
    fun interfaces _ last _ hlast hend => ?_
  exact mirrors_pure hlast (by omega) _

theorem mirrors_wholeMethod (hclock : 2 * fuelFor text.toList ≤ clock) :
    Mirrors text (text.toList.length + 1) (Bytewise.wholeMethod text clock ⟨0, .empty⟩)
      (wholeMethod (fuelFor text.toList) ⟨text.toList, .empty⟩) := by
  have hfuel : 2 * text.toList.length + 2 ≤ fuelFor text.toList := by unfold fuelFor; omega
  rw [Bytewise.wholeMethod, wholeMethod]
  simp only [thrownTypes_eq, parameterTypes_eq, bind_assoc, pure_bind]
  refine (mirrors_typeParameters hclock .empty (at_zero text) hfuel).bind
    fun typeParameters _ first arena hfirst hshort => ?_
  refine (mirrors_expect (by decide) hfirst).bind fun _ _ opened arena hopened hopen => ?_
  refine (mirrors_many arena hopened (by omega) (by omega) (bne_map_firstByte (by decide))
    fun _ rest arena hat hle _ => (mirrored text hclock).javaType _ rest arena hat (by omega)).bind
    fun parameters _ listed arena hlisted hlist => ?_
  refine (mirrors_expect (by decide) hlisted).bind fun _ _ closed arena hclosed hclose => ?_
  refine ((mirrored text hclock).javaType _ closed arena hclosed (by omega)).bind
    fun returnType _ typed arena htyped htype => ?_
  refine (mirrors_marked hclock arena htyped (by omega) (by decide)).bind
    fun _ _ thrown arena hthrown hthrow => ?_
  exact (mirrors_finish hthrown hthrow).bind fun _ _ last _ hlast hend =>
    mirrors_pure hlast (by omega) _

end

end ApiSurface.Signature
