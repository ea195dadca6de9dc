import Mathlib.Data.List.TakeDrop
import Mathlib.Data.List.TakeWhile
import ApiSurface.Proofs.DirectReading

/-!
# The grammar of types

How a type is spelled in a signature, as a relation between types and texts. A text is read as a
type exactly if it is a spelling of the type, and a spelling is read as such whatever text follows.
-/

namespace ApiSurface.Signature

/-- A name stands before the first of the terminators, and is not empty. -/
def IsName (terminators name : List Char) : Prop := name ≠ [] ∧ ∀ c ∈ name, c ∉ terminators

instance (terminators name : List Char) : Decidable (IsName terminators name) :=
  decidable_of_iff (name ≠ [] ∧ name.all (fun c => !terminators.contains c) = true)
    (by simp [IsName])

/-- What a part of a spelling is: the part of a class type that arguments or a closing mark follow,
a class type without its marks, or a whole type at one of three places. -/
inductive Place where
  | stem
  | classType
  | reference
  | type
  | argument
  deriving DecidableEq, Repr

inductive Spelled : Place → JavaType → List Char → Prop where
  | basic {name : List Char} : IsName ['<', '.', ';'] name →
      Spelled .stem (.basic (dotted (String.ofList name))) name
  | inner {outer : JavaType} {text name : List Char} : Spelled .classType outer text →
      IsName ['<', '.', ';'] name →
      Spelled .stem (.inner outer (String.ofList name)) (text ++ '.' :: name)
  | raw {t : JavaType} {text : List Char} : Spelled .stem t text → Spelled .classType t text
  | generic {base : JavaType} {text : List Char} {arguments : List (JavaType × List Char)} :
      Spelled .stem base text → arguments ≠ [] → (∀ a ∈ arguments, Spelled .argument a.1 a.2) →
      Spelled .classType (.parameterized base (arguments.map Prod.fst))
        (text ++ '<' :: (arguments.flatMap Prod.snd ++ ['>']))
  | ofClass {t : JavaType} {text : List Char} : Spelled .classType t text →
      Spelled .reference t ('L' :: (text ++ [';']))
  | var {name : List Char} : IsName [';'] name →
      Spelled .reference (.var (String.ofList name)) ('T' :: (name ++ [';']))
  | array {element : JavaType} {text : List Char} : Spelled .type element text →
      Spelled .reference (.array element) ('[' :: text)
  | primitive {c : Char} {name : String} : primitiveName c = some name →
      Spelled .type (.basic name) [c]
  | ofReference {t : JavaType} {text : List Char} : Spelled .reference t text → Spelled .type t text
  | unbounded : Spelled .argument (.wildcard none none) ['*']
  | upper {t : JavaType} {text : List Char} : Spelled .reference t text →
      Spelled .argument (.wildcard (some t) none) ('+' :: text)
  | lower {t : JavaType} {text : List Char} : Spelled .reference t text →
      Spelled .argument (.wildcard none (some t)) ('-' :: text)
  | exact {t : JavaType} {text : List Char} : Spelled .reference t text →
      Spelled .argument t text

/-! ## Names and marks -/

theorem ok_bind {ε α β : Type} (a : α) (f : α → Except ε β) : (Except.ok a >>= f) = f a := rfl

theorem bind_eq_ok_iff {ε α β : Type} {x : Except ε α} {f : α → Except ε β} {b : β} :
    (x >>= f) = .ok b ↔ ∃ a, x = .ok a ∧ f a = .ok b := by
  constructor
  · intro h
    cases x with
    | error e => cases h
    | ok a => exact ⟨a, rfl, h⟩
  · intro h
    obtain ⟨a, rfl, hf⟩ := h
    exact hf

theorem exists_of_map_eq_ok {ε α β : Type} {x : Except ε α} {f : α → β} {b : β}
    (h : x.map f = .ok b) : ∃ a, x = .ok a ∧ f a = b := by
  cases x with
  | error e => cases h
  | ok a => exact ⟨a, rfl, Except.ok.inj h⟩

namespace Direct

variable {terminators name text rest : List Char}

theorem expect_eq_ok_iff {wanted : Char} :
    expect wanted text = .ok ((), rest) ↔ text = wanted :: rest := by
  cases text with
  | nil => simp [expect, fail]
  | cons c text =>
    by_cases hc : c = wanted <;> simp [expect, fail, hc]

@[simp] theorem expect_cons (wanted : Char) (rest : List Char) :
    expect wanted (wanted :: rest) = .ok ((), rest) :=
  expect_eq_ok_iff.mpr rfl

theorem identifier_append (hname : IsName terminators name)
    (hrest : ∀ c ∈ rest.head?, c ∈ terminators) :
    identifier terminators (name ++ rest) = .ok (String.ofList name, rest) := by
  have hspan : (name ++ rest).span (fun c => !terminators.contains c) = (name, rest) := by
    rw [List.span_eq_takeWhile_dropWhile]
    have hin : ∀ c ∈ name, (!terminators.contains c) = true := by simpa using hname.2
    rw [List.takeWhile_append_of_pos hin, List.dropWhile_append_of_pos hin]
    cases rest with
    | nil => simp
    | cons c rest => simp [hrest c rfl]
  rw [identifier, hspan]
  cases name with
  | nil => exact absurd rfl hname.1
  | cons c name => rfl

theorem exists_of_identifier {value : String}
    (h : identifier terminators text = .ok (value, rest)) :
    ∃ name, value = String.ofList name ∧ IsName terminators name ∧ text = name ++ rest := by
  unfold identifier at h
  rw [List.span_eq_takeWhile_dropWhile] at h
  split at h
  · cases h
  · rename_i name rest' hne hsplit
    cases h
    obtain ⟨rfl, rfl⟩ := Prod.mk.inj hsplit
    refine ⟨_, rfl, ⟨hne, ?_⟩, List.takeWhile_append_dropWhile.symm⟩
    intro c hc
    simpa using List.mem_takeWhile_imp hc

end Direct

/-! ## What is read is a spelling -/

/-- What each production has read, if it succeeds with this fuel. Members and arguments go on with
the spelling of the class type before them. -/
structure Derives (fuel : Nat) : Prop where
  javaType : ∀ text t rest, Direct.javaType fuel text = .ok (t, rest) →
    ∃ read, text = read ++ rest ∧ Spelled .type t read
  referenceType : ∀ text t rest, Direct.referenceType fuel text = .ok (t, rest) →
    ∃ read, text = read ++ rest ∧ Spelled .reference t read
  classType : ∀ text t rest, Direct.classType fuel text = .ok (t, rest) →
    ∃ read, text = read ++ ';' :: rest ∧ Spelled .classType t read
  memberClasses : ∀ outer before text t rest, Spelled .classType outer before →
    Direct.memberClasses fuel outer text = .ok (t, rest) →
    ∃ read, text = read ++ rest ∧ Spelled .classType t (before ++ read)
  withTypeArguments : ∀ base before text t rest, Spelled .stem base before →
    Direct.withTypeArguments fuel base text = .ok (t, rest) →
    ∃ read, text = read ++ rest ∧ Spelled .classType t (before ++ read)
  typeArguments : ∀ text types rest, Direct.typeArguments fuel text = .ok (types, rest) →
    ∃ arguments : List (JavaType × List Char), types = arguments.map Prod.fst ∧
      text = arguments.flatMap Prod.snd ++ rest ∧ ∀ a ∈ arguments, Spelled .argument a.1 a.2
  typeArgument : ∀ text t rest, Direct.typeArgument fuel text = .ok (t, rest) →
    ∃ read, text = read ++ rest ∧ Spelled .argument t read

section

variable {fuel : Nat} (h : Derives fuel) {text rest : List Char} {t : JavaType}

include h

theorem derives_javaType (hread : Direct.javaType (fuel + 1) text = .ok (t, rest)) :
    ∃ read, text = read ++ rest ∧ Spelled .type t read := by
  unfold Direct.javaType at hread
  cases text with
  | nil => cases hread
  | cons c text =>
    simp only [List.head?_cons, List.tail_cons] at hread
    split_ifs at hread
    · obtain ⟨read, hsplit, hspelled⟩ := h.referenceType (c :: text) t rest hread
      exact ⟨read, hsplit, .ofReference hspelled⟩
    · cases hprimitive : primitiveName c with
      | none =>
        rw [hprimitive] at hread
        cases hread
      | some name =>
        rw [hprimitive] at hread
        cases hread
        exact ⟨[c], rfl, .primitive hprimitive⟩

theorem derives_referenceType (hread : Direct.referenceType (fuel + 1) text = .ok (t, rest)) :
    ∃ read, text = read ++ rest ∧ Spelled .reference t read := by
  unfold Direct.referenceType at hread
  split at hread
  · cases hread
  · rename_i hnext
    obtain ⟨text, rfl⟩ := List.head?_eq_some_iff.mp hnext
    obtain ⟨read, hsplit, hspelled⟩ := h.classType text t rest hread
    exact ⟨'L' :: (read ++ [';']), by simp [hsplit], .ofClass hspelled⟩
  · rename_i hnext
    obtain ⟨text, rfl⟩ := List.head?_eq_some_iff.mp hnext
    obtain ⟨⟨value, named⟩, hname, hnamed⟩ := bind_eq_ok_iff.mp hread
    obtain ⟨name, rfl, hisName, hsplit⟩ := Direct.exists_of_identifier hname
    obtain ⟨⟨_, closed⟩, hclose, hclosed⟩ := bind_eq_ok_iff.mp hnamed
    cases hclosed
    rw [List.tail_cons, Direct.expect_eq_ok_iff.mp hclose] at hsplit
    exact ⟨'T' :: (name ++ [';']), by simp [hsplit], .var hisName⟩
  · rename_i hnext
    obtain ⟨text, rfl⟩ := List.head?_eq_some_iff.mp hnext
    obtain ⟨⟨element, after⟩, helement, hdone⟩ := bind_eq_ok_iff.mp hread
    cases hdone
    obtain ⟨read, hsplit, hspelled⟩ := h.javaType text element rest helement
    exact ⟨'[' :: read, by simp [hsplit], .array hspelled⟩
  · cases hread

theorem derives_classType (hread : Direct.classType (fuel + 1) text = .ok (t, rest)) :
    ∃ read, text = read ++ ';' :: rest ∧ Spelled .classType t read := by
  unfold Direct.classType at hread
  obtain ⟨⟨value, named⟩, hname, hnamed⟩ := bind_eq_ok_iff.mp hread
  obtain ⟨⟨outer, given⟩, hgive, hgiven⟩ := bind_eq_ok_iff.mp hnamed
  obtain ⟨⟨type, members⟩, hmember, hmembers⟩ := bind_eq_ok_iff.mp hgiven
  obtain ⟨⟨_, closed⟩, hclose, hclosed⟩ := bind_eq_ok_iff.mp hmembers
  cases hclosed
  obtain ⟨name, rfl, hisName, hsplit⟩ := Direct.exists_of_identifier hname
  obtain ⟨arguments, hsplit', houter⟩ :=
    h.withTypeArguments _ name named outer given (.basic hisName) hgive
  obtain ⟨suffix, hsplit'', htype⟩ :=
    h.memberClasses outer _ given t members houter hmember
  have hend := Direct.expect_eq_ok_iff.mp hclose
  exact ⟨_, by simp [hsplit, hsplit', hsplit'', hend], htype⟩

theorem derives_memberClasses {outer : JavaType} {before : List Char}
    (houter : Spelled .classType outer before)
    (hread : Direct.memberClasses (fuel + 1) outer text = .ok (t, rest)) :
    ∃ read, text = read ++ rest ∧ Spelled .classType t (before ++ read) := by
  unfold Direct.memberClasses at hread
  split_ifs at hread with hnext
  · obtain ⟨text, rfl⟩ := List.head?_eq_some_iff.mp hnext
    obtain ⟨⟨value, named⟩, hname, hnamed⟩ := bind_eq_ok_iff.mp hread
    obtain ⟨⟨member, given⟩, hgive, hgiven⟩ := bind_eq_ok_iff.mp hnamed
    obtain ⟨name, rfl, hisName, hsplit⟩ := Direct.exists_of_identifier hname
    obtain ⟨arguments, hsplit', hmember⟩ :=
      h.withTypeArguments _ _ named member given (.inner houter hisName) hgive
    obtain ⟨suffix, hsplit'', htype⟩ := h.memberClasses member _ given t rest hmember hgiven
    rw [List.tail_cons] at hsplit
    refine ⟨'.' :: (name ++ arguments ++ suffix), by simp [hsplit, hsplit', hsplit''], ?_⟩
    simpa using htype
  · cases hread
    exact ⟨[], rfl, by simpa using houter⟩

theorem derives_withTypeArguments {base : JavaType} {before : List Char}
    (hbase : Spelled .stem base before)
    (hread : Direct.withTypeArguments (fuel + 1) base text = .ok (t, rest)) :
    ∃ read, text = read ++ rest ∧ Spelled .classType t (before ++ read) := by
  unfold Direct.withTypeArguments at hread
  split_ifs at hread with hnext
  · obtain ⟨text, rfl⟩ := List.head?_eq_some_iff.mp hnext
    obtain ⟨⟨types, given⟩, hgive, hgiven⟩ := bind_eq_ok_iff.mp hread
    obtain ⟨⟨_, closed⟩, hclose, hclosed⟩ := bind_eq_ok_iff.mp hgiven
    simp only at hclosed
    split_ifs at hclosed with hempty
    · cases hclosed
    · cases hclosed
      obtain ⟨arguments, rfl, hsplit, harguments⟩ := h.typeArguments _ types given hgive
      rw [List.tail_cons, Direct.expect_eq_ok_iff.mp hclose] at hsplit
      refine ⟨'<' :: (arguments.flatMap Prod.snd ++ ['>']), by simp [hsplit], ?_⟩
      exact .generic hbase (by simpa using hempty) harguments
  · cases hread
    exact ⟨[], rfl, by simpa using Spelled.raw hbase⟩

theorem derives_typeArguments {types : List JavaType}
    (hread : Direct.typeArguments (fuel + 1) text = .ok (types, rest)) :
    ∃ arguments : List (JavaType × List Char), types = arguments.map Prod.fst ∧
      text = arguments.flatMap Prod.snd ++ rest ∧ ∀ a ∈ arguments, Spelled .argument a.1 a.2 := by
  unfold Direct.typeArguments at hread
  split_ifs at hread
  · cases hread
    exact ⟨[], rfl, rfl, by simp⟩
  · obtain ⟨⟨argument, first⟩, hfirst, hrest⟩ := bind_eq_ok_iff.mp hread
    obtain ⟨⟨others, last⟩, hothers, hdone⟩ := bind_eq_ok_iff.mp hrest
    cases hdone
    obtain ⟨read, hsplit, hspelled⟩ := h.typeArgument text argument first hfirst
    obtain ⟨arguments, rfl, hsplit', hall⟩ := h.typeArguments first others rest hothers
    exact ⟨(argument, read) :: arguments, rfl, by simp [hsplit, hsplit'],
      List.forall_mem_cons.mpr ⟨hspelled, hall⟩⟩

theorem derives_typeArgument (hread : Direct.typeArgument (fuel + 1) text = .ok (t, rest)) :
    ∃ read, text = read ++ rest ∧ Spelled .argument t read := by
  unfold Direct.typeArgument at hread
  split at hread
  · rename_i hnext
    obtain ⟨text, rfl⟩ := List.head?_eq_some_iff.mp hnext
    cases hread
    exact ⟨['*'], rfl, .unbounded⟩
  · rename_i hnext
    obtain ⟨text, rfl⟩ := List.head?_eq_some_iff.mp hnext
    obtain ⟨⟨bound, after⟩, hbound, hdone⟩ := bind_eq_ok_iff.mp hread
    cases hdone
    obtain ⟨read, hsplit, hspelled⟩ := h.referenceType text bound rest hbound
    exact ⟨'+' :: read, by simp [hsplit], .upper hspelled⟩
  · rename_i hnext
    obtain ⟨text, rfl⟩ := List.head?_eq_some_iff.mp hnext
    obtain ⟨⟨bound, after⟩, hbound, hdone⟩ := bind_eq_ok_iff.mp hread
    cases hdone
    obtain ⟨read, hsplit, hspelled⟩ := h.referenceType text bound rest hbound
    exact ⟨'-' :: read, by simp [hsplit], .lower hspelled⟩
  · obtain ⟨read, hsplit, hspelled⟩ := h.referenceType text t rest hread
    exact ⟨read, hsplit, .exact hspelled⟩

end

theorem derives (fuel : Nat) : Derives fuel := by
  induction fuel with
  | zero =>
    constructor <;> intros <;> rename_i hread <;> cases hread
  | succ fuel ih =>
    exact {
      javaType _ _ _ hread := derives_javaType ih hread
      referenceType _ _ _ hread := derives_referenceType ih hread
      classType _ _ _ hread := derives_classType ih hread
      memberClasses _ _ _ _ _ houter hread := derives_memberClasses ih houter hread
      withTypeArguments _ _ _ _ _ hbase hread := derives_withTypeArguments ih hbase hread
      typeArguments _ _ _ hread := derives_typeArguments ih hread
      typeArgument _ _ _ hread := derives_typeArgument ih hread }

/-! ## A spelling is read -/

theorem exists_cons_of_reference {t : JavaType} {text : List Char}
    (h : Spelled .reference t text) :
    ∃ c more, text = c :: more ∧ (c = 'L' ∨ c = 'T' ∨ c = '[') := by
  cases h with
  | ofClass hclass => exact ⟨'L', _, rfl, by simp⟩
  | var hname => exact ⟨'T', _, rfl, by simp⟩
  | array helement => exact ⟨'[', _, rfl, by simp⟩

namespace Direct

/-- Reads on behind a class type, up to its closing mark. -/
def afterClass (fuel : Nat) (outer : JavaType) (text : List Char) :
    Except Fault (JavaType × List Char) := do
  let (type, rest) ← memberClasses fuel outer text
  let (_, rest) ← expect ';' rest
  .ok (type, rest)

/-- Reads on behind a name, where arguments may follow. -/
def afterStem (fuel : Nat) (stem : JavaType) (text : List Char) :
    Except Fault (JavaType × List Char) := do
  let (outer, rest) ← withTypeArguments fuel stem text
  afterClass fuel outer rest

variable {t : JavaType} {text more rest : List Char} {fuel : Nat}

theorem afterStem_of_ne (hnext : more.head? ≠ some '<') :
    afterStem (fuel + 1) t more = afterClass (fuel + 1) t more := by
  unfold afterStem withTypeArguments
  rw [if_neg hnext]
  rfl

theorem afterClass_member {name : List Char} (hname : IsName ['<', '.', ';'] name)
    (hmore : ∀ c ∈ more.head?, c ∈ ['<', '.', ';']) :
    afterClass (fuel + 1) t ('.' :: (name ++ more)) =
      afterStem fuel (.inner t (String.ofList name)) more := by
  unfold afterClass memberClasses
  rw [if_pos List.head?_cons, List.tail_cons, identifier_append hname hmore]
  show (withTypeArguments _ _ _ >>= _) >>= _ = withTypeArguments _ _ _ >>= _
  cases withTypeArguments fuel (.inner t (String.ofList name)) more <;> rfl

theorem afterClass_end : afterClass (fuel + 1) t (';' :: rest) = .ok (t, rest) := by
  simp [afterClass, memberClasses, ok_bind]

end Direct

/-- What a spelling stands for when it is read with enough fuel, whatever text follows. Behind a
part of a class type, reading goes on from there: the result is that of the rest. -/
def Reads : Place → JavaType → List Char → Prop
  | .stem, t, text => ∀ result more, (∃ c ∈ ['<', '.', ';'], more.head? = some c) →
    (∀ fuel, 2 * more.length + 2 ≤ fuel → Direct.afterStem fuel t more = result) →
    ∀ fuel, 2 * (text ++ more).length + 2 ≤ fuel → Direct.classType fuel (text ++ more) = result
  | .classType, t, text => ∀ result more, (∃ c ∈ ['.', ';'], more.head? = some c) →
    (∀ fuel, 2 * more.length + 2 ≤ fuel → Direct.afterClass fuel t more = result) →
    ∀ fuel, 2 * (text ++ more).length + 2 ≤ fuel → Direct.classType fuel (text ++ more) = result
  | .reference, t, text => ∀ rest fuel, 2 * (text ++ rest).length + 1 ≤ fuel →
    Direct.referenceType fuel (text ++ rest) = .ok (t, rest)
  | .type, t, text => ∀ rest fuel, 2 * (text ++ rest).length + 2 ≤ fuel →
    Direct.javaType fuel (text ++ rest) = .ok (t, rest)
  | .argument, t, text => ∀ rest fuel, 2 * (text ++ rest).length + 2 ≤ fuel →
    Direct.typeArgument fuel (text ++ rest) = .ok (t, rest)

section

variable {t outer base element : JavaType} {text name : List Char}

theorem reads_basic (hname : IsName ['<', '.', ';'] name) :
    Reads .stem (.basic (dotted (String.ofList name))) name := by
  intro result more hmore htail fuel hfuel
  obtain ⟨fuel, rfl⟩ := Nat.exists_eq_add_one_of_ne_zero (show fuel ≠ 0 by omega)
  have hlength := List.length_pos_iff.mpr hname.1
  have hnext : ∀ c ∈ more.head?, c ∈ ['<', '.', ';'] := by
    obtain ⟨c, hc, hhead⟩ := hmore
    simp_all
  show (Direct.identifier ['<', '.', ';'] (name ++ more) >>= _) = _
  rw [Direct.identifier_append hname hnext]
  rw [List.length_append] at hfuel
  exact htail fuel (by omega)

theorem reads_raw (h : Reads .stem t text) : Reads .classType t text := by
  intro result more hmore htail fuel hfuel
  obtain ⟨c, hc, hnext⟩ := hmore
  refine h result more ⟨c, by simp_all, hnext⟩ (fun fuel hfuel => ?_) fuel hfuel
  obtain ⟨fuel, rfl⟩ := Nat.exists_eq_add_one_of_ne_zero (show fuel ≠ 0 by omega)
  have hother : more.head? ≠ some '<' := by
    rw [hnext]
    rintro ⟨⟩
    simp at hc
  rw [Direct.afterStem_of_ne hother]
  exact htail (fuel + 1) hfuel

theorem reads_inner (h : Reads .classType outer text) (hname : IsName ['<', '.', ';'] name) :
    Reads .stem (.inner outer (String.ofList name)) (text ++ '.' :: name) := by
  intro result more hmore htail fuel hfuel
  rw [List.append_assoc] at hfuel ⊢
  refine h result _ ⟨'.', by simp, rfl⟩ (fun fuel hfuel => ?_) fuel hfuel
  obtain ⟨fuel, rfl⟩ := Nat.exists_eq_add_one_of_ne_zero (show fuel ≠ 0 by omega)
  have hnext : ∀ c ∈ more.head?, c ∈ ['<', '.', ';'] := by
    obtain ⟨c, hc, hhead⟩ := hmore
    simp_all
  rw [List.cons_append, Direct.afterClass_member hname hnext]
  simp only [List.cons_append, List.length_cons, List.length_append] at hfuel
  exact htail fuel (by omega)

/-- By induction on the arguments: each is read, and the text goes on behind it. -/
theorem typeArguments_append {arguments : List (JavaType × List Char)}
    (hreads : ∀ a ∈ arguments, Reads .argument a.1 a.2)
    (hheads : ∀ a ∈ arguments, ∃ c more, a.2 = c :: more ∧ c ≠ '>') (rest : List Char) :
    ∀ fuel, 2 * (arguments.flatMap Prod.snd ++ '>' :: rest).length + 3 ≤ fuel →
      Direct.typeArguments fuel (arguments.flatMap Prod.snd ++ '>' :: rest) =
        .ok (arguments.map Prod.fst, '>' :: rest) := by
  induction arguments with
  | nil =>
    intro fuel hfuel
    obtain ⟨fuel, rfl⟩ := Nat.exists_eq_add_one_of_ne_zero (show fuel ≠ 0 by omega)
    simp [Direct.typeArguments]
  | cons argument arguments ih =>
    intro fuel hfuel
    obtain ⟨fuel, rfl⟩ := Nat.exists_eq_add_one_of_ne_zero (show fuel ≠ 0 by omega)
    obtain ⟨hread, hreads⟩ := List.forall_mem_cons.mp hreads
    obtain ⟨⟨c, more, hcons, hc⟩, hheads⟩ := List.forall_mem_cons.mp hheads
    rw [List.flatMap_cons, List.append_assoc] at hfuel ⊢
    have hother : (argument.2 ++ (arguments.flatMap Prod.snd ++ '>' :: rest)).head? ≠ some '>' := by
      simpa [hcons] using hc
    have hfirst := hread (arguments.flatMap Prod.snd ++ '>' :: rest) fuel (by omega)
    have hlength : 0 < argument.2.length := by simp [hcons]
    rw [List.length_append] at hfuel
    have hothers := ih hreads hheads fuel (by omega)
    unfold Direct.typeArguments
    rw [if_neg hother, hfirst]
    simp only [ok_bind, hothers, List.map_cons]

theorem reads_generic {arguments : List (JavaType × List Char)} (h : Reads .stem base text)
    (hne : arguments ≠ []) (hreads : ∀ a ∈ arguments, Reads .argument a.1 a.2)
    (hheads : ∀ a ∈ arguments, ∃ c more, a.2 = c :: more ∧ c ≠ '>') :
    Reads .classType (.parameterized base (arguments.map Prod.fst))
      (text ++ '<' :: (arguments.flatMap Prod.snd ++ ['>'])) := by
  intro result more hmore htail fuel hfuel
  rw [List.append_assoc] at hfuel ⊢
  refine h result _ ⟨'<', by simp, rfl⟩ (fun fuel hfuel => ?_) fuel hfuel
  obtain ⟨fuel, rfl⟩ := Nat.exists_eq_add_one_of_ne_zero (show fuel ≠ 0 by omega)
  simp only [List.cons_append, List.append_assoc, List.nil_append] at hfuel ⊢
  have hgiven := typeArguments_append hreads hheads more fuel
    (by simp only [List.length_cons] at hfuel; omega)
  have hempty : (arguments.map Prod.fst).isEmpty = false := by simpa using hne
  have hnext : Direct.withTypeArguments (fuel + 1) base
      ('<' :: (arguments.flatMap Prod.snd ++ '>' :: more)) =
      .ok (.parameterized base (arguments.map Prod.fst), more) := by
    unfold Direct.withTypeArguments
    rw [if_pos List.head?_cons, List.tail_cons, hgiven]
    simp only [ok_bind, Direct.expect_cons, hempty, Bool.false_eq_true, if_false]
  unfold Direct.afterStem
  rw [hnext]
  refine htail (fuel + 1) ?_
  simp only [List.length_cons, List.length_append] at hfuel
  omega

theorem reads_ofClass (h : Reads .classType t text) :
    Reads .reference t ('L' :: (text ++ [';'])) := by
  intro rest fuel hfuel
  obtain ⟨fuel, rfl⟩ := Nat.exists_eq_add_one_of_ne_zero (show fuel ≠ 0 by omega)
  simp only [List.cons_append, List.append_assoc, List.nil_append] at hfuel ⊢
  show Direct.classType fuel (text ++ ';' :: rest) = _
  refine h _ _ ⟨';', by simp, rfl⟩ (fun fuel hfuel => ?_) fuel ?_
  · obtain ⟨fuel, rfl⟩ := Nat.exists_eq_add_one_of_ne_zero (show fuel ≠ 0 by omega)
    exact Direct.afterClass_end
  · rw [List.length_cons] at hfuel
    omega

theorem reads_var (hname : IsName [';'] name) :
    Reads .reference (.var (String.ofList name)) ('T' :: (name ++ [';'])) := by
  intro rest fuel hfuel
  obtain ⟨fuel, rfl⟩ := Nat.exists_eq_add_one_of_ne_zero (show fuel ≠ 0 by omega)
  simp only [List.cons_append, List.append_assoc, List.nil_append]
  show (Direct.identifier [';'] (name ++ ';' :: rest) >>= _) = _
  rw [Direct.identifier_append hname (by simp)]
  simp only [ok_bind, Direct.expect_cons]

theorem reads_array (h : Reads .type element text) :
    Reads .reference (.array element) ('[' :: text) := by
  intro rest fuel hfuel
  obtain ⟨fuel, rfl⟩ := Nat.exists_eq_add_one_of_ne_zero (show fuel ≠ 0 by omega)
  simp only [List.cons_append, List.length_cons] at hfuel ⊢
  have helement := h rest fuel (by omega)
  show (Direct.javaType fuel (text ++ rest) >>= _) = _
  rw [helement]
  rfl

theorem reads_primitive {c : Char} {primitive : String} (h : primitiveName c = some primitive) :
    Reads .type (.basic primitive) [c] := by
  intro rest fuel hfuel
  obtain ⟨fuel, rfl⟩ := Nat.exists_eq_add_one_of_ne_zero (show fuel ≠ 0 by omega)
  have hother : ¬(c = 'L' ∨ c = 'T' ∨ c = '[') := by
    rintro (rfl | rfl | rfl) <;> cases h
  show (if c = 'L' ∨ c = 'T' ∨ c = '[' then _ else _) = _
  rw [if_neg hother, h]
  rfl

theorem reads_ofReference (h : Reads .reference t text)
    (hhead : ∃ c more, text = c :: more ∧ (c = 'L' ∨ c = 'T' ∨ c = '[')) : Reads .type t text := by
  intro rest fuel hfuel
  obtain ⟨fuel, rfl⟩ := Nat.exists_eq_add_one_of_ne_zero (show fuel ≠ 0 by omega)
  obtain ⟨c, more, rfl, hc⟩ := hhead
  show (if c = 'L' ∨ c = 'T' ∨ c = '[' then _ else _) = _
  rw [if_pos hc]
  exact h rest fuel (by omega)

theorem reads_unbounded : Reads .argument (.wildcard none none) ['*'] := by
  intro rest fuel hfuel
  obtain ⟨fuel, rfl⟩ := Nat.exists_eq_add_one_of_ne_zero (show fuel ≠ 0 by omega)
  rfl

theorem reads_bounded {mark : Char} {wildcard : JavaType → JavaType}
    (hmark : mark = '+' ∧ wildcard = (fun u => .wildcard (some u) none) ∨
      mark = '-' ∧ wildcard = fun l => .wildcard none (some l))
    (h : Reads .reference t text) : Reads .argument (wildcard t) (mark :: text) := by
  intro rest fuel hfuel
  obtain ⟨fuel, rfl⟩ := Nat.exists_eq_add_one_of_ne_zero (show fuel ≠ 0 by omega)
  simp only [List.cons_append, List.length_cons] at hfuel ⊢
  have hbound := h rest fuel (by omega)
  rcases hmark with ⟨rfl, rfl⟩ | ⟨rfl, rfl⟩
  · show (Direct.referenceType fuel (text ++ rest) >>= _) = _
    rw [hbound]
    rfl
  · show (Direct.referenceType fuel (text ++ rest) >>= _) = _
    rw [hbound]
    rfl

theorem reads_exact (h : Reads .reference t text)
    (hhead : ∃ c more, text = c :: more ∧ (c = 'L' ∨ c = 'T' ∨ c = '[')) :
    Reads .argument t text := by
  intro rest fuel hfuel
  obtain ⟨fuel, rfl⟩ := Nat.exists_eq_add_one_of_ne_zero (show fuel ≠ 0 by omega)
  have hread := h rest fuel (by omega)
  obtain ⟨c, more, rfl, hc⟩ := hhead
  rcases hc with rfl | rfl | rfl <;> exact hread

end

theorem exists_cons_of_argument {t : JavaType} {text : List Char}
    (h : Spelled .argument t text) : ∃ c more, text = c :: more ∧ c ≠ '>' := by
  cases h with
  | unbounded => exact ⟨'*', [], rfl, by decide⟩
  | upper => exact ⟨'+', _, rfl, by decide⟩
  | lower => exact ⟨'-', _, rfl, by decide⟩
  | exact h =>
    obtain ⟨c, more, rfl, hc⟩ := exists_cons_of_reference h
    exact ⟨c, more, rfl, by rintro rfl; simp at hc⟩

/-- By induction on the spelling, one case for each way to spell. -/
theorem reads_of_spelled {place : Place} {t : JavaType} {text : List Char}
    (h : Spelled place t text) : Reads place t text := by
  induction h with
  | basic hname => exact reads_basic hname
  | inner _ hname ih => exact reads_inner ih hname
  | raw _ ih => exact reads_raw ih
  | generic _ hne harguments ih ihs =>
    exact reads_generic ih hne ihs fun a ha => exists_cons_of_argument (harguments a ha)
  | ofClass _ ih => exact reads_ofClass ih
  | var hname => exact reads_var hname
  | array _ ih => exact reads_array ih
  | primitive hprimitive => exact reads_primitive hprimitive
  | ofReference h ih => exact reads_ofReference ih (exists_cons_of_reference h)
  | unbounded => exact reads_unbounded
  | upper _ ih => exact reads_bounded (.inl ⟨rfl, rfl⟩) ih
  | lower _ ih => exact reads_bounded (.inr ⟨rfl, rfl⟩) ih
  | exact h ih => exact reads_exact ih (exists_cons_of_reference h)

/-! ## Reading is the grammar -/

section

variable {t : JavaType} {text rest : List Char} {fuel : Nat}

theorem javaType_eq_ok_iff (hfuel : 2 * text.length + 2 ≤ fuel) :
    Direct.javaType fuel text = .ok (t, rest) ↔
      ∃ read, text = read ++ rest ∧ Spelled .type t read := by
  constructor
  · intro hread
    exact (derives fuel).javaType text t rest hread
  · rintro ⟨read, rfl, hspelled⟩
    exact reads_of_spelled hspelled rest fuel hfuel

theorem referenceType_eq_ok_iff (hfuel : 2 * text.length + 1 ≤ fuel) :
    Direct.referenceType fuel text = .ok (t, rest) ↔
      ∃ read, text = read ++ rest ∧ Spelled .reference t read := by
  constructor
  · intro hread
    exact (derives fuel).referenceType text t rest hread
  · rintro ⟨read, rfl, hspelled⟩
    exact reads_of_spelled hspelled rest fuel hfuel

theorem finish_eq_ok_iff : Direct.finish text = .ok ((), rest) ↔ text = [] ∧ rest = [] := by
  cases text with
  | nil => simp [Direct.finish, eq_comm]
  | cons c text => simp [Direct.finish, Direct.fail]

/-- A text starts with one spelling of a type at most. -/
theorem Spelled.unique {t' : JavaType} {read read' rest' : List Char} (h : Spelled .type t read)
    (h' : Spelled .type t' read') (hsame : read ++ rest = read' ++ rest') :
    t = t' ∧ read = read' ∧ rest = rest' := by
  have hread := reads_of_spelled h rest _ le_rfl
  have hread' := reads_of_spelled h' rest' _ le_rfl
  rw [← hsame, hread] at hread'
  obtain ⟨rfl, rfl⟩ := Prod.mk.inj (Except.ok.inj hread')
  exact ⟨rfl, List.append_cancel_right hsame, rfl⟩

end

theorem Direct.read_eq_ok_iff {α : Type} {reader : Nat → List Char → Except Fault (α × List Char)}
    {text : String} {value : α} : Direct.read reader text = .ok value ↔
      ∃ rest, reader (fuelFor text.toList) text.toList = .ok (value, rest) := by
  unfold Direct.read
  cases reader (fuelFor text.toList) text.toList with
  | error fault => simp
  | ok result => simp [Prod.ext_iff, eq_comm]

/-- A text is read as a type exactly if it is a spelling of the type. -/
theorem parseType_eq_ok_iff {text : String} {t : JavaType} :
    parseType text = .ok t ↔ Spelled .type t text.toList := by
  have hfuel : 2 * text.toList.length + 2 ≤ fuelFor text.toList := by
    unfold fuelFor
    omega
  rw [parseType_eq, Direct.read_eq_ok_iff]
  constructor
  · rintro ⟨rest, hwhole⟩
    obtain ⟨⟨type, left⟩, hread, hfinish⟩ := bind_eq_ok_iff.mp hwhole
    obtain ⟨⟨_, last⟩, hend, hdone⟩ := bind_eq_ok_iff.mp hfinish
    cases hdone
    obtain ⟨rfl, -⟩ := finish_eq_ok_iff.mp hend
    obtain ⟨read, hsplit, hspelled⟩ := (javaType_eq_ok_iff hfuel).mp hread
    rwa [hsplit, List.append_nil]
  · intro hspelled
    have hread : Direct.javaType (fuelFor text.toList) text.toList = .ok (t, []) :=
      (javaType_eq_ok_iff hfuel).mpr ⟨text.toList, by simp, hspelled⟩
    refine ⟨[], ?_⟩
    unfold Direct.wholeType
    rw [hread]
    rfl

end ApiSurface.Signature
