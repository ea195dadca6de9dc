import Mathlib.Data.List.Duplicate
import ApiSurface.Proofs.SignatureParts
import ApiSurface.Proofs.SignatureSpelling

/-!
# Reading undoes spelling

Signatures of classes and methods have a spelling, and are read back from it. Bounds may mention
type parameters that are declared later.
-/

namespace ApiSurface

open Signature

/-! ## Declaring type parameters -/

namespace TypeSchema

variable {done entries : List (String × List JavaType)} {name : String}

theorem contains_append_cons {bounds : List JavaType} :
    contains ⟨done ++ (name, bounds) :: entries⟩ name = true := by
  simp [contains, names]

theorem addBoundTo_append {bound : JavaType} {bounds : List JavaType}
    (hnew : name ∉ done.map Prod.fst) :
    addBoundTo name bound (done ++ (name, bounds) :: entries) =
      done ++ (name, bounds ++ [bound]) :: entries := by
  induction done with
  | nil => simp [addBoundTo]
  | cons e done ih =>
    obtain ⟨hne, hnew⟩ := List.ne_and_not_mem_of_not_mem_cons hnew
    rw [List.cons_append, addBoundTo, if_neg hne.symm, ih hnew]
    rfl

theorem foldlM_addBound (hnew : name ∉ done.map Prod.fst) (bounds before : List JavaType) :
    bounds.foldlM (fun s bound => s.addBound name bound)
        (⟨done ++ (name, before) :: entries⟩ : TypeSchema) =
      .ok ⟨done ++ (name, before ++ bounds) :: entries⟩ := by
  induction bounds generalizing before with
  | nil => rw [List.append_nil]; rfl
  | cons bound bounds ih =>
    rw [List.foldlM_cons, addBound, if_pos contains_append_cons, addBoundTo_append hnew]
    rw [ok_bind, ih, List.append_assoc]
    rfl

theorem not_mem_of_nodup {e : String × List JavaType}
    (h : ((done ++ e :: entries).map Prod.fst).Nodup) : e.1 ∉ done.map Prod.fst := by
  rw [List.map_append, List.map_cons] at h
  obtain ⟨-, -, hapart⟩ := List.nodup_append.mp h
  exact fun hmem => hapart e.1 hmem e.1 List.mem_cons_self rfl

theorem foldlM_add (h : ((done ++ entries).map Prod.fst).Nodup) :
    entries.foldlM (fun schema e => schema.add e.1) (⟨done.map fun e => (e.1, [])⟩ : TypeSchema) =
      .ok ⟨(done ++ entries).map fun e => (e.1, [])⟩ := by
  induction entries generalizing done with
  | nil => rw [List.append_nil]; rfl
  | cons e entries ih =>
    have hnew : contains ⟨done.map fun e => (e.1, [])⟩ e.1 = false := by
      simpa [contains, names, Function.comp_def] using not_mem_of_nodup h
    rw [List.append_cons] at h ⊢
    rw [List.foldlM_cons, add, hnew]
    have hadded := ih h
    rw [List.map_append] at hadded
    exact hadded

theorem foldlM_bounds (h : ((done ++ entries).map Prod.fst).Nodup) :
    entries.foldlM (fun schema e => e.2.foldlM (fun s bound => s.addBound e.1 bound) schema)
        (⟨done ++ entries.map fun e => (e.1, [])⟩ : TypeSchema) =
      .ok ⟨done ++ entries⟩ := by
  induction entries generalizing done with
  | nil => rfl
  | cons e entries ih =>
    have hnew := not_mem_of_nodup h
    rw [List.append_cons] at h ⊢
    have hbounded := ih h
    rw [List.append_assoc] at hbounded
    rw [List.foldlM_cons, List.map_cons, foldlM_addBound hnew]
    exact hbounded

/-- Declaring pairwise distinct variables gives the variables with their bounds. -/
theorem ofEntries_eq (h : (entries.map Prod.fst).Nodup) : ofEntries entries = .ok ⟨entries⟩ := by
  have hadded := @foldlM_add [] entries h
  have hbounded := @foldlM_bounds [] entries h
  exact bind_eq_ok_iff.mpr ⟨_, hadded, hbounded⟩

theorem duplicate_of_mem {names more : List String} (h : name ∈ names) :
    List.Duplicate name (names ++ name :: more) := by
  rw [List.duplicate_iff_two_le_count, List.count_append, List.count_cons_self]
  have hpos := List.count_pos_iff.mpr h
  omega

theorem foldlM_add_of_not_nodup {schema : TypeSchema} (hschema : schema.names.Nodup)
    (h : ¬ (schema.names ++ entries.map Prod.fst).Nodup) :
    ∃ twice, List.Duplicate twice (schema.names ++ entries.map Prod.fst) ∧
      entries.foldlM (fun schema e => schema.add e.1) schema =
        .error (.duplicateTypeVariable twice) := by
  induction entries generalizing schema with
  | nil => exact absurd hschema (by simpa using h)
  | cons e entries ih =>
    by_cases hmem : e.1 ∈ schema.names
    · refine ⟨e.1, duplicate_of_mem hmem, ?_⟩
      rw [List.foldlM_cons, add, if_pos (by simpa [contains] using hmem)]
      rfl
    · have hadd : schema.add e.1 = .ok ⟨schema.entries ++ [(e.1, [])]⟩ := by
        rw [add, if_neg (by simpa [contains] using hmem)]
      obtain ⟨hnames, hnew⟩ := names_add hadd
      have hnodup : (schema.names ++ [e.1]).Nodup := by
        simpa [List.nodup_append, hschema] using fun n hn => ne_of_mem_of_not_mem hn hnew
      rw [List.map_cons, List.append_cons, ← hnames] at h ⊢
      obtain ⟨twice, htwice, hfail⟩ := ih (hnames ▸ hnodup) h
      exact ⟨twice, htwice, by rw [List.foldlM_cons, hadd, ok_bind, hfail]⟩

/-- Declaring a variable twice is what fails. -/
theorem ofEntries_of_not_nodup (h : ¬ (entries.map Prod.fst).Nodup) :
    ∃ twice, List.Duplicate twice (entries.map Prod.fst) ∧
      ofEntries entries = .error (.duplicateTypeVariable twice) := by
  have hempty : TypeSchema.empty.names.Nodup := List.nodup_nil
  obtain ⟨twice, htwice, hfail⟩ := foldlM_add_of_not_nodup hempty h
  exact ⟨twice, htwice, by rw [ofEntries, hfail]; rfl⟩

theorem nodup_of_ofEntries {schema : TypeSchema} (h : ofEntries entries = .ok schema) :
    (entries.map Prod.fst).Nodup := by
  by_contra hnot
  obtain ⟨twice, -, hfail⟩ := ofEntries_of_not_nodup hnot
  cases hfail.symm.trans h

theorem map_addBoundTo (bound : JavaType) :
    (addBoundTo name bound entries).map Prod.fst = entries.map Prod.fst := by
  induction entries with
  | nil => rfl
  | cons e entries ih =>
    rw [addBoundTo]
    split_ifs
    · rfl
    · rw [List.map_cons, ih, List.map_cons]

variable {schema after : TypeSchema}

theorem names_addBounds {bounds : List JavaType}
    (h : bounds.foldlM (fun s bound => s.addBound name bound) schema = .ok after) :
    after.names = schema.names := by
  induction bounds generalizing schema with
  | nil => cases h; rfl
  | cons bound bounds ih =>
    rw [List.foldlM_cons] at h
    obtain ⟨added, hadd, hadds⟩ := bind_eq_ok_iff.mp h
    unfold addBound at hadd
    split_ifs at hadd
    cases hadd
    rw [ih hadds, names, map_addBoundTo]
    rfl

theorem names_foldlM_bounds
    (h : entries.foldlM (fun schema e => e.2.foldlM (fun s bound => s.addBound e.1 bound) schema)
      schema = .ok after) : after.names = schema.names := by
  induction entries generalizing schema with
  | nil => cases h; rfl
  | cons e entries ih =>
    rw [List.foldlM_cons] at h
    obtain ⟨bounded, hbound, hbounds⟩ := bind_eq_ok_iff.mp h
    rw [ih hbounds, names_addBounds hbound]

theorem names_foldlM_add (h : entries.foldlM (fun schema e => schema.add e.1) schema = .ok after) :
    after.names = schema.names ++ entries.map Prod.fst := by
  induction entries generalizing schema with
  | nil => cases h; simp
  | cons e entries ih =>
    rw [List.foldlM_cons] at h
    obtain ⟨added, hadd, hadds⟩ := bind_eq_ok_iff.mp h
    rw [ih hadds, (names_add hadd).1, List.append_assoc]
    rfl

/-- What is declared has the names that were to be declared. -/
theorem names_ofEntries (h : ofEntries entries = .ok schema) :
    schema.names = entries.map Prod.fst := by
  obtain ⟨declared, hadd, hbounds⟩ := bind_eq_ok_iff.mp h
  rw [names_foldlM_bounds hbounds, names_foldlM_add hadd]
  rfl

end TypeSchema

/-! ## Spelling signatures -/

namespace Signature

/-- A name and its bounds. The colon in front of the class bound stands there also without it. -/
def spellParameter (parameter : String × List JavaType) : List Char :=
  parameter.1.toList ++
    if parameter.2 = [] then [':'] else parameter.2.flatMap fun bound => ':' :: spell bound

def spellSchema (schema : TypeSchema) : List Char :=
  if schema.entries = [] then [] else '<' :: (schema.entries.flatMap spellParameter ++ ['>'])

def spellThrown (thrown : List JavaType) : List Char := thrown.flatMap fun t => '^' :: spell t

end Signature

def ClassSignature.spelling (signature : ClassSignature) : String :=
  String.ofList (spellSchema signature.schema ++
    (spell signature.superclass ++ signature.interfaces.flatMap spell))

def MethodSignature.spelling (signature : MethodSignature) : String :=
  String.ofList (spellSchema signature.schema ++
    '(' :: (signature.parameterTypes.flatMap spell ++ ')' :: spell signature.returnType))

/-- Names and bounds that can be declared. Only the last variable may be without a bound: behind
another, the next name would be taken for its bound. -/
structure TypeSchema.WellFormed (schema : TypeSchema) : Prop where
  names : ∀ e ∈ schema.entries, IsName [':'] e.1.toList ∧ e.1.toList.head? ≠ some '>'
  distinct : schema.names.Nodup
  bounds : ∀ e ∈ schema.entries, ∀ bound ∈ e.2, bound.WellFormed .reference
  bounded : ∀ e ∈ schema.entries.dropLast, e.2 ≠ []

structure ClassSignature.WellFormed (signature : ClassSignature) : Prop where
  schema : signature.schema.WellFormed
  superclass : signature.superclass.WellFormed .reference
  interfaces : ∀ t ∈ signature.interfaces, t.WellFormed .reference

structure MethodSignature.WellFormed (signature : MethodSignature) : Prop where
  schema : signature.schema.WellFormed
  parameterTypes : ∀ t ∈ signature.parameterTypes, t.WellFormed .type
  returnType : signature.returnType.WellFormed .type

namespace Signature

/-- Types with their spellings. -/
def withSpelling (types : List JavaType) : List (JavaType × List Char) :=
  types.map fun t => (t, spell t)

section

variable {types : List JavaType}

@[simp] theorem map_withSpelling : (withSpelling types).map Prod.fst = types := by
  simp [withSpelling, Function.comp_def]

@[simp] theorem flatMap_withSpelling :
    (withSpelling types).flatMap Prod.snd = types.flatMap spell :=
  List.flatMap_map _ _ _

@[simp] theorem flatMap_mark_withSpelling (mark : Char) :
    ((withSpelling types).flatMap fun p => mark :: p.2) = types.flatMap fun t => mark :: spell t :=
  List.flatMap_map _ _ _

theorem spelled_withSpelling {place : Place} (hplace : spellAt place = spell)
    (h : ∀ t ∈ types, t.WellFormed place) : ∀ p ∈ withSpelling types, Spelled place p.1 p.2 :=
  List.forall_mem_map.mpr fun t ht => hplace ▸ spelled_of_wellFormed (h t ht)

end

namespace Direct

variable {fuel steps : Nat} {rest : List Char}

theorem marked_spell {mark : Char} {bounds : List JavaType}
    (hbounds : ∀ bound ∈ bounds, bound.WellFormed .reference) (hrest : rest.head? ≠ some mark)
    (hfuel : 2 * ((bounds.flatMap fun bound => mark :: spell bound) ++ rest).length + 1 ≤ fuel) :
    marked mark fuel fuel ((bounds.flatMap fun bound => mark :: spell bound) ++ rest) =
      .ok (bounds, rest) :=
  (marked_eq_ok_iff hfuel (by omega)).mpr ⟨withSpelling bounds, by simp, by simp,
    spelled_withSpelling rfl hbounds, hrest⟩

theorem referenceType_spell {t : JavaType} (h : t.WellFormed .reference)
    (hfuel : 2 * (spell t ++ rest).length + 1 ≤ fuel) :
    referenceType fuel (spell t ++ rest) = .ok (t, rest) :=
  (referenceType_eq_ok_iff hfuel).mpr ⟨spell t, rfl, spelled_of_wellFormed h⟩

theorem typeParameter_unbounded {name : List Char} (hname : IsName [':'] name)
    (hrest : rest.head? = some '>') (hbounds : interfaceBounds fuel fuel rest = .ok ([], rest)) :
    typeParameter fuel (name ++ ':' :: rest) = .ok ((String.ofList name, []), rest) := by
  unfold typeParameter
  rw [identifier_append hname (by simp)]
  simp only [ok_bind, expect_cons, if_pos (Or.inr hrest), hbounds]

theorem typeParameter_bounded {name text after : List Char} {bound : JavaType}
    {bounds : List JavaType} (hname : IsName [':'] name)
    (htext : ¬(text.head? = some ':' ∨ text.head? = some '>'))
    (hbound : referenceType fuel text = .ok (bound, after))
    (hbounds : interfaceBounds fuel fuel after = .ok (bounds, rest)) :
    typeParameter fuel (name ++ ':' :: text) =
      .ok ((String.ofList name, bound :: bounds), rest) := by
  unfold typeParameter
  rw [identifier_append hname (by simp)]
  simp only [ok_bind, expect_cons, if_neg htext, hbound, hbounds]

/-- A parameter is read back if no bound follows, and if the list ends where it has none itself. -/
theorem typeParameter_spell {name : String} {bounds : List JavaType}
    (hname : IsName [':'] name.toList) (hbounds : ∀ bound ∈ bounds, bound.WellFormed .reference)
    (hrest : rest.head? ≠ some ':') (hlast : bounds = [] → rest.head? = some '>')
    (hfuel : 2 * (spellParameter (name, bounds) ++ rest).length + 1 ≤ fuel) :
    typeParameter fuel (spellParameter (name, bounds) ++ rest) = .ok ((name, bounds), rest) := by
  rw [List.length_append] at hfuel
  cases bounds with
  | nil =>
    have hnone : interfaceBounds fuel fuel rest = .ok ([], rest) :=
      marked_spell hbounds hrest (by rw [List.flatMap_nil, List.nil_append]; omega)
    have hread := typeParameter_unbounded hname (hlast rfl) hnone
    simpa [spellParameter] using hread
  | cons bound bounds =>
    obtain ⟨hbound, hbounds⟩ := List.forall_mem_cons.mp hbounds
    simp only [spellParameter, List.length_append, List.flatMap_cons, List.length_cons,
      reduceCtorEq, if_false] at hfuel
    have hothers : interfaceBounds fuel fuel
        ((bounds.flatMap fun bound => ':' :: spell bound) ++ rest) = .ok (bounds, rest) :=
      marked_spell hbounds hrest (by rw [List.length_append]; omega)
    have hfirst := referenceType_spell hbound
      (show 2 * (spell bound ++ ((bounds.flatMap fun bound => ':' :: spell bound) ++ rest)).length +
        1 ≤ fuel by simp only [List.length_append]; omega)
    have hnext : ∀ behind, ¬((spell bound ++ behind).head? = some ':' ∨
        (spell bound ++ behind).head? = some '>') := by
      obtain ⟨c, more, hcons, hc⟩ := exists_cons_of_reference (spelled_of_wellFormed hbound)
      rw [show spell bound = c :: more from hcons]
      rcases hc with rfl | rfl | rfl <;> simp
    have hread := typeParameter_bounded hname (hnext _) hfirst hothers
    simpa [spellParameter] using hread

theorem exists_cons_of_parameter {e : String × List JavaType}
    (hname : IsName [':'] e.1.toList ∧ e.1.toList.head? ≠ some '>') :
    ∃ c more, spellParameter e = c :: more ∧ c ≠ ':' ∧ c ≠ '>' := by
  obtain ⟨⟨hne, hcolon⟩, hhead⟩ := hname
  obtain ⟨c, more, hcons⟩ := List.exists_cons_of_ne_nil hne
  refine ⟨c, _, by rw [spellParameter, hcons, List.cons_append], ?_, ?_⟩
  · simpa using hcolon c (by simp [hcons])
  · simpa [hcons] using hhead

/-- Where parameters stand, no bound does: there is the name of the first, or the end. -/
theorem head_of_parameters {entries : List (String × List JavaType)}
    (hnames : ∀ e ∈ entries, IsName [':'] e.1.toList ∧ e.1.toList.head? ≠ some '>') :
    (entries.flatMap spellParameter ++ '>' :: rest).head? ≠ some ':' ∧
      (entries = [] → (entries.flatMap spellParameter ++ '>' :: rest).head? = some '>') := by
  cases entries with
  | nil => simp
  | cons next entries =>
    obtain ⟨c, more, hcons, hc, -⟩ := exists_cons_of_parameter (hnames next List.mem_cons_self)
    simp [hcons, hc]

theorem bounded_of_cons {e : String × List JavaType} {entries : List (String × List JavaType)}
    (h : ∀ x ∈ (e :: entries).dropLast, x.2 ≠ []) :
    (e.2 = [] → entries = []) ∧ ∀ x ∈ entries.dropLast, x.2 ≠ [] := by
  cases entries with
  | nil => simp
  | cons next entries =>
    exact ⟨fun hnone => absurd hnone (h e List.mem_cons_self),
      fun x hx => h x (List.mem_cons_of_mem _ hx)⟩

/-- By induction on the parameters: behind each stands the name of the next or the end. -/
theorem typeParameterList_spell {entries : List (String × List JavaType)}
    (hnames : ∀ e ∈ entries, IsName [':'] e.1.toList ∧ e.1.toList.head? ≠ some '>')
    (hbounds : ∀ e ∈ entries, ∀ bound ∈ e.2, bound.WellFormed .reference)
    (hbounded : ∀ e ∈ entries.dropLast, e.2 ≠ [])
    (hfuel : 2 * (entries.flatMap spellParameter ++ '>' :: rest).length + 1 ≤ fuel)
    (hsteps : (entries.flatMap spellParameter ++ '>' :: rest).length < steps) :
    typeParameterList fuel steps (entries.flatMap spellParameter ++ '>' :: rest) =
      .ok (entries, '>' :: rest) := by
  induction entries generalizing steps with
  | nil =>
    obtain ⟨steps, rfl⟩ := Nat.exists_eq_add_one_of_ne_zero (show steps ≠ 0 by omega)
    simp [typeParameterList, many]
  | cons e entries ih =>
    obtain ⟨steps, rfl⟩ := Nat.exists_eq_add_one_of_ne_zero (show steps ≠ 0 by omega)
    obtain ⟨hname, hnames⟩ := List.forall_mem_cons.mp hnames
    obtain ⟨hbound, hbounds⟩ := List.forall_mem_cons.mp hbounds
    obtain ⟨hlast, hbounded⟩ := bounded_of_cons hbounded
    have hafter := @head_of_parameters rest entries hnames
    obtain ⟨c, more, hcons, -, hc⟩ := exists_cons_of_parameter hname
    rw [List.flatMap_cons, List.append_assoc] at hfuel hsteps ⊢
    have hfirst : typeParameter fuel
        (spellParameter e ++ (entries.flatMap spellParameter ++ '>' :: rest)) =
        .ok (e, entries.flatMap spellParameter ++ '>' :: rest) :=
      typeParameter_spell hname.1 hbound hafter.1 (fun hnone => hafter.2 (hlast hnone)) hfuel
    have hlength : 0 < (spellParameter e).length := by simp [hcons]
    rw [List.length_append] at hfuel hsteps
    have hothers : typeParameterList fuel steps (entries.flatMap spellParameter ++ '>' :: rest) =
        .ok (entries, '>' :: rest) := ih hnames hbounds hbounded (by omega) (by omega)
    have hgoes : (spellParameter e ++ (entries.flatMap spellParameter ++ '>' :: rest)).head? ≠
        some '>' := by simpa [hcons] using hc
    unfold typeParameterList many
    rw [if_pos hgoes, hfirst, ok_bind]
    simp only
    rw [← typeParameterList, hothers, ok_bind]

/-- The type parameters of a signature are read back, whatever follows them. -/
theorem typeParameters_spell {schema : TypeSchema} (h : schema.WellFormed)
    (hrest : rest.head? ≠ some '<') (hfuel : 2 * (spellSchema schema ++ rest).length + 1 ≤ fuel) :
    typeParameters fuel (spellSchema schema ++ rest) = .ok (schema.entries, rest) := by
  unfold spellSchema at hfuel ⊢
  split_ifs at hfuel ⊢ with hnone
  · rw [hnone]
    exact typeParameters_eq_ok_nil_iff.mpr ⟨hrest, rfl⟩
  · simp only [List.cons_append, List.append_assoc, List.nil_append, List.length_cons] at hfuel ⊢
    have hlist : typeParameterList fuel fuel
        (schema.entries.flatMap spellParameter ++ '>' :: rest) =
          .ok (schema.entries, '>' :: rest) :=
      typeParameterList_spell h.names h.bounds h.bounded (by omega) (by omega)
    have hsome : schema.entries.isEmpty = false := by simpa using hnone
    unfold typeParameters
    rw [if_pos List.head?_cons, List.tail_cons, hlist]
    simp only [ok_bind, expect_cons, hsome, Bool.false_eq_true, if_false]

theorem wholeClass_spell {signature : ClassSignature} (h : signature.WellFormed) {text : List Char}
    (htext : text = spellSchema signature.schema ++
      (spell signature.superclass ++ signature.interfaces.flatMap spell))
    (hfuel : 2 * text.length + 1 ≤ fuel) :
    wholeClass fuel text =
      .ok ((signature.schema.entries, signature.superclass, signature.interfaces), []) := by
  subst htext
  obtain ⟨c, more, hcons, hc⟩ := exists_cons_of_reference (spelled_of_wellFormed h.superclass)
  have hparameters := typeParameters_spell h.schema
    (show (spell signature.superclass ++ signature.interfaces.flatMap spell).head? ≠ some '<' by
      rw [show spell signature.superclass = c :: more from hcons]
      rcases hc with rfl | rfl | rfl <;> simp) hfuel
  simp only [List.length_append] at hfuel
  have hsuperclass := referenceType_spell h.superclass
    (show 2 * (spell signature.superclass ++ signature.interfaces.flatMap spell).length + 1 ≤ fuel
      by rw [List.length_append]; omega)
  have hinterfaces : interfaceTypes fuel fuel (signature.interfaces.flatMap spell) =
      .ok (signature.interfaces, []) :=
    (interfaceTypes_eq_ok_iff (by omega) (by omega)).mpr ⟨withSpelling signature.interfaces,
      by simp, by simp, spelled_withSpelling rfl h.interfaces, rfl⟩
  unfold wholeClass
  simp only [hparameters, ok_bind, hsuperclass, hinterfaces]

end Direct

theorem parseClassSignature_spelling {signature : ClassSignature} (h : signature.WellFormed) :
    parseClassSignature signature.spelling = .ok signature := by
  have hread : Direct.read Direct.wholeClass signature.spelling =
      .ok (signature.schema.entries, signature.superclass, signature.interfaces) := by
    refine Direct.read_eq_ok_iff.mpr ⟨[], Direct.wholeClass_spell h String.toList_ofList ?_⟩
    unfold fuelFor
    omega
  rw [parseClassSignature_eq, hread, ok_bind]
  simp only [TypeSchema.ofEntries_eq h.schema.distinct, ok_bind]
  rfl

/-- The text of a well-formed method that throws these types. -/
def methodText {signature : MethodSignature} {thrown : List JavaType} (h : signature.WellFormed)
    (hthrown : ∀ t ∈ thrown, t.WellFormed .reference) : MethodText where
  parameters := withSpelling signature.parameterTypes
  result := (signature.returnType, spell signature.returnType)
  thrown := withSpelling thrown
  spelled_parameters := spelled_withSpelling rfl h.parameterTypes
  spelled_result := spelled_of_wellFormed h.returnType
  spelled_thrown := spelled_withSpelling rfl hthrown

theorem parseGenericMethodSignature_spelling {signature : MethodSignature} {thrown : List JavaType}
    (h : signature.WellFormed) (hthrown : ∀ t ∈ thrown, t.WellFormed .reference) :
    parseGenericMethodSignature (signature.spelling ++ String.ofList (spellThrown thrown)) =
      .ok signature := by
  have htext : (signature.spelling ++ String.ofList (spellThrown thrown)).toList =
      spellSchema signature.schema ++ (methodText h hthrown).text := by
    simp [methodText, MethodText.text, MethodSignature.spelling, spellThrown]
  have hread : Direct.read Direct.wholeMethod
      (signature.spelling ++ String.ofList (spellThrown thrown)) =
      .ok (signature.schema.entries, signature.parameterTypes, signature.returnType) := by
    refine Direct.read_eq_ok_iff.mpr ⟨[], ?_⟩
    rw [htext, fuelFor]
    have hbegin := Direct.typeParameters_spell h.schema
      (show (methodText h hthrown).text.head? ≠ some '<' by simp [MethodText.text])
      (show 2 * (spellSchema signature.schema ++ (methodText h hthrown).text).length + 1 ≤
        2 * (spellSchema signature.schema ++ (methodText h hthrown).text).length + 4 by omega)
    have hwhole := Direct.wholeMethod_text _ hbegin (by rw [List.length_append]; omega)
    simpa only [methodText, map_withSpelling] using hwhole
  rw [parseGenericMethodSignature_eq, hread, ok_bind]
  simp only [TypeSchema.ofEntries_eq h.schema.distinct, ok_bind]
  rfl

/-- Signatures of classes and of methods are read back from their spelling, those of methods also
with any thrown types behind them. -/
theorem parse_spelling :
    (∀ signature : ClassSignature, signature.WellFormed →
      parseClassSignature signature.spelling = .ok signature) ∧
    ∀ (signature : MethodSignature) (thrown : List JavaType), signature.WellFormed →
      (∀ t ∈ thrown, t.WellFormed .reference) →
      parseGenericMethodSignature (signature.spelling ++ String.ofList (spellThrown thrown)) =
        .ok signature :=
  ⟨fun _ => parseClassSignature_spelling, fun _ _ => parseGenericMethodSignature_spelling⟩

/-- The first variable is bounded by a type of itself and of the second, which has no bound. -/
def pairing : TypeSchema :=
  ⟨[("T", [.parameterized (.basic "a.Pair") [.var "T", .var "U"]]), ("U", [])]⟩

theorem wellFormed_pairing : pairing.WellFormed where
  names := by decide +kernel
  distinct := by decide +kernel
  bounds := by
    have hbound : JavaType.WellFormed .reference
        (.parameterized (.basic "a.Pair") [.var "T", .var "U"]) := by
      refine .ofClass (.generic (.basic (by decide +kernel)) (by simp) ?_)
        (by simp [JavaType.asBasic])
      simp only [List.forall_mem_cons]
      exact ⟨.exact (.var (by decide +kernel)), .exact (.var (by decide +kernel)), by simp⟩
    simpa [pairing] using hbound
  bounded := by decide +kernel

theorem parse_spelling_pairing :
    parseClassSignature "<T:La/Pair<TT;TU;>;U:>La/Base;TT;" =
        .ok ⟨pairing, .basic "a.Base", [.var "T"]⟩ ∧
      parseGenericMethodSignature "<T:La/Pair<TT;TU;>;U:>([I)TU;^La/Base;^TT;" =
        .ok ⟨.var "U", [.array (.basic "int")], pairing⟩ := by
  have hT : JavaType.WellFormed .reference (.var "T") := .var (by decide +kernel)
  have hU : JavaType.WellFormed .reference (.var "U") := .var (by decide +kernel)
  have hbase : JavaType.WellFormed .reference (.basic "a.Base") :=
    .ofClass (.raw (.basic (by decide +kernel))) (by simp [JavaType.asBasic]; decide +kernel)
  have hints : JavaType.WellFormed .type (.array (.basic "int")) :=
    .ofReference (.array (.primitive (by decide +kernel)))
  have hread := parse_spelling.1 ⟨pairing, .basic "a.Base", [.var "T"]⟩
    ⟨wellFormed_pairing, hbase, by simpa using hT⟩
  have hread' := parse_spelling.2 ⟨.var "U", [.array (.basic "int")], pairing⟩
    [.basic "a.Base", .var "T"]
    ⟨wellFormed_pairing, by simpa using hints, .ofReference hU⟩ (by simpa using ⟨hbase, hT⟩)
  exact ⟨hread, hread'⟩

end Signature

end ApiSurface
