import ApiSurface.Proofs.SignatureParts

/-!
# Lists of type parameters

How the type parameters in front of a signature are spelled, and which names a text declares there.
-/

namespace ApiSurface.Signature

/-- The text of a type parameter: its name, behind a colon a class bound, which may be left out,
and interface bounds, each behind another colon. -/
structure ParameterText where
  name : List Char
  classBound : Option (JavaType × List Char)
  interfaceBounds : List (JavaType × List Char)
  isName : IsName [':'] name
  spelled_class : ∀ b ∈ classBound, Spelled .reference b.1 b.2
  spelled_interfaces : ∀ b ∈ interfaceBounds, Spelled .reference b.1 b.2

namespace ParameterText

def boundsText (parameter : ParameterText) : List Char :=
  parameter.classBound.elim [] Prod.snd ++ parameter.interfaceBounds.flatMap fun b => ':' :: b.2

def text (parameter : ParameterText) : List Char := parameter.name ++ ':' :: parameter.boundsText

def bounds (parameter : ParameterText) : List JavaType :=
  (parameter.classBound.toList ++ parameter.interfaceBounds).map Prod.fst

end ParameterText

/-- The names that are declared from here to the closing mark. Only the last parameter may be
without a bound: behind another, the next name would be taken for its bound. -/
inductive DeclaresHere : List String → List Char → Prop where
  | close (rest : List Char) : DeclaresHere [] ('>' :: rest)
  | parameter {parameter : ParameterText} {names : List String} {rest : List Char} :
      parameter.name.head? ≠ some '>' → (parameter.bounds = [] → names = []) →
      DeclaresHere names rest →
      DeclaresHere (String.ofList parameter.name :: names) (parameter.text ++ rest)

/-- The names that the type parameters in front of a signature declare. -/
def Declares (text : String) (names : List String) : Prop :=
  ∃ list, text.toList = '<' :: list ∧ DeclaresHere names list

section

variable {names : List String} {text rest : List Char}

/-- A parameter begins with its name, which the end of a list does not. -/
theorem DeclaresHere.head? (h : DeclaresHere names text) :
    text.head? ≠ some ':' ∧ (names = [] ↔ text.head? = some '>') := by
  cases h with
  | close rest => simp
  | @parameter parameter names rest hfirst =>
    obtain ⟨hne, hcolon⟩ := parameter.isName
    obtain ⟨c, more, hname⟩ := List.exists_cons_of_ne_nil hne
    rw [hname] at hfirst hcolon
    have hc : c ≠ ':' := by simpa using hcolon c List.mem_cons_self
    simpa [ParameterText.text, hname, hc] using hfirst

end

namespace Direct

variable {fuel steps : Nat} {text rest : List Char}

theorem exists_of_typeParameter {entry : String × List JavaType}
    (hfuel : 2 * text.length + 1 ≤ fuel)
    (hread : typeParameter fuel text = .ok (entry, rest)) :
    ∃ parameter : ParameterText, text = parameter.text ++ rest ∧
      entry = (String.ofList parameter.name, parameter.bounds) ∧
      (parameter.bounds = [] → rest.head? = some '>') := by
  unfold typeParameter at hread
  obtain ⟨⟨value, named⟩, hname, hnamed⟩ := bind_eq_ok_iff.mp hread
  obtain ⟨⟨_, parted⟩, hpart, hparted⟩ := bind_eq_ok_iff.mp hnamed
  obtain ⟨name, rfl, hisName, rfl⟩ := exists_of_identifier hname
  obtain rfl := expect_eq_ok_iff.mp hpart
  simp only [List.length_append, List.length_cons] at hfuel
  simp only at hparted
  split_ifs at hparted with hnext
  · obtain ⟨⟨bounds, last⟩, hbounds, hdone⟩ := bind_eq_ok_iff.mp hparted
    cases hdone
    obtain ⟨interfaces, rfl, rfl, hspelled, hend⟩ :=
      (marked_eq_ok_iff (by omega) (by omega)).mp hbounds
    refine ⟨⟨name, none, interfaces, hisName, by simp, hspelled⟩, ?_, rfl, fun hnone => ?_⟩
    · simp [ParameterText.text, ParameterText.boundsText]
    · have hempty : interfaces = [] := by simpa [ParameterText.bounds] using hnone
      subst hempty
      exact hnext.resolve_left hend
  · obtain ⟨⟨classBound, bounded⟩, hbound, hbounded⟩ := bind_eq_ok_iff.mp hparted
    obtain ⟨⟨bounds, last⟩, hbounds, hdone⟩ := bind_eq_ok_iff.mp hbounded
    cases hdone
    obtain ⟨read, rfl, hclass⟩ := (referenceType_eq_ok_iff (by omega)).mp hbound
    rw [List.length_append] at hfuel
    obtain ⟨interfaces, rfl, rfl, hspelled, -⟩ :=
      (marked_eq_ok_iff (show 2 * bounded.length + 1 ≤ fuel by omega) (by omega)).mp hbounds
    refine ⟨⟨name, some (classBound, read), interfaces, hisName, by simpa using hclass, hspelled⟩,
      ?_, rfl, fun hnone => ?_⟩
    · simp [ParameterText.text, ParameterText.boundsText]
    · simp [ParameterText.bounds] at hnone

/-- By induction on the parameters that are read. -/
theorem declaresHere_of_typeParameterList {entries : List (String × List JavaType)}
    (hfuel : 2 * text.length + 1 ≤ fuel)
    (hread : typeParameterList fuel steps text = .ok (entries, rest)) :
    DeclaresHere (entries.map Prod.fst) text := by
  induction steps generalizing text entries with
  | zero => cases hread
  | succ steps ih =>
    unfold typeParameterList many at hread
    split_ifs at hread with hnext
    · obtain ⟨⟨first, left⟩, hfirst, hfollow⟩ := bind_eq_ok_iff.mp hread
      obtain ⟨⟨others, last⟩, hothers, hdone⟩ := bind_eq_ok_iff.mp hfollow
      cases hdone
      obtain ⟨parameter, rfl, rfl, hlast⟩ := exists_of_typeParameter hfuel hfirst
      rw [List.length_append] at hfuel
      have hnames : DeclaresHere (others.map Prod.fst) left := ih (by omega) hothers
      refine .parameter (fun hclose => hnext ?_) (fun hnone => ?_) hnames
      · obtain ⟨more, hname⟩ := List.head?_eq_some_iff.mp hclose
        simp [ParameterText.text, hname]
      · exact hnames.head?.2.mpr (hlast hnone)
    · cases hread
      obtain ⟨more, rfl⟩ := List.head?_eq_some_iff.mp (not_not.mp hnext)
      exact .close more

/-- A parameter is read back where the name of the next one stands behind it, or the end. -/
theorem typeParameter_text (parameter : ParameterText) (hrest : rest.head? ≠ some ':')
    (hlast : parameter.bounds = [] → rest.head? = some '>')
    (hfuel : 2 * (parameter.text ++ rest).length + 1 ≤ fuel) :
    typeParameter fuel (parameter.text ++ rest) =
      .ok ((String.ofList parameter.name, parameter.bounds), rest) := by
  obtain ⟨name, classBound, interfaces, hname, hclass, hinterfaces⟩ := parameter
  simp only [ParameterText.text, ParameterText.boundsText, ParameterText.bounds, List.length_append,
    List.length_cons, List.append_assoc, List.cons_append] at hfuel hlast ⊢
  have hmarked : interfaceBounds fuel fuel
      ((interfaces.flatMap fun b => ':' :: b.2) ++ rest) = .ok (interfaces.map Prod.fst, rest) :=
    (marked_eq_ok_iff (by rw [List.length_append]; omega)
      (by rw [List.length_append]; omega)).mpr ⟨interfaces, rfl, rfl, hinterfaces, hrest⟩
  unfold typeParameter
  rw [identifier_append hname (by simp)]
  simp only [ok_bind, expect_cons]
  cases classBound with
  | none =>
    have hnext : ((interfaces.flatMap fun b => ':' :: b.2) ++ rest).head? = some ':' ∨
        ((interfaces.flatMap fun b => ':' :: b.2) ++ rest).head? = some '>' := by
      cases interfaces with
      | nil => exact .inr (hlast rfl)
      | cons b interfaces => exact .inl rfl
    simp only [Option.elim_none, List.nil_append, if_pos hnext, hmarked, ok_bind]
    rfl
  | some bound =>
    have hspelled := hclass bound rfl
    simp only [Option.elim_some] at hfuel ⊢
    have hbound : referenceType fuel
        (bound.2 ++ ((interfaces.flatMap fun b => ':' :: b.2) ++ rest)) =
          .ok (bound.1, (interfaces.flatMap fun b => ':' :: b.2) ++ rest) :=
      (referenceType_eq_ok_iff (by simp only [List.length_append]; omega)).mpr
        ⟨bound.2, rfl, hspelled⟩
    obtain ⟨c, more, hcons, hc⟩ := exists_cons_of_reference hspelled
    have hnext : ∀ after, ¬ ((bound.2 ++ after).head? = some ':' ∨
        (bound.2 ++ after).head? = some '>') := by
      rw [hcons]
      rcases hc with rfl | rfl | rfl <;> simp
    simp only [if_neg (hnext _), hbound, ok_bind, hmarked]
    rfl

/-- By induction on the parameters that are declared. -/
theorem exists_of_declaresHere {names : List String} (h : DeclaresHere names text)
    (hfuel : 2 * text.length + 1 ≤ fuel) (hsteps : text.length < steps) :
    ∃ entries rest, typeParameterList fuel steps text = .ok (entries, rest) ∧
      entries.map Prod.fst = names := by
  obtain ⟨steps, rfl⟩ := Nat.exists_eq_add_one_of_ne_zero (show steps ≠ 0 by omega)
  induction h generalizing steps with
  | close rest => exact ⟨[], '>' :: rest, by simp [typeParameterList, many], rfl⟩
  | @parameter parameter names rest hfirst hlast hrest ih =>
    have hhead := hrest.head?
    have hread := typeParameter_text parameter hhead.1 (fun hnone => hhead.2.mp (hlast hnone)) hfuel
    have hgoes := mt (DeclaresHere.parameter hfirst hlast hrest).head?.2.mpr (List.cons_ne_nil _ _)
    have hshort : 0 < parameter.text.length := by
      rw [ParameterText.text, List.length_append, List.length_cons]
      omega
    rw [List.length_append] at hfuel hsteps
    obtain ⟨steps, rfl⟩ := Nat.exists_eq_add_one_of_ne_zero (show steps ≠ 0 by omega)
    obtain ⟨entries, left, hothers, hnames⟩ := ih (by omega) steps (by omega)
    refine ⟨(String.ofList parameter.name, parameter.bounds) :: entries, left, ?_,
      congrArg (String.ofList parameter.name :: ·) hnames⟩
    unfold typeParameterList many
    rw [if_pos hgoes, hread, ok_bind]
    simp only
    rw [← typeParameterList, hothers, ok_bind]

theorem typeParameters_of_wholeClass {entries : List (String × List JavaType)}
    {superclass : JavaType} {interfaces : List JavaType}
    (hread : wholeClass fuel text = .ok ((entries, superclass, interfaces), rest)) :
    ∃ left, typeParameters fuel text = .ok (entries, left) := by
  unfold wholeClass at hread
  obtain ⟨⟨parameters, left⟩, hbegin, hbegun⟩ := bind_eq_ok_iff.mp hread
  obtain ⟨⟨type, typed⟩, -, htyped⟩ := bind_eq_ok_iff.mp hbegun
  obtain ⟨⟨types, last⟩, -, hdone⟩ := bind_eq_ok_iff.mp htyped
  cases hdone
  exact ⟨left, hbegin⟩

end Direct

theorem declares_of_typeParameters {fuel : Nat} {text : String}
    {entries : List (String × List JavaType)} {rest : List Char}
    (hfuel : 2 * text.toList.length + 1 ≤ fuel)
    (hread : Direct.typeParameters fuel text.toList = .ok (entries, rest)) (hsome : entries ≠ []) :
    Declares text (entries.map Prod.fst) := by
  unfold Direct.typeParameters at hread
  split_ifs at hread with hnext
  · obtain ⟨list, htext⟩ := List.head?_eq_some_iff.mp hnext
    rw [htext, List.length_cons] at hfuel
    rw [htext, List.tail_cons] at hread
    obtain ⟨⟨parameters, closed⟩, hlist, hclosed⟩ := bind_eq_ok_iff.mp hread
    obtain ⟨⟨_, last⟩, -, hdone⟩ := bind_eq_ok_iff.mp hclosed
    simp only at hdone
    split_ifs at hdone
    · cases hdone
    · cases hdone
      exact ⟨list, htext, Direct.declaresHere_of_typeParameterList (by omega) hlist⟩
  · cases hread
    exact absurd rfl hsome

/-- A text declares its names in one way at most. -/
theorem Declares.unique {text : String} {names names' : List String} (h : Declares text names)
    (h' : Declares text names') : names = names' := by
  obtain ⟨list, htext, hlist⟩ := h
  obtain ⟨list', htext', hlist'⟩ := h'
  cases htext.symm.trans htext'
  obtain ⟨entries, rest, hread, rfl⟩ :=
    Direct.exists_of_declaresHere hlist le_rfl (Nat.lt_succ_self _)
  obtain ⟨entries', rest', hread', rfl⟩ :=
    Direct.exists_of_declaresHere hlist' le_rfl (Nat.lt_succ_self _)
  cases hread.symm.trans hread'
  rfl

end ApiSurface.Signature
