import ApiSurface.LowerCase

/-!
# Property names of getters

A getter is named `get` or `is` and the name of its property, whose first character it writes in
upper case. Getters of inline value classes end in a hash after a dash, which is not part of the
name.
-/

namespace ApiSurface

/-- What stands behind the first of two leads that the text begins with. -/
def afterLead (leads : List (List Char)) (text : List Char) : Option (List Char) :=
  leads.findSome? fun lead => if lead.isPrefixOf text then some (text.drop lead.length) else none

def propertyNameOfGetter (getter : String) : Option String :=
  match afterLead ["get".toList, "is".toList] (getter.toList.takeWhile (· != '-')) with
  | some (first :: rest) => some (String.ofList (LowerCase.ofChar first ++ rest))
  | _ => none

theorem drop_of_isPrefixOf_iff {lead text rest : List Char} :
    (if lead.isPrefixOf text then some (text.drop lead.length) else none) = some rest ↔
      text = lead ++ rest := by
  rw [Option.ite_none_right_eq_some, List.isPrefixOf_iff_prefix]
  constructor
  · rintro ⟨⟨front, rfl⟩, hrest⟩
    simpa using hrest
  · rintro rfl
    simp

/-- No text begins with both leads. -/
theorem afterLead_eq_some_iff {text rest : List Char} :
    afterLead ["get".toList, "is".toList] text = some rest ↔
      ∃ lead ∈ ["get", "is"], text = lead.toList ++ rest := by
  simp only [afterLead, List.findSome?_cons, List.findSome?_nil, List.mem_cons, List.not_mem_nil,
    or_false, exists_eq_or_imp, exists_eq_left]
  cases hget : (if "get".toList.isPrefixOf text then
      some (text.drop "get".toList.length) else none) with
  | some behind =>
    have htext := drop_of_isPrefixOf_iff.mp hget
    subst htext
    simp
  | none =>
    have hnot : text ≠ "get".toList ++ rest := fun htext => by
      rw [drop_of_isPrefixOf_iff.mpr htext] at hget
      cases hget
    simp only [hnot, false_or]
    rw [← drop_of_isPrefixOf_iff]
    split <;> simp_all

/-- Up to a dash the getter is named by a lead and the property, which begins in lower case, in
whatever case the getter has it. -/
def IsGetterName (getter property : String) : Prop :=
  ∃ lead ∈ ["get", "is"], ∃ first rest,
    getter.toList.takeWhile (· != '-') = lead.toList ++ first :: rest ∧
      property = String.ofList (LowerCase.ofChar first ++ rest)

theorem propertyNameOfGetter_eq_some_iff {getter property : String} :
    propertyNameOfGetter getter = some property ↔ IsGetterName getter property := by
  have hsplit : propertyNameOfGetter getter = some property ↔ ∃ first rest,
      afterLead ["get".toList, "is".toList] (getter.toList.takeWhile (· != '-')) =
        some (first :: rest) ∧ property = String.ofList (LowerCase.ofChar first ++ rest) := by
    rw [propertyNameOfGetter]
    cases afterLead ["get".toList, "is".toList] (getter.toList.takeWhile (· != '-')) with
    | none => simp
    | some text => cases text <;> simp [and_assoc, eq_comm]
  rw [hsplit]
  simp only [afterLead_eq_some_iff, IsGetterName]
  constructor
  · rintro ⟨first, rest, ⟨lead, hlead, htext⟩, hname⟩
    exact ⟨lead, hlead, first, rest, htext, hname⟩
  · rintro ⟨lead, hlead, first, rest, htext, hname⟩
    exact ⟨first, rest, ⟨lead, hlead, htext⟩, hname⟩

end ApiSurface
