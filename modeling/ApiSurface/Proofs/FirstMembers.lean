import ApiSurface.Proofs.Reading

/-!
# First members

Of the members of a hierarchy that go by one name the first counts: the one of the lowest level, and
of several on one level the one that is declared first.
-/

namespace ApiSurface

/-- No member of a lower level satisfies the condition, and on its own level none that is declared
before it. -/
structure FirstMember {α : Type} (members : JavaClass → List α)
    (condition : JavaClass → α → Prop) (levels : List BoundClass) (level : BoundClass)
    (member : α) : Prop where
  meets : condition level.decl member
  first : ∃ below above before behind, levels = below ++ level :: above ∧
    members level.decl = before ++ member :: behind ∧
    (∀ l ∈ below, ∀ m ∈ members l.decl, ¬ condition l.decl m) ∧
    ∀ m ∈ before, ¬ condition level.decl m

section

variable {α β : Type} {members : JavaClass → List α} {condition : JavaClass → α → Prop}
  {levels : List BoundClass} {level : BoundClass} {member : α}

theorem FirstMember.level_mem (h : FirstMember members condition levels level member) :
    level ∈ levels := by
  obtain ⟨below, above, -, -, rfl, -⟩ := h.first
  simp

theorem FirstMember.member_mem (h : FirstMember members condition levels level member) :
    member ∈ members level.decl := by
  obtain ⟨-, -, before, behind, -, heq, -⟩ := h.first
  simp [heq]

/-- A search through the selected members of all levels finds the first member. -/
theorem find?_members_eq_some_iff (select : JavaClass → α → Bool) {view : BoundClass → α → β}
    {wanted : β → Bool} {b : β}
    (hcondition : ∀ level member, condition level.decl member ↔
      select level.decl member = true ∧ wanted (view level member) = true) :
    (levels.flatMap fun level =>
      ((members level.decl).filter (select level.decl)).map (view level)).find? wanted = some b ↔
      ∃ level member, FirstMember members condition levels level member ∧
        view level member = b := by
  simp only [List.find?_flatMap, List.find?_map, List.find?_filter,
    List.findSome?_eq_some_iff, Option.map_eq_some_iff, Option.map_eq_none_iff,
    List.find?_eq_some_iff_append, List.find?_eq_none, Function.comp_apply,
    decide_eq_true_eq, Bool.not_eq_true', decide_eq_false_iff_not, ← hcondition]
  constructor
  · intro hgiven
    obtain ⟨below, level, above, hlevels,
      ⟨member, ⟨hmeets, before, behind, hmembers, hbefore⟩, hview⟩, hbelow⟩ := hgiven
    exact ⟨level, member,
      ⟨hmeets, below, above, before, behind, hlevels, hmembers, hbelow, hbefore⟩, hview⟩
  · intro hgiven
    obtain ⟨level, member,
      ⟨hmeets, below, above, before, behind, hlevels, hmembers, hbelow, hbefore⟩, hview⟩ := hgiven
    exact ⟨below, level, above, hlevels,
      ⟨member, ⟨hmeets, before, behind, hmembers, hbefore⟩, hview⟩, hbelow⟩

end

namespace Slot

/-- The slots of candidates, of which the first of a name counts. -/
def gather (candidates : List Slot) : List Slot := candidates.foldl addTo []

theorem mem_names_addTo (slots : List Slot) (slot : Slot) (property : String) :
    property ∈ names (addTo slots slot) ↔ property ∈ names slots ∨ property = slot.property := by
  unfold addTo
  split_ifs with htaken
  · constructor
    · exact .inl
    · rintro (hmem | rfl)
      · exact hmem
      · exact htaken
  · simp [names]

theorem mem_names_foldl_addTo (candidates slots : List Slot) (property : String) :
    property ∈ names (candidates.foldl addTo slots) ↔
      property ∈ names slots ∨ ∃ c ∈ candidates, c.property = property := by
  induction candidates generalizing slots with
  | nil => simp
  | cons c candidates ih =>
    rw [List.foldl_cons, ih, mem_names_addTo]
    simp [or_assoc, eq_comm]

theorem of_mem_foldl_addTo {candidates slots : List Slot} {slot : Slot}
    (h : slot ∈ candidates.foldl addTo slots) :
    slot ∈ slots ∨ slot.property ∉ names slots ∧
      candidates.find? (fun c => c.property == slot.property) = some slot := by
  induction candidates generalizing slots with
  | nil => exact .inl h
  | cons c candidates ih =>
    rw [List.foldl_cons] at h
    obtain hmem | ⟨hnew, hfind⟩ := ih h
    · by_cases htaken : c.property ∈ names slots
      · rw [addTo, if_pos htaken] at hmem
        exact .inl hmem
      · rw [addTo, if_neg htaken] at hmem
        rcases List.mem_append.mp hmem with hmem | hmem
        · exact .inl hmem
        · obtain rfl := List.mem_singleton.mp hmem
          exact .inr ⟨htaken, by simp⟩
    · rw [mem_names_addTo, not_or] at hnew
      have hne : (c.property == slot.property) = false := by simpa using Ne.symm hnew.2
      exact .inr ⟨hnew.1, by simpa [hne] using hfind⟩

theorem mem_names_gather (candidates : List Slot) (property : String) :
    property ∈ names (gather candidates) ↔ ∃ c ∈ candidates, c.property = property := by
  rw [gather, mem_names_foldl_addTo]
  simp [names]

/-- A slot is the first candidate of its name. -/
theorem find?_of_mem_gather {candidates : List Slot} {slot : Slot} (h : slot ∈ gather candidates) :
    candidates.find? (fun c => c.property == slot.property) = some slot := by
  obtain hmem | ⟨-, hfind⟩ := of_mem_foldl_addTo h
  · cases hmem
  · exact hfind

end Slot

end ApiSurface
