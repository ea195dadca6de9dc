import Mathlib.Data.List.Induction
import Mathlib.Tactic.Common
import ApiSurface.BeanProperties

/-!
# Which properties are hidden

A member of a class may say that its property is hidden, or that it is not. In a hierarchy the first
class with such a statement decides, by its last statement about the property.
-/

namespace ApiSurface

/-- A member that may say something about its property. -/
inductive Speaker where
  | component (r : RecordComponent)
  | field (f : JavaField)
  | getter (m : JavaMethod)

/-- The members of a class that may say something, in the order in which they do. -/
def JavaClass.speakers (decl : JavaClass) : List Speaker :=
  decl.recordComponents.map .component ++ decl.publicInstanceFields.map .field ++
    decl.getters.map .getter

/-! ## Statements -/

/-- The first marker among the annotations says whether to ignore. One that says no more says to
ignore. -/
inductive Marks (annotations : List AnnotationUse) : Bool → Prop where
  | given {a : AnnotationUse} {hide : Bool} :
      AnnotationUse.find? annotations Visibility.ignoreType = some a →
      a.bool? "value" = some hide → Marks annotations hide
  | plain {a : AnnotationUse} :
      AnnotationUse.find? annotations Visibility.ignoreType = some a →
      a.bool? "value" = none → Marks annotations true

def Unmarked (annotations : List AnnotationUse) : Prop :=
  ∀ a ∈ annotations, a.name ≠ Visibility.ignoreType

def MarkedTransient (annotations : List AnnotationUse) : Prop :=
  ∃ a ∈ annotations, a.name ∈ Visibility.transientTypes

def JavaField.IsTransient (field : JavaField) : Prop :=
  field.access.isTransient = true ∨ MarkedTransient field.annotations

/-- What a member of a class says about a property: whether it is hidden. A marker on the member
comes first. A getter speaks through the first field of the property's name then, be it public or
not, and transient members come last. -/
inductive Speaker.Says (decl : JavaClass) : Speaker → String → Bool → Prop where
  | component {r : RecordComponent} {hide : Bool} :
      Marks r.annotations hide → Says decl (.component r) r.name hide
  | field {f : JavaField} {hide : Bool} :
      Marks f.annotations hide → Says decl (.field f) f.name hide
  | transientField {f : JavaField} :
      Unmarked f.annotations → f.IsTransient → Says decl (.field f) f.name true
  | getter {m : JavaMethod} {property : String} {hide : Bool} :
      m.propertyName = some property → Marks m.annotations hide →
      Says decl (.getter m) property hide
  | getterField {m : JavaMethod} {f : JavaField} {property : String} {hide : Bool} :
      m.propertyName = some property → Unmarked m.annotations →
      decl.field? property = some f → Marks f.annotations hide →
      Says decl (.getter m) property hide
  | transientGetter {m : JavaMethod} {property : String} :
      m.propertyName = some property → Unmarked m.annotations →
      (∀ f, decl.field? property = some f → Unmarked f.annotations) →
      (MarkedTransient m.annotations ∨ ∃ f, decl.field? property = some f ∧ f.IsTransient) →
      Says decl (.getter m) property true

namespace JavaClass

/-- No member says anything about the property. -/
def IsSilent (decl : JavaClass) (property : String) : Prop :=
  ∀ speaker ∈ decl.speakers, ∀ hide, ¬ speaker.Says decl property hide

/-- The last member that says something about the property says whether it is hidden. -/
def Decides (decl : JavaClass) (property : String) (hide : Bool) : Prop :=
  ∃ front speaker back, decl.speakers = front ++ speaker :: back ∧
    speaker.Says decl property hide ∧
    ∀ later ∈ back, ∀ other, ¬ later.Says decl property other

end JavaClass

/-! ## The statements that are made -/

namespace Visibility

theorem explicit?_eq_some_iff {annotations : List AnnotationUse} {hide : Bool} :
    explicit? annotations = some hide ↔ Marks annotations hide := by
  unfold explicit?
  constructor
  · intro h
    obtain ⟨a, ha, hvalue⟩ := Option.map_eq_some_iff.mp h
    cases hgiven : a.bool? "value" with
    | some value =>
      rw [hgiven] at hvalue
      cases hvalue
      exact .given ha hgiven
    | none =>
      rw [hgiven] at hvalue
      cases hvalue
      exact .plain ha hgiven
  · intro h
    cases h with
    | given ha hgiven => rw [ha, Option.map_some, hgiven, Option.getD_some]
    | plain ha hgiven => rw [ha, Option.map_some, hgiven, Option.getD_none]

theorem explicit?_eq_none_iff {annotations : List AnnotationUse} :
    explicit? annotations = none ↔ Unmarked annotations := by
  simp [explicit?, AnnotationUse.find?, Unmarked]

theorem isMarkedTransient_iff {annotations : List AnnotationUse} :
    isMarkedTransient annotations = true ↔ MarkedTransient annotations :=
  AnnotationUse.anyOf_iff annotations transientTypes

theorem isTransient_iff {field : JavaField} : isTransient field = true ↔ field.IsTransient := by
  rw [isTransient, Bool.or_eq_true, isMarkedTransient_iff, JavaField.IsTransient]

/-- An explicit statement counts, and only without one that the member is transient. -/
theorem ofStatement_eq_some_iff {property : String} {explicit : Option Bool} {transient : Bool}
    {v : Visibility} :
    ofStatement property explicit transient = some v ↔ v.property = property ∧
      (explicit = some v.hidden ∨ explicit = none ∧ transient = true ∧ v.hidden = true) := by
  obtain ⟨name, hide⟩ := v
  cases explicit <;> cases transient <;> simp [ofStatement, eq_comm, and_comm]

end Visibility

namespace Speaker

variable {decl : JavaClass} {property : String} {hide : Bool}

def statement? (decl : JavaClass) : Speaker → Option Visibility
  | .component r => Visibility.ofComponent r
  | .field f => Visibility.ofField f
  | .getter m => Visibility.ofGetter decl m

theorem ofClass_eq (decl : JavaClass) :
    Visibility.ofClass decl = decl.speakers.filterMap (statement? decl) := by
  simp only [Visibility.ofClass, JavaClass.speakers, List.filterMap_append, List.filterMap_map]
  rfl

/-- What stands for the statement of a getter: its own, or that of the field of its property. -/
theorem explicit_getter_iff {m : JavaMethod} :
    (Visibility.explicit? m.annotations <|>
        (decl.field? property).bind fun f => Visibility.explicit? f.annotations) = some hide ↔
      Marks m.annotations hide ∨ Unmarked m.annotations ∧
        ∃ f, decl.field? property = some f ∧ Marks f.annotations hide := by
  simp only [Option.orElse_eq_orElse, Option.orElse_eq_or, Option.or_eq_some_iff,
    Option.bind_eq_some_iff, Visibility.explicit?_eq_some_iff, Visibility.explicit?_eq_none_iff]

theorem not_explicit_getter_iff {m : JavaMethod} :
    (Visibility.explicit? m.annotations <|>
        (decl.field? property).bind fun f => Visibility.explicit? f.annotations) = none ↔
      Unmarked m.annotations ∧
        ∀ f, decl.field? property = some f → Unmarked f.annotations := by
  simp only [Option.orElse_eq_orElse, Option.orElse_eq_or, Option.or_eq_none_iff,
    Option.bind_eq_none_iff, Visibility.explicit?_eq_none_iff]

theorem transient_getter_iff {m : JavaMethod} :
    (Visibility.isMarkedTransient m.annotations ||
        (decl.field? property).any Visibility.isTransient) = true ↔
      MarkedTransient m.annotations ∨ ∃ f, decl.field? property = some f ∧ f.IsTransient := by
  simp only [Bool.or_eq_true, Visibility.isMarkedTransient_iff, Option.any_eq_true,
    Visibility.isTransient_iff]

theorem ofGetter_eq_some_iff {m : JavaMethod} :
    Visibility.ofGetter decl m = some ⟨property, hide⟩ ↔
      Says decl (.getter m) property hide := by
  simp only [Visibility.ofGetter, Option.bind_eq_bind, Option.bind_eq_some_iff,
    Visibility.ofStatement_eq_some_iff, explicit_getter_iff, not_explicit_getter_iff,
    transient_getter_iff]
  constructor
  · rintro ⟨_, hname, rfl, (hmarks | ⟨hunmarked, f, hf, hmarks⟩) | ⟨⟨hunmarked, hf⟩, h, rfl⟩⟩
    · exact .getter hname hmarks
    · exact .getterField hname hunmarked hf hmarks
    · exact .transientGetter hname hunmarked hf h
  · intro h
    cases h with
    | getter hname hmarks => exact ⟨property, hname, rfl, .inl (.inl hmarks)⟩
    | getterField hname hunmarked hf hmarks =>
      exact ⟨property, hname, rfl, .inl (.inr ⟨hunmarked, _, hf, hmarks⟩)⟩
    | transientGetter hname hunmarked hf h =>
      exact ⟨property, hname, rfl, .inr ⟨⟨hunmarked, hf⟩, h, rfl⟩⟩

theorem statement?_eq_some_iff {speaker : Speaker} :
    speaker.statement? decl = some ⟨property, hide⟩ ↔ speaker.Says decl property hide := by
  cases speaker with
  | component r =>
    rw [statement?, Visibility.ofComponent, Visibility.ofStatement_eq_some_iff,
      Visibility.explicit?_eq_some_iff]
    constructor
    · rintro ⟨rfl, hmarks | ⟨-, htransient, -⟩⟩
      · exact .component hmarks
      · cases htransient
    · intro h
      cases h with
      | component hmarks => exact ⟨rfl, .inl hmarks⟩
  | field f =>
    rw [statement?, Visibility.ofField, Visibility.ofStatement_eq_some_iff,
      Visibility.explicit?_eq_some_iff, Visibility.explicit?_eq_none_iff,
      Visibility.isTransient_iff]
    constructor
    · rintro ⟨rfl, hmarks | ⟨hunmarked, htransient, rfl⟩⟩
      · exact .field hmarks
      · exact .transientField hunmarked htransient
    · intro h
      cases h with
      | field hmarks => exact ⟨rfl, .inl hmarks⟩
      | transientField hunmarked htransient => exact ⟨rfl, .inr ⟨hunmarked, htransient, rfl⟩⟩
  | getter m => exact ofGetter_eq_some_iff

end Speaker

/-! ## The statement that decides -/

/-- Of the statements about a property the last one decides. By induction from the back. -/
theorem mem_foldl_apply_iff (statements : List Visibility) (property : String) :
    property ∈ statements.foldl Visibility.apply [] ↔
      ∃ v, statements.reverse.find? (·.property == property) = some v ∧ v.hidden = true := by
  induction statements using List.reverseRecOn with
  | nil => simp
  | append_singleton statements v ih =>
    rw [List.foldl_append, List.foldl_cons, List.foldl_nil, Visibility.mem_apply,
      List.reverse_append, List.reverse_singleton, List.singleton_append, List.find?_cons]
    by_cases hproperty : property = v.property
    · simp [hproperty]
    · have hother : (v.property == property) = false := beq_false_of_ne (Ne.symm hproperty)
      simp [hproperty, hother, ih]

theorem find?_reverse_eq_some_iff {α : Type} {p : α → Bool} {l : List α} {a : α} :
    l.reverse.find? p = some a ↔
      ∃ front back, l = front ++ a :: back ∧ p a = true ∧ ∀ later ∈ back, p later = false := by
  rw [List.find?_eq_some_iff_append]
  constructor
  · rintro ⟨ha, back, front, hsplit, hback⟩
    refine ⟨front.reverse, back.reverse, ?_, ha, by simpa using hback⟩
    rw [← List.reverse_reverse l, hsplit]
    simp
  · rintro ⟨front, back, rfl, ha, hback⟩
    exact ⟨ha, back.reverse, front.reverse, by simp, by simpa using hback⟩

namespace JavaClass

variable {decl : JavaClass} {property : String}

/-- The last statement of a class about a property. -/
def lastStatement? (decl : JavaClass) (property : String) : Option Visibility :=
  (Visibility.ofClass decl).reverse.find? (·.property == property)

theorem lastStatement?_eq (decl : JavaClass) (property : String) :
    decl.lastStatement? property =
      (decl.speakers.reverse.find? fun speaker =>
        (speaker.statement? decl).any (·.property == property)).bind (Speaker.statement? decl) := by
  rw [lastStatement?, Speaker.ofClass_eq, ← List.filterMap_reverse, List.find?_filterMap]

theorem any_statement?_iff {speaker : Speaker} :
    (speaker.statement? decl).any (·.property == property) = true ↔
      ∃ hide, speaker.Says decl property hide := by
  simp only [Option.any_eq_true, beq_iff_eq, ← Speaker.statement?_eq_some_iff]
  constructor
  · rintro ⟨⟨_, hide⟩, hsays, rfl⟩
    exact ⟨hide, hsays⟩
  · rintro ⟨hide, hsays⟩
    exact ⟨_, hsays, rfl⟩

theorem lastStatement?_eq_none_iff :
    decl.lastStatement? property = none ↔ decl.IsSilent property := by
  rw [lastStatement?, List.find?_eq_none, Speaker.ofClass_eq]
  simp only [List.mem_reverse, List.mem_filterMap, beq_iff_eq]
  constructor
  · intro h speaker hspeaker hide hsays
    exact h _ ⟨speaker, hspeaker, Speaker.statement?_eq_some_iff.mpr hsays⟩ rfl
  · rintro h ⟨_, hide⟩ ⟨speaker, hspeaker, hstatement⟩ rfl
    exact h speaker hspeaker hide (Speaker.statement?_eq_some_iff.mp hstatement)

theorem lastStatement?_eq_some_iff {hide : Bool} :
    decl.lastStatement? property = some ⟨property, hide⟩ ↔ decl.Decides property hide := by
  have hnone : ∀ {speaker : Speaker}, (speaker.statement? decl).any (·.property == property) =
      false ↔ ∀ hide, ¬ speaker.Says decl property hide := by
    intro speaker
    rw [← not_exists, ← any_statement?_iff, Bool.not_eq_true]
  rw [lastStatement?_eq, Option.bind_eq_some_iff]
  simp only [find?_reverse_eq_some_iff, any_statement?_iff, hnone, Speaker.statement?_eq_some_iff]
  constructor
  · rintro ⟨speaker, ⟨front, back, hsplit, -, hback⟩, hsays⟩
    exact ⟨front, speaker, back, hsplit, hsays, hback⟩
  · rintro ⟨front, speaker, back, hsplit, hsays, hback⟩
    exact ⟨speaker, ⟨front, back, hsplit, ⟨hide, hsays⟩, hback⟩, hsays⟩

end JavaClass

/-- The hidden properties of a hierarchy are those that the first class with a statement about them
hides with its last one. In a class the components come first, then the public fields of instances,
then the getters, each in the order of their declaration. -/
theorem mem_hiddenProperties_iff (levels : List BoundClass) (property : String) :
    property ∈ hiddenProperties levels ↔ ∃ front level back, levels = front ++ level :: back ∧
      level.decl.Decides property true ∧ ∀ earlier ∈ front, earlier.decl.IsSilent property := by
  have hlast : ((levels.reverse.flatMap fun level => Visibility.ofClass level.decl).reverse.find?
      (·.property == property)) =
        levels.findSome? fun level => level.decl.lastStatement? property := by
    rw [List.reverse_flatMap, List.reverse_reverse, List.find?_flatMap]
    rfl
  rw [hiddenProperties, mem_foldl_apply_iff, hlast]
  simp only [List.findSome?_eq_some_iff, ← JavaClass.lastStatement?_eq_some_iff,
    ← JavaClass.lastStatement?_eq_none_iff]
  constructor
  · rintro ⟨v, ⟨front, level, back, hsplit, hlevel, hfront⟩, hhidden⟩
    have hproperty : v.property = property := by
      have hfound := List.find?_some hlevel
      exact beq_iff_eq.mp hfound
    obtain ⟨_, _⟩ := v
    cases hproperty
    cases hhidden
    exact ⟨front, level, back, hsplit, hlevel, hfront⟩
  · rintro ⟨front, level, back, hsplit, hlevel, hfront⟩
    exact ⟨_, ⟨front, level, back, hsplit, hlevel, hfront⟩, rfl⟩

end ApiSurface
