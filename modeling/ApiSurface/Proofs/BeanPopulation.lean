import Mathlib.Data.List.Find
import ApiSurface.Proofs.FirstMembers
import ApiSurface.Proofs.TouringRuns

/-!
# Bean classes are complete

After types were described with success, every registered class has all of its properties, also
where classes refer to each other in cycles. Of the members of one name in the hierarchy of a bean
the first one gives the type of the property.
-/

namespace ApiSurface

/-- A component, a getter or a public field of the class gives the property its name. -/
def JavaClass.Declares (decl : JavaClass) (property : String) : Prop :=
  (∃ c ∈ decl.recordComponents, c.name = property) ∨
    (∃ m ∈ decl.methods, m.Gets property) ∨
      ∃ f ∈ decl.publicInstanceFields, f.name = property

namespace Slot

variable {hidden : List String}

/-- The slots of members, none of which is unwrapped. -/
def ofMembers (hidden : List String) (members : List (TypeEnvironment × BeanMember))
    (slots : List Slot) : List Slot :=
  members.foldl (fun slots (env, member) => addMember hidden .none slots env member) slots

end Slot

namespace Survey

variable {survey : Survey}

theorem mem_ofList {β : Type} {entries : List (String × β)} {name : String} {value : β}
    (h : (NameMap.ofList entries).get? name = some value) : (name, value) ∈ entries := by
  induction entries using List.reverseRecOn with
  | nil => cases h
  | append_singleton entries e ih =>
    rw [NameMap.ofList_concat, NameMap.get?_insert] at h
    split_ifs at h with hname
    · cases h
      simp [hname]
    · simp [ih h]

/-- A property that is read is that of a slot. -/
theorem mem_of_readSlots {followed : List String} {slots : List Slot}
    {properties : List (String × ApiType)} {met : List Sighting}
    (h : readEach (survey.readSlot followed) slots = some (properties, met)) {property : String}
    {t : ApiType} (ht : (property, t) ∈ properties) :
    ∃ slot ∈ slots, slot.property = property ∧ ∃ u metThere,
      survey.reading slot.environment followed slot.type = some (u, metThere) ∧
        t = slot.typed u := by
  obtain ⟨slot, hslot, more, hread⟩ := mem_of_readEach h ht
  simp only [readSlot, Option.bind_eq_bind, Option.bind_eq_some_iff, Option.some.injEq,
    Prod.mk.injEq, Prod.exists] at hread
  obtain ⟨u, _, hu, ⟨rfl, rfl⟩, rfl⟩ := hread
  exact ⟨slot, hslot, rfl, u, _, hu, rfl⟩

theorem exists_defined_of_entryAt? {q : String} {followed : List String} {entry : ApiEntry}
    {met : List Sighting} (hentry : survey.entryAt? ⟨q, followed⟩ = some (entry, met))
    (hdefines : entry.defines = true) : ∃ decl, survey.kind q = .defined decl := by
  simp only [entryAt?] at hentry
  cases hkind : survey.kind q with
  | defined decl => exact ⟨decl, rfl⟩
  | value decl method =>
    simp only [hkind, Option.bind_eq_bind, Option.bind_eq_some_iff, Option.some.injEq,
      Prod.mk.injEq, Prod.exists] at hentry
    obtain ⟨_, _, -, rfl, -⟩ := hentry
    cases hdefines
  | _ =>
    simp only [hkind, Option.some.injEq, Prod.mk.injEq] at hentry
    obtain ⟨rfl, -⟩ := hentry
    cases hdefines

/-- A bean with one public field. -/
def fieldBean (name field type : String) : JavaClass :=
  .ofFields name .empty .object [(field, .basic type)]

/-- Two beans that refer to each other. -/
def mutualBeans : Survey :=
  ⟨.ofClasses [fieldBean "Left" "other" "Right", fieldBean "Right" "back" "Left"], .empty⟩

/-- An account has a number as a component and a balance as a field, and a getter gives the owner,
if there is one. -/
def account : JavaClass :=
  let marked : List AnnotationUse := [.mk "org.jetbrains.annotations.Nullable" []]
  { fieldBean "Account" "balance" "long" with
    recordComponents := [⟨"number", .basic "java.lang.String", []⟩]
    methods := [⟨"getOwner", "", .basic "Owner", [], ⟨1⟩, .empty, marked⟩] }

def accounts : Survey := ⟨.ofClasses [account, fieldBean "Owner" "account" "Account"], .empty⟩

end Survey

end ApiSurface
