import Mathlib.Data.List.Induction
import ApiSurface.Proofs.ClassKind

/-!
# Readings

What a type stands for, and what definition a class gets, can be told without an API under
construction: both depend on the classes, the settings and the variables that are followed. A
reading also lists the classes that are met, in their order, each with the variables that are
followed there. Describing amounts to reading, and to registering the classes that are met.
-/

namespace ApiSurface

/-- A class that is met, and the variables that are followed there, the innermost first. -/
structure Sighting where
  className : String
  followed : List String
  deriving DecidableEq, Repr

/-- Results one after the other are the first and the rest. -/
theorem mapM_cons_eq_ok {ε α β : Type} {f : α → Except ε β} {a : α} {as : List α} {bs : List β}
    (h : (a :: as).mapM f = .ok bs) :
    ∃ b rest, f a = .ok b ∧ as.mapM f = .ok rest ∧ bs = b :: rest := by
  rw [List.mapM_cons] at h
  cases hfirst : f a with
  | error e =>
    rw [hfirst] at h
    cases h
  | ok b =>
    cases hrest : as.mapM f with
    | error e =>
      rw [hfirst, hrest] at h
      cases h
    | ok rest =>
      rw [hfirst, hrest] at h
      cases h
      exact ⟨b, rest, rfl, rfl, rfl⟩

/-- Readings one after the other. -/
def readEach {α β : Type} (read : α → Option (β × List Sighting)) :
    List α → Option (List β × List Sighting)
  | [] => some ([], [])
  | a :: as => do
    let (b, met) ← read a
    let (bs, more) ← readEach read as
    some (b :: bs, met ++ more)

section

variable {α β : Type} {read : α → Option (β × List Sighting)} {a : α} {as : List α} {b : β}
  {bs : List β} {met more : List Sighting}

theorem readEach_cons_eq_some_iff :
    readEach read (a :: as) = some (bs, met) ↔ ∃ b first cs rest, read a = some (b, first) ∧
      readEach read as = some (cs, rest) ∧ bs = b :: cs ∧ met = first ++ rest := by
  simp only [readEach, Option.bind_eq_bind, Option.bind_eq_some_iff, Option.some.injEq,
    Prod.mk.injEq, Prod.exists]
  constructor
  · intro hgiven
    obtain ⟨b, first, hb, cs, rest, hrest, rfl, rfl⟩ := hgiven
    exact ⟨b, first, cs, rest, hb, hrest, rfl, rfl⟩
  · intro hgiven
    obtain ⟨b, first, cs, rest, hb, hrest, rfl, rfl⟩ := hgiven
    exact ⟨b, first, hb, cs, rest, hrest, rfl, rfl⟩

theorem readEach_concat (h : readEach read as = some (bs, met)) (ha : read a = some (b, more)) :
    readEach read (as ++ [a]) = some (bs ++ [b], met ++ more) := by
  induction as generalizing bs met with
  | nil =>
    cases h
    simp [readEach, ha]
  | cons first as ih =>
    obtain ⟨b, metFirst, cs, metRest, hfirst, hrest, rfl, rfl⟩ := readEach_cons_eq_some_iff.mp h
    simp [readEach, hfirst, ih hrest]

/-- What is read comes from an item. -/
theorem mem_of_readEach (h : readEach read as = some (bs, met)) (hb : b ∈ bs) :
    ∃ a ∈ as, ∃ more, read a = some (b, more) := by
  induction as generalizing bs met with
  | nil =>
    cases h
    cases hb
  | cons first as ih =>
    obtain ⟨c, metFirst, cs, metRest, hfirst, hrest, rfl, -⟩ := readEach_cons_eq_some_iff.mp h
    rcases List.mem_cons.mp hb with rfl | hb
    · exact ⟨first, by simp, metFirst, hfirst⟩
    · obtain ⟨a, ha, hread⟩ := ih hrest hb
      exact ⟨a, by simp [ha], hread⟩

/-- Items and readings correspond in their order. -/
theorem forall₂_of_readEach (h : readEach read as = some (bs, met)) :
    List.Forall₂ (fun a b => ∃ more, read a = some (b, more)) as bs := by
  induction as generalizing bs met with
  | nil =>
    cases h
    exact .nil
  | cons a as ih =>
    obtain ⟨b, more, cs, rest, hb, hcs, rfl, -⟩ := readEach_cons_eq_some_iff.mp h
    exact .cons ⟨more, hb⟩ (ih hcs)

/-- Where an item and its reading satisfy conditions together, the first reading to do so is that of
the first item. -/
theorem find?_of_readEach {p : β → Bool} {q : α → Bool}
    (hpq : ∀ a b more, read a = some (b, more) → p b = q a)
    (h : readEach read as = some (bs, met)) :
    bs.find? p = ((as.find? q).bind read).map Prod.fst := by
  induction as generalizing bs met with
  | nil =>
    cases h
    rfl
  | cons a as ih =>
    obtain ⟨b, more, cs, rest, hb, hcs, rfl, -⟩ := readEach_cons_eq_some_iff.mp h
    have hsame := hpq a b more hb
    cases hq : q a with
    | true => simp [hsame, hq, hb]
    | false => simp [hsame, hq, ih hcs]

/-- Every item is read. -/
theorem exists_read_of_mem (h : readEach read as = some (bs, met)) {a : α} (ha : a ∈ as) :
    ∃ b more, read a = some (b, more) := by
  induction as generalizing bs met with
  | nil => cases ha
  | cons first as ih =>
    obtain ⟨b, more, cs, rest, hb, hcs, -, -⟩ := readEach_cons_eq_some_iff.mp h
    rcases List.mem_cons.mp ha with rfl | ha
    · exact ⟨b, more, hb⟩
    · exact ih hcs ha

/-- What each item decides of its own reading, the items decide of all readings. -/
theorem map_of_readEach {γ : Type} {f : β → γ} {g : α → γ}
    (hread : ∀ a b met, read a = some (b, met) → f b = g a)
    (h : readEach read as = some (bs, met)) : bs.map f = as.map g := by
  induction as generalizing bs met with
  | nil =>
    cases h
    rfl
  | cons a as ih =>
    obtain ⟨b, first, cs, rest, hb, hcs, rfl, -⟩ := readEach_cons_eq_some_iff.mp h
    simp [hread a b first hb, ih hcs]

end

/-- The bindings of variables that are not followed yet. -/
def TypeEnvironment.unfollowed (env : TypeEnvironment) (followed : List String) : Nat :=
  env.bindings.countP fun b => !followed.contains b.1

theorem TypeEnvironment.unfollowed_cons_lt {env : TypeEnvironment} {followed : List String}
    {name : String} {bound : JavaType} (hbound : env.lookup name = some bound)
    (hfresh : name ∉ followed) : env.unfollowed (name :: followed) < env.unfollowed followed := by
  obtain ⟨bindings⟩ := env
  simp only [lookup, unfollowed, List.contains_eq_mem] at hbound ⊢
  induction bindings with
  | nil => cases hbound
  | cons b rest ih =>
    have hle : rest.countP (fun b => !decide (b.1 ∈ name :: followed)) ≤
        rest.countP (fun b => !decide (b.1 ∈ followed)) :=
      List.countP_mono_left fun b _ hb => by simp_all
    simp only [List.countP_cons]
    by_cases hname : b.1 = name
    · simp only [hname, hfresh, List.mem_cons_self, decide_true, decide_false, Bool.not_true,
        Bool.not_false, if_true, Bool.false_eq_true, if_false]
      omega
    · have hne : (name == b.1) = false := by simp [Ne.symm hname]
      rw [List.lookup_cons, hne] at hbound
      have hlt := ih hbound
      by_cases hb : b.1 ∈ followed <;> simp [hb, hname] at hlt ⊢ <;> omega

namespace Survey

mutual
/-- The type in the API that a declared type stands for, seen from an environment, if it can be
described. -/
def reading (survey : Survey) (env : TypeEnvironment) (followed : List String) :
    JavaType → Option (ApiType × List Sighting)
  | .basic name =>
    match survey.classes.builtin? name with
    | some type => some (type, [])
    | none => some (survey.standIn name, [⟨name, followed⟩])
  | .array element => do
    let (t, met) ← reading survey env followed element
    some (.array t, met)
  | .parameterized base arguments => do
    let (ts, met) ← readingAll survey env followed arguments
    match survey.classes.container? base ts with
    | some t => some (t, met)
    | none => do
      let (t, more) ← reading survey env followed base
      some (t, met ++ more)
  | .var name =>
    match _hbound : env.lookup name with
    | none => some (.any, [])
    | some bound =>
      if bound = .var name then none
      else if _hfollowed : name ∈ followed then some (.any, [])
      else reading survey env (name :: followed) bound
  | .wildcard _ (some lower) => reading survey env followed lower
  | .wildcard (some upper) none => reading survey env followed upper
  | .wildcard none none => some (.any, [])
  | .inner _ _ => none
termination_by type => (env.unfollowed followed, sizeOf type)
decreasing_by
  all_goals simp_wf
  all_goals first
    | exact Prod.Lex.left _ _ (TypeEnvironment.unfollowed_cons_lt ‹_› ‹_›)
    | exact Prod.Lex.right _ (by omega)

def readingAll (survey : Survey) (env : TypeEnvironment) (followed : List String) :
    List JavaType → Option (List ApiType × List Sighting)
  | [] => some ([], [])
  | type :: types => do
    let (t, met) ← reading survey env followed type
    let (ts, more) ← readingAll survey env followed types
    some (t :: ts, met ++ more)
termination_by types => (env.unfollowed followed, sizeOf types)
decreasing_by
  all_goals simp_wf
  all_goals exact Prod.Lex.right _ (by omega)
end

theorem readingAll_eq_readEach (survey : Survey) (env : TypeEnvironment)
    (followed : List String) (types : List JavaType) :
    survey.readingAll env followed types = readEach (survey.reading env followed) types := by
  induction types with
  | nil => simp [readingAll, readEach]
  | cons t types ih => simp [readingAll, readEach, ih]

theorem reading_var (survey : Survey) (env : TypeEnvironment) (followed : List String)
    (name : String) :
    survey.reading env followed (.var name) =
      match env.lookup name with
      | none => some (.any, [])
      | some bound =>
        if bound = .var name then none
        else if name ∈ followed then some (.any, [])
        else survey.reading env (name :: followed) bound := by
  rw [reading]
  cases env.lookup name with
  | none => rfl
  | some bound => split_ifs <;> rfl

/-- Induction along the readings of a type, of which each case says what the reading decides. -/
theorem reading_induct {survey : Survey} {env : TypeEnvironment}
    {motive : List String → JavaType → ApiType → Prop}
    (builtin : ∀ followed name t, survey.classes.builtin? name = some t →
      motive followed (.basic name) t)
    (sighted : ∀ followed name, motive followed (.basic name) (survey.standIn name))
    (array : ∀ followed element t, motive followed element t →
      motive followed (.array element) (.array t))
    (container : ∀ followed base arguments ts t, (∀ u ∈ ts, ∃ a ∈ arguments, motive followed a u) →
      survey.classes.container? base ts = some t → motive followed (.parameterized base arguments) t)
    (generic : ∀ followed base arguments ts met t,
      survey.readingAll env followed arguments = some (ts, met) →
      survey.classes.container? base ts = none → motive followed base t →
      motive followed (.parameterized base arguments) t)
    (free : ∀ followed name, motive followed (.var name) .any)
    (bound : ∀ followed name bound t, env.lookup name = some bound → name ∉ followed →
      motive (name :: followed) bound t → motive followed (.var name) t)
    (lower : ∀ followed upper lower t, motive followed lower t →
      motive followed (.wildcard upper (some lower)) t)
    (upper : ∀ followed upper t, motive followed upper t →
      motive followed (.wildcard (some upper) none) t)
    (unbounded : ∀ followed, motive followed (.wildcard none none) .any)
    {followed : List String} {type : JavaType} {t : ApiType} {met : List Sighting}
    (h : survey.reading env followed type = some (t, met)) : motive followed type t := by
  -- A variable leads to its binding, which is no part of it, but one variable less is left then.
  induction hsteps : env.unfollowed followed using Nat.strongRecOn
    generalizing followed type t met with
  | ind steps ih =>
    induction type using JavaType.induct generalizing t met with
    | basic name =>
      rw [reading] at h
      cases hbuiltin : survey.classes.builtin? name with
      | some u =>
        simp only [hbuiltin, Option.some.injEq, Prod.mk.injEq] at h
        obtain ⟨rfl, -⟩ := h
        exact builtin _ _ _ hbuiltin
      | none =>
        simp only [hbuiltin, Option.some.injEq, Prod.mk.injEq] at h
        obtain ⟨rfl, -⟩ := h
        exact sighted _ _
    | array element ihElement =>
      simp only [reading, Option.bind_eq_bind, Option.bind_eq_some_iff, Option.some.injEq,
        Prod.mk.injEq, Prod.exists] at h
      obtain ⟨u, _, hu, rfl, -⟩ := h
      exact array _ _ _ (ihElement hu)
    | parameterized base arguments ihBase ihArguments =>
      simp only [reading, Option.bind_eq_bind, Option.bind_eq_some_iff, Prod.exists] at h
      obtain ⟨ts, _, hts, h⟩ := h
      cases hcontainer : survey.classes.container? base ts with
      | some u =>
        simp only [hcontainer, Option.some.injEq, Prod.mk.injEq] at h
        obtain ⟨rfl, -⟩ := h
        refine container _ _ _ _ _ (fun v hv => ?_) hcontainer
        rw [readingAll_eq_readEach] at hts
        obtain ⟨a, ha, _, hread⟩ := mem_of_readEach hts hv
        exact ⟨a, ha, ihArguments a ha hread⟩
      | none =>
        simp only [hcontainer, Option.bind_eq_some_iff, Option.some.injEq, Prod.mk.injEq,
          Prod.exists] at h
        obtain ⟨u, _, hu, rfl, -⟩ := h
        exact generic _ _ _ _ _ _ hts hcontainer (ihBase hu)
    | var name =>
      rw [reading_var] at h
      cases hbound : env.lookup name with
      | none =>
        simp only [hbound, Option.some.injEq, Prod.mk.injEq] at h
        obtain ⟨rfl, -⟩ := h
        exact free _ _
      | some b =>
        simp only [hbound] at h
        split_ifs at h with hself hfollowed
        · simp only [Option.some.injEq, Prod.mk.injEq] at h
          obtain ⟨rfl, -⟩ := h
          exact free _ _
        · exact bound _ _ _ _ hbound hfollowed
            (ih _ (hsteps ▸ TypeEnvironment.unfollowed_cons_lt hbound hfollowed) h rfl)
    | wildcard upperBound lowerBound ihUpper ihLower =>
      cases lowerBound with
      | some l => exact lower _ _ _ _ (ihLower l rfl (by simpa [reading] using h))
      | none =>
        cases upperBound with
        | some u => exact upper _ _ _ (ihUpper u rfl (by simpa [reading] using h))
        | none =>
          simp only [reading, Option.some.injEq, Prod.mk.injEq] at h
          obtain ⟨rfl, -⟩ := h
          exact unbounded _
    | inner outer name _ => simp [reading] at h

end Survey

/-! ## Members -/

/-- A property to be: a declared type with the environment that it is seen from. -/
structure Slot where
  property : String
  type : JavaType
  environment : TypeEnvironment
  admitsNull : Bool

namespace Slot

def ofMember (affixes : Affixes) (env : TypeEnvironment) (member : BeanMember) : Slot :=
  ⟨affixes.wrap member.name, member.type, env,
    AnnotationUse.anyOf member.annotations nullMarkers⟩

def ofField (env : TypeEnvironment) (field : JavaField) : Slot :=
  ⟨Serialization.fieldName field, field.type, env,
    AnnotationUse.anyOf field.annotations nullMarkers || Serialization.mayBeNull field⟩

/-- The type of the property, by the reading of the declared type. -/
def typed (slot : Slot) (t : ApiType) : ApiType := if slot.admitsNull then t.orNull else t

theorem typed_ofField (env : TypeEnvironment) (field : JavaField) (t : ApiType) :
    (ofField env field).typed t =
      let type := if AnnotationUse.anyOf field.annotations nullMarkers then t.orNull else t
      if Serialization.mayBeNull field then type.orNull else type := by
  cases hmarked : AnnotationUse.anyOf field.annotations nullMarkers <;>
    cases hnull : Serialization.mayBeNull field <;> simp [typed, ofField, hmarked, hnull]

def names (slots : List Slot) : List String := slots.map property

/-- Adds a slot, unless its name is taken. -/
def addTo (slots : List Slot) (slot : Slot) : List Slot :=
  if slot.property ∈ names slots then slots else slots ++ [slot]

/-- Adds the slot of a member, unless the member is hidden. -/
def addMember (hidden : List String) (affixes : Affixes) (slots : List Slot)
    (env : TypeEnvironment) (member : BeanMember) : List Slot :=
  if hidden.contains member.name then slots else addTo slots (ofMember affixes env member)

end Slot

namespace Survey

/-- Adds the slots of a class and of what stands above it, and of the classes that unwrapped
members lead to. -/
def addSlots (survey : Survey) :
    Nat → Affixes → BoundClass → List Slot → Except Halt (List Slot)
  | 0, _, _, _ => .error .endless
  | steps + 1, affixes, bound, slots => do
    let levels ← survey.classes.hierarchy bound
    (hierarchyMembers levels).foldlM (fun slots (env, member) =>
      match member.unwrapping? with
      | none => pure (Slot.addMember (hiddenProperties levels) affixes slots env member)
      | some unwrapping => do
        match ← Halt.lift (survey.classes.bind? (member.type.resolve env) env) with
        | none => pure slots
        | some target => addSlots survey steps (affixes.around unwrapping) target slots)
      slots

def beanSlots (survey : Survey) (decl : JavaClass) : Except Halt (List Slot) :=
  survey.addSlots survey.unwrapBound .none (.raw decl) []

def serializedSlots (survey : Survey) (decl : JavaClass) : Except Halt (List Slot) := do
  let levels ← survey.classes.hierarchy (.raw decl)
  pure ((Serialization.fields levels).foldl
    (fun slots (env, field) => Slot.addTo slots (.ofField env field)) [])

end Survey

/-- A case of a union: the value that selects it, its class and the slots of this class. -/
structure UnionCase where
  value : String
  className : String
  slots : List Slot

/-- What is known of a class with a definition before its types are read. -/
inductive Shape where
  | enum (constants : List String)
  | members (slots : List Slot)
  | union (discriminator : String) (cases : List UnionCase)

namespace Survey

/-- Adds the case of a class, if there is one. -/
def addUnionCase (slotsOf : JavaClass → Except Halt (List Slot)) (cases : List UnionCase)
    (value : JavaClass → String) : Option JavaClass → Except Halt (List UnionCase)
  | none => .ok cases
  | some subclass => do pure (cases ++ [⟨value subclass, subclass.name, ← slotsOf subclass⟩])

def beanCases (survey : Survey) (decl : JavaClass) : Except Halt (List UnionCase) := do
  let subtypes ← Halt.lift (BeanUnion.subtypes survey.classes decl)
  subtypes.foldlM (fun cases subtype =>
    addUnionCase survey.beanSlots cases (fun _ => subtype.value)
      (survey.classes.classOf? subtype.type)) []

def permittedCases (survey : Survey) (decl : JavaClass) : Except Halt (List UnionCase) :=
  decl.permittedSubclasses.foldlM (fun cases subclass =>
    addUnionCase survey.serializedSlots cases Serialization.caseValue
      (survey.classes.class? subclass)) []

def shape (survey : Survey) (decl : JavaClass) : Except Halt Shape :=
  match decl.form with
  | .enum => .ok (.enum decl.enumConstants)
  | .bean => do pure (.members (← survey.beanSlots decl))
  | .serialized => do pure (.members (← survey.serializedSlots decl))
  | .beanUnion info =>
    match BeanUnion.discriminator info with
    | .error fault => .error (.failed (.unsupportedUnion decl.name fault))
    | .ok discriminator => do pure (.union discriminator (← survey.beanCases decl))
  | .sealedUnion => do
    pure (.union Serialization.discriminator (← survey.permittedCases decl))

end Survey

/-! ## Entries -/

/-- What stands under a name in an API. -/
structure ApiEntry where
  class? : Option ClassDefinition := none
  enum? : Option EnumDefinition := none
  union? : Option UnionDefinition := none
  alias? : Option ApiType := none
  isBlackBox : Bool := false
  deriving DecidableEq

def ApiEntry.none : ApiEntry := {}

def ApiDefinition.entry (api : ApiDefinition) (name : String) : ApiEntry where
  class? := api.classes.get? name
  enum? := api.enums.get? name
  union? := api.unions.get? name
  alias? := api.aliases.get? name
  isBlackBox := api.blackBoxes.contains name

namespace NameMap

variable {β : Type}

/-- The map of a list of entries, of which the last of a name counts. -/
def ofList (entries : List (String × β)) : NameMap β :=
  entries.foldl (fun map e => map.insert e.1 e.2) .empty

@[simp] theorem ofList_nil : ofList ([] : List (String × β)) = .empty := rfl

@[simp] theorem ofList_concat (entries : List (String × β)) (e : String × β) :
    ofList (entries ++ [e]) = (ofList entries).insert e.1 e.2 := by
  simp [ofList]

theorem contains_ofList (entries : List (String × β)) (name : String) :
    (ofList entries).contains name = true ↔ name ∈ entries.map Prod.fst := by
  induction entries using List.reverseRecOn with
  | nil => simp
  | append_singleton entries e ih => simp [ih, or_comm]

end NameMap

namespace Survey

def readSlot (survey : Survey) (followed : List String) (slot : Slot) :
    Option ((String × ApiType) × List Sighting) := do
  let (t, met) ← survey.reading slot.environment followed slot.type
  some ((slot.property, slot.typed t), met)

def readClass (survey : Survey) (followed : List String) (name : String) (slots : List Slot) :
    Option (ClassDefinition × List Sighting) := do
  let (properties, met) ← readEach (survey.readSlot followed) slots
  some (⟨name, .ofList properties⟩, met)

def readCase (survey : Survey) (followed : List String) (c : UnionCase) :
    Option ((String × ClassDefinition) × List Sighting) := do
  let (definition, met) ← survey.readClass followed (survey.nameOf c.className) c.slots
  some ((c.value, definition), met)

def readShape (survey : Survey) (followed : List String) (name : String) :
    Shape → Option (ApiEntry × List Sighting)
  | .enum constants => some ({ enum? := some ⟨name, constants⟩ }, [])
  | .members slots => do
    let (definition, met) ← survey.readClass followed name slots
    some ({ class? := some definition }, met)
  | .union discriminator cases => do
    let (definitions, met) ← readEach (survey.readCase followed) cases
    some ({ union? := some ⟨name, discriminator, .ofList definitions⟩ }, met)

theorem readSlots_names {survey : Survey} {followed : List String} {slots : List Slot}
    {properties : List (String × ApiType)} {met : List Sighting}
    (h : readEach (survey.readSlot followed) slots = some (properties, met)) :
    properties.map Prod.fst = Slot.names slots := by
  refine map_of_readEach (fun slot property met hslot => ?_) h
  simp only [readSlot, Option.bind_eq_bind, Option.bind_eq_some_iff, Option.some.injEq,
    Prod.mk.injEq, Prod.exists] at hslot
  obtain ⟨t, _, -, rfl, -⟩ := hslot
  rfl

theorem readClass_eq_some_iff {survey : Survey} {followed : List String} {name : String}
    {slots : List Slot} {definition : ClassDefinition} {met : List Sighting} :
    survey.readClass followed name slots = some (definition, met) ↔
      ∃ properties, readEach (survey.readSlot followed) slots = some (properties, met) ∧
        definition = ⟨name, .ofList properties⟩ := by
  simp only [readClass, Option.bind_eq_bind, Option.bind_eq_some_iff, Option.some.injEq,
    Prod.mk.injEq, Prod.exists]
  constructor
  · intro hgiven
    obtain ⟨properties, _, hread, rfl, rfl⟩ := hgiven
    exact ⟨properties, hread, rfl⟩
  · intro hgiven
    obtain ⟨properties, hread, rfl⟩ := hgiven
    exact ⟨properties, met, hread, rfl, rfl⟩

theorem readShape_members_eq_some_iff {survey : Survey} {followed : List String} {name : String}
    {slots : List Slot} {entry : ApiEntry} {met : List Sighting} :
    survey.readShape followed name (.members slots) = some (entry, met) ↔
      ∃ definition, survey.readClass followed name slots = some (definition, met) ∧
        entry = { class? := some definition } := by
  simp only [readShape, Option.bind_eq_bind, Option.bind_eq_some_iff, Option.some.injEq,
    Prod.mk.injEq, Prod.exists]
  constructor
  · intro hgiven
    obtain ⟨definition, _, hread, rfl, rfl⟩ := hgiven
    exact ⟨definition, hread, rfl⟩
  · intro hgiven
    obtain ⟨definition, hread, rfl⟩ := hgiven
    exact ⟨definition, met, hread, rfl, rfl⟩

theorem readShape_union_eq_some_iff {survey : Survey} {followed : List String}
    {name discriminator : String} {cases : List UnionCase} {entry : ApiEntry}
    {met : List Sighting} :
    survey.readShape followed name (.union discriminator cases) = some (entry, met) ↔
      ∃ definitions, readEach (survey.readCase followed) cases = some (definitions, met) ∧
        entry = { union? := some ⟨name, discriminator, .ofList definitions⟩ } := by
  simp only [readShape, Option.bind_eq_bind, Option.bind_eq_some_iff, Option.some.injEq,
    Prod.mk.injEq, Prod.exists]
  constructor
  · intro hgiven
    obtain ⟨definitions, _, hread, rfl, rfl⟩ := hgiven
    exact ⟨definitions, hread, rfl⟩
  · intro hgiven
    obtain ⟨definitions, hread, rfl⟩ := hgiven
    exact ⟨definitions, met, hread, rfl, rfl⟩

/-- The properties of a class are its slots. -/
theorem has_iff_of_readClass {survey : Survey} {followed : List String} {name : String}
    {slots : List Slot} {definition : ClassDefinition} {met : List Sighting}
    (h : survey.readClass followed name slots = some (definition, met)) (property : String) :
    definition.has property = true ↔ property ∈ Slot.names slots := by
  obtain ⟨properties, hread, rfl⟩ := readClass_eq_some_iff.mp h
  rw [ClassDefinition.has, NameMap.contains_ofList, readSlots_names hread]

theorem readClass_concat {survey : Survey} {followed : List String} {name : String}
    {slots : List Slot} {slot : Slot} {definition : ClassDefinition} {t : ApiType}
    {met more : List Sighting} (h : survey.readClass followed name slots = some (definition, met))
    (ht : survey.reading slot.environment followed slot.type = some (t, more)) :
    survey.readClass followed name (slots ++ [slot]) =
      some ({ definition with
        properties := definition.properties.insert slot.property (slot.typed t) },
        met ++ more) := by
  obtain ⟨properties, hread, rfl⟩ := readClass_eq_some_iff.mp h
  rw [readClass_eq_some_iff]
  exact ⟨_, readEach_concat hread (by simp [readSlot, ht]; rfl), by simp⟩

/-- What a class that is met gets in the API, and the classes that are met then. -/
def entryAt? (survey : Survey) (s : Sighting) : Option (ApiEntry × List Sighting) :=
  match survey.kind s.className with
  | .imported | .unknown => some (.none, [])
  | .blackBox => some ({ isBlackBox := true }, [])
  | .value decl method => do
    let (target, met) ←
      survey.reading (decl.methodEnvironment method) s.followed method.returnType
    some ({ alias? := some target }, met)
  | .defined decl =>
    match survey.shape decl with
    | .error _ => none
    | .ok shape => survey.readShape s.followed (survey.nameOf s.className) shape

end Survey

end ApiSurface
