import ApiSurface.Proofs.Building

/-!
# The API as a store

An API is built by operations that add definitions, complete them, and add opaque types, aliases,
imports and groups. Whatever was done before, a name has one definition of one kind under its own
name, and a type is imported from one module. An operation that fails on a definition leaves the
API as it was; one that succeeds puts its definition there and leaves all others alone.
-/

namespace ApiSurface

inductive DefinitionKind where
  | ofClass
  | ofEnum
  | ofUnion
  deriving DecidableEq, Repr

/-- A definition of one of the three kinds. -/
inductive Definition where
  | ofClass (definition : ClassDefinition)
  | ofEnum (definition : EnumDefinition)
  | ofUnion (definition : UnionDefinition)
  deriving DecidableEq, Repr

namespace Definition

def name : Definition → String
  | .ofClass definition => definition.name
  | .ofEnum definition => definition.name
  | .ofUnion definition => definition.name

def kind : Definition → DefinitionKind
  | .ofClass _ => .ofClass
  | .ofEnum _ => .ofEnum
  | .ofUnion _ => .ofUnion

end Definition

namespace ApiDefinition

/-- The name is a key of the collection of this kind. -/
def has (api : ApiDefinition) (name : String) : DefinitionKind → Bool
  | .ofClass => api.classes.contains name
  | .ofEnum => api.enums.contains name
  | .ofUnion => api.unions.contains name

/-- The definition stands under the name in the collection of its kind. -/
def Stores (api : ApiDefinition) (name : String) : Definition → Prop
  | .ofClass definition => api.classes.get? name = some definition
  | .ofEnum definition => api.enums.get? name = some definition
  | .ofUnion definition => api.unions.get? name = some definition

def put (api : ApiDefinition) : Definition → ApiDefinition
  | .ofClass definition => { api with classes := api.classes.insert definition.name definition }
  | .ofEnum definition => { api with enums := api.enums.insert definition.name definition }
  | .ofUnion definition => { api with unions := api.unions.insert definition.name definition }

def Imports (api : ApiDefinition) (module type : String) : Prop :=
  ∃ types, api.imports.get? module = some types ∧ types.contains type = true

/-- A name has one kind, a definition stands under its own name, and a type that is imported comes
from one module. -/
structure Consistent (api : ApiDefinition) : Prop where
  oneKind : ∀ name k k', api.has name k = true → api.has name k' = true → k = k'
  named : ∀ name d, api.Stores name d → d.name = name
  oneModule : ∀ type, api.isImported type = true → ∃! module, api.Imports module type

/-- What was defined is defined with the same kind, and aliases and imports are the same. -/
structure Retains (api later : ApiDefinition) : Prop where
  kinds : ∀ name k, api.has name k = true → later.has name k = true
  aliases : ∀ name target, api.aliases.get? name = some target →
    later.aliases.get? name = some target
  imports : ∀ module type, api.Imports module type → later.Imports module type

inductive Operation where
  | addClass (definition : ClassDefinition)
  | completeClass (definition : ClassDefinition)
  | addEnum (definition : EnumDefinition)
  | addUnion (definition : UnionDefinition)
  | completeUnion (definition : UnionDefinition)
  | addBlackBox (name : String)
  | addAlias (name : String) (target : ApiType)
  | addImport (module : String) (types : List String)
  | addGroup (group : EndpointGroup)
  deriving DecidableEq, Repr

/-- The result of an operation, and the API that it leaves. -/
abbrev Outcome := Except SurfaceError Unit × ApiDefinition

/-- An operation that fails leaves no other API than there was. -/
def outcome (api : ApiDefinition) : Except SurfaceError ApiDefinition → Outcome
  | .ok after => (.ok (), after)
  | .error e => (.error e, api)

namespace Operation

def perform (api : ApiDefinition) : Operation → Outcome
  | .addClass definition => api.outcome (api.addClass definition)
  | .completeClass definition => api.outcome (api.completeClass definition)
  | .addEnum definition => api.outcome (api.addEnum definition)
  | .addUnion definition => api.outcome (api.addUnion definition)
  | .completeUnion definition => api.outcome (api.completeUnion definition)
  | .addBlackBox name => (.ok (), api.addBlackBox name)
  | .addAlias name target => (.ok (), api.addAlias name target)
  | .addImport module types => api.addImport module types
  | .addGroup group => (.ok (), api.addGroup group)

/-- The API after some operations, failed ones included. -/
def performAll (api : ApiDefinition) (operations : List Operation) : ApiDefinition :=
  operations.foldl (fun api op => (op.perform api).2) api

/-- The definition that the operation adds. -/
def added? : Operation → Option Definition
  | .addClass definition => some (.ofClass definition)
  | .addEnum definition => some (.ofEnum definition)
  | .addUnion definition => some (.ofUnion definition)
  | _ => none

/-- The definition that the operation puts in place of a placeholder. -/
def completed? : Operation → Option Definition
  | .completeClass definition => some (.ofClass definition)
  | .completeUnion definition => some (.ofUnion definition)
  | _ => none

/-- What an operation does to definitions: it adds one where its name is free in all three
collections, or completes one that is there, and fails without an effect otherwise. Definitions
that stand there stay, but for the one that is completed. -/
structure Acts (op : Operation) (api : ApiDefinition) (result : Outcome) : Prop where
  adds : ∀ d, op.added? = some d →
    if api.defines d.name then result = (.error (.duplicateDefinition d.name), api)
    else result.1 = .ok () ∧ result.2.Stores d.name d
  completes : ∀ d, op.completed? = some d →
    if api.has d.name d.kind then result.1 = .ok () ∧ result.2.Stores d.name d
    else result = (.error (.missingPlaceholder d.name), api)
  stays : ∀ name d, api.Stores name d → result.2.Stores name d ∨
    result.1 = .ok () ∧ ∃ d', op.completed? = some d' ∧ d'.name = name ∧ d'.kind = d.kind ∧
      result.2.Stores name d'

end Operation

/-! ## Definitions -/

variable {api later last : ApiDefinition} {name : String} {d d' : Definition}
  {k : DefinitionKind}

theorem has_kind_iff : api.has name k = true ↔ ∃ d, d.kind = k ∧ api.Stores name d := by
  constructor
  · intro hhas
    cases k <;> obtain ⟨definition, hdefinition⟩ := Option.isSome_iff_exists.mp hhas
    · exact ⟨.ofClass definition, rfl, hdefinition⟩
    · exact ⟨.ofEnum definition, rfl, hdefinition⟩
    · exact ⟨.ofUnion definition, rfl, hdefinition⟩
  · intro hstored
    obtain ⟨d, rfl, hstored⟩ := hstored
    cases d <;> exact Option.isSome_iff_exists.mpr ⟨_, hstored⟩

theorem defines_iff : api.defines name = true ↔ ∃ k, api.has name k = true := by
  constructor
  · intro hdefines
    simp only [defines, Bool.or_eq_true] at hdefines
    rcases hdefines with (hclass | henum) | hunion
    · exact ⟨.ofClass, hclass⟩
    · exact ⟨.ofEnum, henum⟩
    · exact ⟨.ofUnion, hunion⟩
  · intro hhas
    obtain ⟨k, hhas⟩ := hhas
    cases k <;> simp only [has] at hhas <;> simp [defines, hhas]

/-- Only the entry of the name and the kind of the definition changes. -/
theorem stores_put_iff : (api.put d).Stores name d' ↔
    if name = d.name ∧ d'.kind = d.kind then d' = d else api.Stores name d' := by
  by_cases hname : name = d.name <;> cases d <;> cases d' <;>
    simp_all [put, Stores, Definition.name, Definition.kind, eq_comm]

theorem stores_put (api : ApiDefinition) (d : Definition) : (api.put d).Stores d.name d :=
  stores_put_iff.mpr (by simp)

theorem has_put_iff :
    (api.put d).has name k = true ↔ name = d.name ∧ k = d.kind ∨ api.has name k = true := by
  cases d <;> cases k <;> simp [put, has, Definition.name, Definition.kind]

@[simp] theorem imports_put (api : ApiDefinition) (d : Definition) :
    (api.put d).imports = api.imports := by
  cases d <;> rfl

@[simp] theorem aliases_put (api : ApiDefinition) (d : Definition) :
    (api.put d).aliases = api.aliases := by
  cases d <;> rfl

/-! ## Imports -/

theorem isImported_iff {type : String} :
    api.isImported type = true ↔ ∃ module, api.Imports module type := by
  simp only [isImported, List.any_eq_true, NameMap.mem_values_iff, Imports]
  constructor
  · intro h
    obtain ⟨types, ⟨module, hmodule⟩, htype⟩ := h
    exact ⟨module, types, hmodule, htype⟩
  · intro h
    obtain ⟨module, types, hmodule, htype⟩ := h
    exact ⟨types, ⟨module, hmodule⟩, htype⟩

theorem imports_importType_iff {module type module' type' : String} :
    (api.importType module type).Imports module' type' ↔
      module' = module ∧ type' = type ∨ api.Imports module' type' := by
  by_cases hmodule : module' = module
  · subst hmodule
    cases hentry : api.imports.get? module' <;>
      simp [Imports, importType, hentry]
  · simp [Imports, importType, hmodule]

/-- A type is imported only if no module has it, so it has one module afterwards. -/
theorem Consistent.addImport (h : api.Consistent) (module : String) (types : List String) :
    (api.addImport module types).2.Consistent := by
  induction types generalizing api with
  | nil => exact h
  | cons type types ih =>
    rw [ApiDefinition.addImport]
    split_ifs with himported
    · exact h
    · refine ih { oneKind := h.oneKind, named := h.named, oneModule := ?_ }
      intro type' himported'
      by_cases htype : type' = type
      · subst htype
        refine ⟨module, imports_importType_iff.mpr (.inl ⟨rfl, rfl⟩), ?_⟩
        intro module' hmodule'
        rcases imports_importType_iff.mp hmodule' with ⟨rfl, -⟩ | hbefore
        · rfl
        · exact absurd (isImported_iff.mpr ⟨module', hbefore⟩) himported
      · have hsame : ∀ module', (api.importType module type).Imports module' type' ↔
            api.Imports module' type' := fun module' => by simp [imports_importType_iff, htype]
        simp only [isImported_iff, hsame] at himported' ⊢
        exact h.oneModule type' (isImported_iff.mpr himported')

theorem imports_addImport {module' type' : String} (h : api.Imports module' type')
    (module : String) (types : List String) :
    (api.addImport module types).2.Imports module' type' := by
  induction types generalizing api with
  | nil => exact h
  | cons type types ih =>
    rw [ApiDefinition.addImport]
    split_ifs
    · exact h
    · exact ih (imports_importType_iff.mpr (.inr h))

/-! ## One operation -/

theorem Consistent.put (h : api.Consistent)
    (hkind : ∀ k, api.has d.name k = true → k = d.kind) : (api.put d).Consistent where
  oneKind name k k' hk hk' := by
    rcases has_put_iff.mp hk with ⟨rfl, rfl⟩ | hbefore
    · rcases has_put_iff.mp hk' with ⟨-, rfl⟩ | hbefore'
      · rfl
      · exact (hkind k' hbefore').symm
    · rcases has_put_iff.mp hk' with ⟨rfl, rfl⟩ | hbefore'
      · exact hkind k hbefore
      · exact h.oneKind name k k' hbefore hbefore'
  named name d' hstored := by
    rw [stores_put_iff] at hstored
    split_ifs at hstored with hentry
    · exact hstored ▸ hentry.1.symm
    · exact h.named name d' hstored
  oneModule := by simpa [isImported, Imports] using h.oneModule

theorem retains_put (api : ApiDefinition) (d : Definition) : api.Retains (api.put d) where
  kinds name k hk := has_put_iff.mpr (.inr hk)
  aliases := by simp
  imports := by simp [Imports]

theorem Retains.refl (api : ApiDefinition) : api.Retains api :=
  ⟨fun _ _ => id, fun _ _ => id, fun _ _ => id⟩

theorem Retains.trans (h : api.Retains later) (h' : later.Retains last) : api.Retains last where
  kinds name k hk := h'.kinds name k (h.kinds name k hk)
  aliases name target ht := h'.aliases name target (h.aliases name target ht)
  imports module type hi := h'.imports module type (h.imports module type hi)

namespace Operation

variable {op : Operation}

theorem perform_of_added (hadded : op.added? = some d) (api : ApiDefinition) :
    op.perform api = if api.defines d.name then (.error (.duplicateDefinition d.name), api)
      else (.ok (), api.put d) := by
  cases op <;> cases hadded <;> exact apply_ite api.outcome _ _ _

theorem perform_of_completed (hcompleted : op.completed? = some d) (api : ApiDefinition) :
    op.perform api = if api.has d.name d.kind then (.ok (), api.put d)
      else (.error (.missingPlaceholder d.name), api) := by
  cases op <;> cases hcompleted <;> exact apply_ite api.outcome _ _ _

/-- Operations that neither add nor complete leave all definitions alone. -/
theorem stores_perform (hadded : op.added? = none) (hcompleted : op.completed? = none)
    (hstored : api.Stores name d) : (op.perform api).2.Stores name d := by
  cases op with
  | addClass | addEnum | addUnion => cases hadded
  | completeClass | completeUnion => cases hcompleted
  | addBlackBox | addAlias | addGroup => cases d <;> exact hstored
  | addImport module types =>
    simp only [perform, addImport_snd]
    cases d <;> exact hstored

theorem consistent_perform (h : api.Consistent) (op : Operation) :
    (op.perform api).2.Consistent := by
  cases hadded : op.added? with
  | some d =>
    rw [perform_of_added hadded]
    split_ifs with hdefines
    · exact h
    · exact h.put fun k hk => absurd (defines_iff.mpr ⟨k, hk⟩) hdefines
  | none =>
    cases hcompleted : op.completed? with
    | some d =>
      rw [perform_of_completed hcompleted]
      split_ifs with hhas
      · exact h.put fun k hk => h.oneKind d.name k d.kind hk hhas
      · exact h
    | none =>
      cases op with
      | addClass | addEnum | addUnion => cases hadded
      | completeClass | completeUnion => cases hcompleted
      | addBlackBox | addAlias | addGroup => exact ⟨h.oneKind, h.named, h.oneModule⟩
      | addImport module types => exact h.addImport module types

theorem retains_perform (api : ApiDefinition) (op : Operation) :
    api.Retains (op.perform api).2 := by
  cases hadded : op.added? with
  | some d =>
    rw [perform_of_added hadded]
    split_ifs
    · exact .refl api
    · exact retains_put api d
  | none =>
    cases hcompleted : op.completed? with
    | some d =>
      rw [perform_of_completed hcompleted]
      split_ifs
      · exact retains_put api d
      · exact .refl api
    | none =>
      have hkinds : ∀ name k, api.has name k = true → (op.perform api).2.has name k = true := by
        intro name k hk
        obtain ⟨d, hd, hstored⟩ := has_kind_iff.mp hk
        exact has_kind_iff.mpr ⟨d, hd, stores_perform hadded hcompleted hstored⟩
      cases op with
      | addClass | addEnum | addUnion => cases hadded
      | completeClass | completeUnion => cases hcompleted
      | addBlackBox | addGroup => exact ⟨hkinds, fun _ _ => id, fun _ _ => id⟩
      | addAlias name target =>
        exact ⟨hkinds, NameMap.within_insertNew api.aliases name target, fun _ _ => id⟩
      | addImport module types =>
        refine ⟨hkinds, ?_, fun _ _ h => imports_addImport h module types⟩
        simp [perform, addImport_snd]

/-- An addition finds its name free everywhere, a completion finds it in its own collection. -/
theorem acts_perform (api : ApiDefinition) (op : Operation) : op.Acts api (op.perform api) where
  adds d hadded := by
    rw [perform_of_added hadded]
    split_ifs
    · rfl
    · exact ⟨rfl, stores_put api d⟩
  completes d hcompleted := by
    rw [perform_of_completed hcompleted]
    split_ifs
    · exact ⟨rfl, stores_put api d⟩
    · rfl
  stays name d hstored := by
    cases hadded : op.added? with
    | some d' =>
      rw [perform_of_added hadded]
      split_ifs with hdefines
      · exact .inl hstored
      · refine .inl (stores_put_iff.mpr ?_)
        rw [if_neg]
        · exact hstored
        · rintro ⟨rfl, -⟩
          exact hdefines (defines_iff.mpr ⟨d.kind, has_kind_iff.mpr ⟨d, rfl, hstored⟩⟩)
    | none =>
      cases hcompleted : op.completed? with
      | some d' =>
        rw [perform_of_completed hcompleted]
        split_ifs
        · by_cases hentry : name = d'.name ∧ d.kind = d'.kind
          · obtain ⟨rfl, hkind⟩ := hentry
            exact .inr ⟨rfl, d', rfl, rfl, hkind.symm, stores_put api d'⟩
          · exact .inl (stores_put_iff.mpr (by rwa [if_neg hentry]))
        · exact .inl hstored
      | none => exact .inl (stores_perform hadded hcompleted hstored)

/-! ## Many operations -/

theorem consistent_empty : Consistent .empty where
  oneKind name k k' hk := by cases k <;> cases hk
  named name d hd := by cases d <;> cases hd
  oneModule type htype := by cases htype

theorem consistent_performAll (h : api.Consistent) (ops : List Operation) :
    (performAll api ops).Consistent := by
  induction ops generalizing api with
  | nil => exact h
  | cons op ops ih => exact ih (consistent_perform h op)

theorem retains_performAll (api : ApiDefinition) (ops : List Operation) :
    api.Retains (performAll api ops) := by
  induction ops generalizing api with
  | nil => exact .refl api
  | cons op ops ih => exact (retains_perform api op).trans (ih (op.perform api).2)

/-- However an API came about, it is consistent; whatever is done next acts on its definitions as
an addition or a completion does, or leaves them alone; and it retains kinds, aliases and imports
for good. -/
theorem consistent_history (ops : List Operation) :
    (performAll .empty ops).Consistent ∧
      (∀ op : Operation, op.Acts (performAll .empty ops) (op.perform (performAll .empty ops))) ∧
      ∀ later, (performAll .empty ops).Retains (performAll .empty (ops ++ later)) := by
  refine ⟨consistent_performAll consistent_empty ops, ?_, ?_⟩
  · intro op
    exact acts_perform (performAll .empty ops) op
  · intro later
    have happend : performAll .empty (ops ++ later) = performAll (performAll .empty ops) later :=
      List.foldl_append
    rw [happend]
    exact retains_performAll (performAll .empty ops) later

end Operation

end ApiDefinition

end ApiSurface
