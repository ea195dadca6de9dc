import ApiSurface.Proofs.Runs

/-!
# What a class stands for

The qualified name of a class alone decides how the class appears in the API: by name only, as an
alias, or with a definition of one of five forms. Describing a class claims its display name and
then goes by its kind.
-/

namespace ApiSurface

inductive DefinitionForm where
  | enum
  | bean
  | beanUnion (info : AnnotationUse)
  | serialized
  | sealedUnion

/-- How a class that has a definition is described. -/
def JavaClass.form (decl : JavaClass) : DefinitionForm :=
  if decl.isEnum then .enum
  else if Serialization.isSerializable decl then
    if decl.isSealed then .sealedUnion else .serialized
  else
    match AnnotationUse.find? decl.annotations BeanUnion.typeInfo with
    | some info => .beanUnion info
    | none => .bean

/-- A public class that has nothing but public fields. -/
def JavaClass.ofFields (name : String) (schema : TypeSchema) (superclass : JavaType)
    (fields : List (String × JavaType)) : JavaClass :=
  ⟨name, ⟨1⟩, schema, some superclass, [], [],
    fields.map fun f => ⟨f.1, f.2, ⟨1⟩, [], false, false⟩, [], [], []⟩

namespace ClassCollection

variable {classes : ClassCollection} {P : ApiType → Prop} {t : ApiType}

theorem of_ite {c : Prop} [Decidable c] {a : ApiType} {rest : Option ApiType} (ha : P a)
    (hrest : rest = some t → P t) (h : (if c then some a else rest) = some t) : P t := by
  by_cases hc : c
  · rw [if_pos hc] at h
    cases h
    exact ha
  · rw [if_neg hc] at h
    exact hrest h

/-- A class that needs no definition has a type of one of these forms. -/
theorem of_builtin? {name : String} (harray : P (.array .any)) (hdictionary : P (.dictionary .any))
    (hprimitive : ∀ p, P (.primitive p)) (hnullable : ∀ p, P (ApiType.primitive p).orNull)
    (h : classes.builtin? name = some t) : P t := by
  revert h
  refine of_ite harray <| of_ite hdictionary <| of_ite (hprimitive _) <| of_ite (hprimitive _) <|
    of_ite (hprimitive _) <| of_ite (hprimitive _) <| of_ite (hnullable _) <|
    of_ite (hnullable _) <| of_ite (hprimitive _) <| of_ite (hprimitive _) ?_
  rintro ⟨⟩

/-- A generic container has a type of one of these forms, made of one of its arguments. -/
theorem of_container? {base : JavaType} {arguments : List ApiType}
    (harray : ∀ a ∈ arguments, P (.array a)) (hnullable : ∀ a ∈ arguments, P a.orNull)
    (hdictionary : ∀ a ∈ arguments, P (.dictionary a))
    (h : classes.container? base arguments = some t) : P t := by
  unfold container? at h
  split at h
  · next argument =>
    split_ifs at h <;> cases h
    · exact harray argument (by simp)
    · exact hnullable argument (by simp)
  · next key value =>
    split_ifs at h
    cases h
    exact hdictionary value (by simp)
  · cases h

end ClassCollection

inductive ClassKind where
  | imported
  | blackBox
  | unknown
  | value (decl : JavaClass) (method : JavaMethod)
  | defined (decl : JavaClass)

namespace Survey

variable (survey : Survey)

abbrev nameOf (qualifiedName : String) : String :=
  survey.settings.naming.className qualifiedName

def kind (qualifiedName : String) : ClassKind :=
  if survey.settings.isImported (survey.nameOf qualifiedName) then .imported
  else if survey.settings.isBlackBox qualifiedName then .blackBox
  else
    match survey.classes.class? qualifiedName with
    | none => .unknown
    | some decl =>
      match decl.annotatedMethod? valueType with
      | some method => .value decl method
      | none => .defined decl

/-- The type that stands for a class in the API. -/
def standIn (qualifiedName : String) : ApiType :=
  match survey.kind qualifiedName with
  | .imported | .blackBox | .value .. => .blackBox (survey.nameOf qualifiedName)
  | .unknown | .defined _ => .reference (survey.nameOf qualifiedName)

/-- The display name of the class is claimed, and by this class. -/
def Claimed (d : Description) (qualifiedName : String) : Prop :=
  d.claims.get? (survey.nameOf qualifiedName) = some qualifiedName

def claim (d : Description) (qualifiedName : String) : Description :=
  { d with claims := d.claims.insert (survey.nameOf qualifiedName) qualifiedName }

variable {survey}

theorem class?_of_kind_defined {qualifiedName : String} {decl : JavaClass}
    (h : survey.kind qualifiedName = .defined decl) :
    survey.classes.class? qualifiedName = some decl := by
  unfold kind at h
  split_ifs at h
  cases hclass : survey.classes.class? qualifiedName with
  | none => simp [hclass] at h
  | some c =>
    cases hvalue : c.annotatedMethod? valueType <;> simp [hclass, hvalue] at h
    rw [h]

theorem class?_of_kind_value {qualifiedName : String} {decl : JavaClass} {method : JavaMethod}
    (h : survey.kind qualifiedName = .value decl method) :
    survey.classes.class? qualifiedName = some decl ∧
      decl.annotatedMethod? valueType = some method := by
  unfold kind at h
  split_ifs at h
  cases hclass : survey.classes.class? qualifiedName with
  | none => simp [hclass] at h
  | some c =>
    cases hvalue : c.annotatedMethod? valueType <;> simp [hclass, hvalue] at h
    obtain ⟨rfl, rfl⟩ := h
    exact ⟨rfl, hvalue⟩

theorem run_displayName (qualifiedName : String) (d : Description) :
    Describing.run (survey.displayName qualifiedName) d =
      match d.claims.get? (survey.nameOf qualifiedName) with
      | none => (.ok (survey.nameOf qualifiedName), survey.claim d qualifiedName)
      | some owner =>
        if owner = qualifiedName then (.ok (survey.nameOf qualifiedName), d)
        else (.error (.failed
          (.duplicateClassName (survey.nameOf qualifiedName) owner qualifiedName)), d) := by
  rw [displayName, Describing.run_bind, Describing.run_get]
  cases h : d.claims.get? (survey.nameOf qualifiedName) with
  | none => simp only [h]; rfl
  | some owner =>
    simp only [h]
    split_ifs <;> rfl

/-- Claiming a name either changes nothing, or adds the claim of a name that had none. -/
theorem run_displayName_cases (qualifiedName : String) (d : Description) :
    (∃ h, Describing.run (survey.displayName qualifiedName) d = (.error h, d)) ∨
    (∃ after, Describing.run (survey.displayName qualifiedName) d =
        (.ok (survey.nameOf qualifiedName), after) ∧ survey.Claimed after qualifiedName ∧
      (after = d ∨ d.claims.get? (survey.nameOf qualifiedName) = none ∧
        after = survey.claim d qualifiedName)) := by
  rw [run_displayName]
  cases h : d.claims.get? (survey.nameOf qualifiedName) with
  | none => exact .inr ⟨_, rfl, by simp [Claimed, claim], .inr ⟨rfl, rfl⟩⟩
  | some owner =>
    by_cases ho : owner = qualifiedName
    · exact .inr ⟨d, by simp [ho], by simp [Claimed, h, ho], .inl rfl⟩
    · exact .inl ⟨_, if_neg ho⟩

/-- What is done for a class of a kind, once its display name is claimed. -/
def describeKind (survey : Survey) (describe : TypeDescriber) (qualifiedName : String) :
    ClassKind → Describing ApiType
  | .imported => pure (.blackBox (survey.nameOf qualifiedName))
  | .blackBox => do
    Describing.extend fun api => .ok (api.addBlackBox (survey.nameOf qualifiedName))
    pure (.blackBox (survey.nameOf qualifiedName))
  | .unknown => pure (.reference (survey.nameOf qualifiedName))
  | .value decl method => describeValueClass describe decl (survey.nameOf qualifiedName) method
  | .defined decl => survey.describeDefinition describe decl (survey.nameOf qualifiedName)

theorem run_describeClass (describe : TypeDescriber) {qualifiedName : String}
    {d between : Description}
    (h : Describing.run (survey.displayName qualifiedName) d =
      (.ok (survey.nameOf qualifiedName), between)) :
    Describing.run (survey.describeClass describe qualifiedName) d =
      Describing.run (survey.describeKind describe qualifiedName (survey.kind qualifiedName))
        between := by
  rw [describeClass, Describing.run_bind_of_ok h, kind]
  split_ifs with himported hblackBox
  · rfl
  · rfl
  · cases hclass : survey.classes.class? qualifiedName with
    | none => rfl
    | some decl => cases hvalue : decl.annotatedMethod? valueType <;> simp [describeKind, hvalue]

/-- What registers a class of a form. -/
def register (survey : Survey) (describe : TypeDescriber) (decl : JavaClass) (name : String) :
    DefinitionForm → Describing Unit
  | .enum => Describing.extend (·.addEnum ⟨name, decl.enumConstants⟩)
  | .bean => Describing.define name (survey.beanDefinition describe decl name)
  | .beanUnion info => survey.describeBeanUnion describe decl name info
  | .serialized => Describing.define name (survey.serializedDefinition describe decl name)
  | .sealedUnion => survey.describeSealedUnion describe decl name

/-- A class is registered by its form, unless its name is defined already. -/
theorem run_describeDefinition (describe : TypeDescriber) (decl : JavaClass) (name : String)
    (d : Description) :
    Describing.run (survey.describeDefinition describe decl name) d =
      if d.api.defines name then (.ok (.reference name), d)
      else Describing.run (do
        survey.register describe decl name decl.form
        pure (.reference name)) d := by
  rw [describeDefinition, Describing.run_bind, Describing.run_api]
  cases hdefined : d.api.defines name with
  | true => simp [hdefined]
  | false =>
    simp only [hdefined, Bool.false_eq_true, if_false, JavaClass.form]
    split_ifs with henum hserializable hsealed
    · rfl
    · rfl
    · rfl
    · cases AnnotationUse.find? decl.annotations BeanUnion.typeInfo <;> rfl

/-- An alias is registered once its target is described, unless there is one already. -/
theorem run_describeValueClass (describe : TypeDescriber) (decl : JavaClass) (name : String)
    (method : JavaMethod) (d : Description) :
    Describing.run (describeValueClass describe decl name method) d =
      if d.api.aliases.contains name then (.ok (.blackBox name), d)
      else Describing.run (do
        let target ← describe method.returnType (decl.methodEnvironment method)
        Describing.extend fun api => .ok (api.addAlias name target)
        pure (.blackBox name)) d := by
  rw [describeValueClass, Describing.run_bind, Describing.run_api]
  cases halias : d.api.aliases.contains name with
  | true => simp [halias]
  | false =>
    simp only [halias, Bool.false_eq_true, if_false]

end Survey

end ApiSurface
