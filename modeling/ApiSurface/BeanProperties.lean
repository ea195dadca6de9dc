import ApiSurface.Description

/-!
# Properties of beans

A bean's properties are its record components, getters and public fields. The hierarchy is taken
upwards, so that the most derived declaration of a name counts. Statements on members hide
properties, and an unwrapped member stands for the properties of its own class.
-/

namespace ApiSurface

/-- A member that can be a property. -/
structure BeanMember where
  name : String
  type : JavaType
  annotations : List AnnotationUse

namespace JavaClass

def componentMembers (c : JavaClass) : List BeanMember :=
  c.recordComponents.map fun r => ⟨r.name, r.type, r.annotations⟩

def getterMembers (c : JavaClass) : List BeanMember :=
  c.getters.filterMap fun m => m.propertyName.map fun name => ⟨name, m.returnType, m.annotations⟩

def fieldMembers (c : JavaClass) : List BeanMember :=
  c.publicInstanceFields.map fun f => ⟨f.name, f.type, f.annotations⟩

def beanMembers (c : JavaClass) : List BeanMember :=
  c.componentMembers ++ c.getterMembers ++ c.fieldMembers

end JavaClass

/-! ## Hidden properties -/

/-- What a member says about its property: whether it is hidden. -/
structure Visibility where
  property : String
  hidden : Bool
  deriving DecidableEq, Repr

namespace Visibility

def ignoreType : String := "com.fasterxml.jackson.annotation.JsonIgnore"

def transientTypes : List String :=
  ["java.beans.Transient", "org.springframework.data.annotation.Transient"]

/-- An explicit statement to ignore a property, or not to. -/
def explicit? (annotations : List AnnotationUse) : Option Bool :=
  (AnnotationUse.find? annotations ignoreType).map fun a => (a.bool? "value").getD true

def isMarkedTransient (annotations : List AnnotationUse) : Bool :=
  AnnotationUse.anyOf annotations transientTypes

def isTransient (field : JavaField) : Bool :=
  field.access.isTransient || isMarkedTransient field.annotations

/-- The explicit statement, else that the property is hidden if it is transient. -/
def ofStatement (property : String) (explicit : Option Bool) (transient : Bool) :
    Option Visibility :=
  (explicit <|> if transient then some true else none).map fun hidden => ⟨property, hidden⟩

def ofComponent (component : RecordComponent) : Option Visibility :=
  ofStatement component.name (explicit? component.annotations) false

def ofField (field : JavaField) : Option Visibility :=
  ofStatement field.name (explicit? field.annotations) (isTransient field)

/-- A getter speaks for itself first, then through the field of the property's name. -/
def ofGetter (c : JavaClass) (getter : JavaMethod) : Option Visibility := do
  let property ← getter.propertyName
  let field := c.field? property
  ofStatement property
    (explicit? getter.annotations <|> field.bind fun f => explicit? f.annotations)
    (isMarkedTransient getter.annotations || field.any isTransient)

/-- The statements of one class, of which the last about a property counts. -/
def ofClass (c : JavaClass) : List Visibility :=
  c.recordComponents.filterMap ofComponent ++ c.publicInstanceFields.filterMap ofField ++
    c.getters.filterMap (ofGetter c)

def apply (hidden : List String) (v : Visibility) : List String :=
  if v.hidden then v.property :: hidden.filter (· != v.property)
  else hidden.filter (· != v.property)

/-- A statement decides about its own property and leaves the others as they are. -/
theorem mem_apply (hidden : List String) (v : Visibility) (property : String) :
    property ∈ apply hidden v ↔
      if property = v.property then v.hidden = true else property ∈ hidden := by
  by_cases hp : property = v.property <;> cases hv : v.hidden <;> simp [apply, hp, hv]

end Visibility

/-- The hidden properties of a hierarchy. Statements of derived classes replace those of the
classes above them. -/
def hiddenProperties (levels : List BoundClass) : List String :=
  (levels.reverse.flatMap fun level => Visibility.ofClass level.decl).foldl Visibility.apply []

/-! ## Definitions -/

def unwrappedType : String := "com.fasterxml.jackson.annotation.JsonUnwrapped"

/-- The annotation that unwraps a member, unless it is disabled. -/
def BeanMember.unwrapping? (member : BeanMember) : Option AnnotationUse :=
  (AnnotationUse.find? member.annotations unwrappedType).filter fun a =>
    a.bool? "enabled" != some false

/-- What stands before and behind the names of properties. -/
structure Affixes where
  lead : String
  trail : String
  deriving DecidableEq, Repr

namespace Affixes

def none : Affixes := ⟨"", ""⟩

def wrap (affixes : Affixes) (name : String) : String := affixes.lead ++ name ++ affixes.trail

/-- Those of an unwrapping stand outside on both sides. -/
def around (affixes : Affixes) (unwrapping : AnnotationUse) : Affixes :=
  ⟨(unwrapping.string? "prefix").getD "" ++ affixes.lead,
   affixes.trail ++ (unwrapping.string? "suffix").getD ""⟩

@[simp] theorem wrap_none (name : String) : none.wrap name = name := by simp [wrap, none]

theorem wrap_around (affixes : Affixes) (unwrapping : AnnotationUse) (name : String) :
    (affixes.around unwrapping).wrap name =
      (unwrapping.string? "prefix").getD "" ++ affixes.wrap name ++
        (unwrapping.string? "suffix").getD "" := by
  simp [wrap, around, String.append_assoc]

end Affixes

/-- The members of a hierarchy, from the most derived class upwards, each with the environment of
its class. -/
def hierarchyMembers (levels : List BoundClass) : List (TypeEnvironment × BeanMember) :=
  levels.flatMap fun level => level.decl.beanMembers.map fun m => (level.environment, m)

namespace Survey

/-- Adds a property, unless its name is taken or hidden. -/
def addProperty (describe : TypeDescriber) (hidden : List String) (affixes : Affixes)
    (definition : ClassDefinition) (env : TypeEnvironment) (member : BeanMember) :
    Describing ClassDefinition := do
  let name := affixes.wrap member.name
  if definition.has name || hidden.contains member.name then pure definition
  else
    let type ← describe.element member.annotations member.type env
    Describing.lift (definition.add name type)

/-- Adds the properties of a class and of what stands above it, and of the classes that unwrapped
members lead to. A chain of unwrapped members that is as long as the steps is given up. -/
def addProperties (survey : Survey) (describe : TypeDescriber) :
    Nat → Affixes → BoundClass → ClassDefinition → Describing ClassDefinition
  | 0, _, _, _ => Describing.endless
  | steps + 1, affixes, bound, definition => do
    let levels ← Describing.liftHalt (survey.classes.hierarchy bound)
    let hidden := hiddenProperties levels
    (hierarchyMembers levels).foldlM (fun definition (env, member) => do
      match member.unwrapping? with
      | none => addProperty describe hidden affixes definition env member
      | some unwrapping =>
        match ← Describing.lift (survey.classes.bind? (member.type.resolve env) env) with
        | none => do
          Describing.report (.unwrappedNotLoaded member.name member.type)
          pure definition
        | some target =>
          addProperties survey describe steps (affixes.around unwrapping) target definition)
      definition

/-- How many levels of unwrapped members are gone through. A level for each class is enough where
no class is unwrapped into itself. A class that is unwrapped out of an argument of its own may come
again and the chain may still end, and the patience is for such chains. -/
def unwrapBound (survey : Survey) : Nat := survey.classes.size + 1 + survey.settings.patience

theorem size_lt_unwrapBound (survey : Survey) : survey.classes.size < survey.unwrapBound :=
  Nat.lt_of_lt_of_le (Nat.lt_succ_self _) (Nat.le_add_right _ _)

/-- The definition of a bean. -/
def beanDefinition (survey : Survey) (describe : TypeDescriber) (decl : JavaClass)
    (name : String) : Describing ClassDefinition :=
  survey.addProperties describe survey.unwrapBound .none (.raw decl) (.empty name)

end Survey

end ApiSurface
