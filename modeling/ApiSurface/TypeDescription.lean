import ApiSurface.BeanUnion
import ApiSurface.SerializedFields

/-!
# Description of types

Containers, numbers and texts have types of their own in the API; a class is registered there on
first sight, and every type that stands for it refers to it by name. A class is registered before
its members are described, so that classes may refer to each other in cycles.
-/

namespace ApiSurface

namespace ClassCollection

/-- The type in the API of a class that needs no definition. -/
def builtin? (classes : ClassCollection) (name : String) : Option ApiType :=
  let type := JavaType.basic name
  if classes.isInstance type "java.util.Collection" then some (.array .any)
  else if classes.isInstance type "java.util.Map" then some (.dictionary .any)
  else if ["java.lang.String", "char", "java.lang.Character"].contains name then some .string
  else if classes.isIntegral type then some .integer
  else if classes.isNumber type then some .float
  else if ["boolean", "java.lang.Boolean"].contains name then some .boolean
  else if ["java.util.OptionalInt", "java.util.OptionalLong"].contains name then
    some ApiType.integer.orNull
  else if name = "java.util.OptionalDouble" then some ApiType.float.orNull
  else if name = "java.lang.Object" then some .any
  else if ["void", "java.lang.Void"].contains name then some .void
  else none

/-- The type in the API of a generic container, by its described arguments. A map must have texts
for keys. -/
def container? (classes : ClassCollection) (base : JavaType) : List ApiType → Option ApiType
  | [argument] =>
    if classes.isInstance base "java.util.Collection" then some (.array argument)
    else if classes.isInstance base "java.util.Optional" then some argument.orNull
    else none
  | [key, value] =>
    if key = .string ∧ classes.isInstance base "java.util.Map" then some (.dictionary value)
    else none
  | _ => none

end ClassCollection

def valueType : String := "com.fasterxml.jackson.annotation.JsonValue"

namespace Survey

/-- Registers an alias for a class that is written as the value of one of its methods. -/
def describeValueClass (describe : TypeDescriber) (decl : JavaClass) (name : String)
    (method : JavaMethod) : Describing ApiType := do
  unless (← Describing.api).aliases.contains name do
    let target ← describe method.returnType (decl.methodEnvironment method)
    Describing.extend fun api => .ok (api.addAlias name target)
  pure (.blackBox name)

/-- Registers a class by its members, found in one of two ways, and refers to it. -/
def describeDefinition (survey : Survey) (describe : TypeDescriber) (decl : JavaClass)
    (name : String) : Describing ApiType := do
  unless (← Describing.api).defines name do
    if decl.isEnum then Describing.extend (·.addEnum ⟨name, decl.enumConstants⟩)
    else if Serialization.isSerializable decl then
      if decl.isSealed then survey.describeSealedUnion describe decl name
      else Describing.define name (survey.serializedDefinition describe decl name)
    else
      match AnnotationUse.find? decl.annotations BeanUnion.typeInfo with
      | some info => survey.describeBeanUnion describe decl name info
      | none => Describing.define name (survey.beanDefinition describe decl name)
  pure (.reference name)

/-- Describes a class that has no type of its own in the API. Imported classes and those that the
settings keep opaque are only named, and so are classes that are not loaded. -/
def describeClass (survey : Survey) (describe : TypeDescriber) (qualifiedName : String) :
    Describing ApiType := do
  let name ← survey.displayName qualifiedName
  if survey.settings.isImported name then pure (.blackBox name)
  else if survey.settings.isBlackBox qualifiedName then
    Describing.extend fun api => .ok (api.addBlackBox name)
    pure (.blackBox name)
  else
    match survey.classes.class? qualifiedName with
    | none => pure (.reference name)
    | some decl =>
      match decl.annotatedMethod? valueType with
      | some method => describeValueClass describe decl name method
      | none => survey.describeDefinition describe decl name

def describeName (survey : Survey) (describe : TypeDescriber) (name : String) :
    Describing ApiType :=
  match survey.classes.builtin? name with
  | some type => pure type
  | none => survey.describeClass describe name

/-- Describes the type that a variable is bound to. An unbound variable can be anything, and so
can one that its own binding leads back to. -/
def describeVariable (describe : TypeDescriber) (name : String) (env : TypeEnvironment) :
    Describing ApiType :=
  match env.lookup name with
  | none => pure .any
  | some bound =>
    if bound = .var name then throw (.failed (.selfReferentialBinding name env))
    else do
      if (← get).followed.contains name then pure .any
      else Describing.following name (describe bound env)

mutual
/-- Describes a type along its structure. Bindings of variables and members of classes are left to
another way to describe types. -/
def describeWithin (survey : Survey) (describe : TypeDescriber) :
    JavaType → TypeEnvironment → Describing ApiType
  | .basic name, _ => survey.describeName describe name
  | .array element, env => do pure (.array (← describeWithin survey describe element env))
  | .parameterized base arguments, env => do
    let arguments ← describeAllWithin survey describe arguments env
    match survey.classes.container? base arguments with
    | some type => pure type
    | none => describeWithin survey describe base env
  | .var name, env => describeVariable describe name env
  | .wildcard _ (some lower), env => describeWithin survey describe lower env
  | .wildcard (some upper) none, env => describeWithin survey describe upper env
  | .wildcard none none, _ => pure .any
  | .inner outer name, _ => throw (.failed (.unsupportedType (.inner outer name)))

def describeAllWithin (survey : Survey) (describe : TypeDescriber) :
    List JavaType → TypeEnvironment → Describing (List ApiType)
  | [], _ => pure []
  | type :: types, env => do
    let type ← describeWithin survey describe type env
    pure (type :: (← describeAllWithin survey describe types env))
end

/-- Describes a type in which a number of bindings and classes may lie inside one another. -/
def describeTo (survey : Survey) : Nat → TypeDescriber
  | 0 => fun _ _ => Describing.endless
  | depth + 1 => survey.describeWithin (describeTo survey depth)

/-- How many type variables the loaded classes declare. -/
def variableCount (survey : Survey) : Nat :=
  (survey.classes.classes.values.map fun c =>
    c.schema.size + (c.methods.map (·.schema.size)).foldr (· + ·) 0).foldr (· + ·) 0

/-- How deep bindings and classes can lie inside one another, if no class is written as a value of
itself. On the way down each variable is followed once and each class is registered once, and
between two of these steps each class written as a value is met once. -/
def nestingBound (survey : Survey) (env : TypeEnvironment) : Nat :=
  (survey.classes.size + 1) * (survey.classes.size + survey.variableCount + env.size + 1)

def depthBound (survey : Survey) (env : TypeEnvironment) : Nat :=
  survey.nestingBound env + survey.settings.patience

def describe (survey : Survey) : TypeDescriber := fun type env =>
  survey.describeTo (survey.depthBound env) type env

end Survey

end ApiSurface
