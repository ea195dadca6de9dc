import ApiSurface.SurfaceError

/-!
# Declared type variables

The type variables that one class or method declares, in declaration order, each with its bounds.
-/

namespace ApiSurface

structure TypeSchema where
  entries : List (String × List JavaType)
  deriving DecidableEq, Repr, Inhabited

namespace TypeSchema

def empty : TypeSchema := ⟨[]⟩

def names (schema : TypeSchema) : List String := schema.entries.map Prod.fst

def contains (schema : TypeSchema) (name : String) : Bool := schema.names.contains name

def size (schema : TypeSchema) : Nat := schema.entries.length

def isEmpty (schema : TypeSchema) : Bool := schema.entries.isEmpty

def add (schema : TypeSchema) (name : String) : Except SurfaceError TypeSchema :=
  if schema.contains name then .error (.duplicateTypeVariable name)
  else .ok ⟨schema.entries ++ [(name, [])]⟩

/-- Adds a bound behind those of the first variable of the name. -/
def addBoundTo (name : String) (bound : JavaType) :
    List (String × List JavaType) → List (String × List JavaType)
  | [] => []
  | (n, bounds) :: rest =>
    if n = name then (n, bounds ++ [bound]) :: rest else (n, bounds) :: addBoundTo name bound rest

def addBound (schema : TypeSchema) (name : String) (bound : JavaType) :
    Except SurfaceError TypeSchema :=
  if schema.contains name then .ok ⟨addBoundTo name bound schema.entries⟩
  else .error (.unknownTypeVariable name)

/-- Declares variables with their bounds: first every name, then the bounds, so that the first
name that comes twice is what fails. -/
def ofEntries (entries : List (String × List JavaType)) : Except SurfaceError TypeSchema := do
  let declared ← entries.foldlM (fun schema e => schema.add e.1) empty
  entries.foldlM (fun schema e => e.2.foldlM (fun s bound => s.addBound e.1 bound) schema) declared

def bounds (schema : TypeSchema) (name : String) : List JavaType :=
  (schema.entries.lookup name).getD []

/-- The first bound, and the class of all objects for a variable without one. -/
def effectiveBound (schema : TypeSchema) (name : String) : JavaType :=
  (schema.bounds name).head?.getD .object

/-- Binds the variables to arguments in declaration order; a raw use, which has no arguments,
binds nothing. -/
def apply (schema : TypeSchema) (arguments : List JavaType) :
    Except SurfaceError TypeEnvironment :=
  if arguments.isEmpty then .ok .empty
  else if arguments.length = schema.size then .ok (.ofBindings (schema.names.zip arguments))
  else .error (.schemaArity schema.size arguments.length)

/-- A raw use binds nothing. -/
@[simp] theorem apply_nil (schema : TypeSchema) : schema.apply [] = .ok .empty := rfl

theorem names_add {schema after : TypeSchema} {name : String} (h : schema.add name = .ok after) :
    after.names = schema.names ++ [name] ∧ name ∉ schema.names := by
  cases hc : schema.contains name with
  | true => simp [add, hc] at h
  | false =>
    simp only [add, hc, Bool.false_eq_true, if_false, Except.ok.injEq] at h
    subst h
    exact ⟨by simp [names], by simpa [contains] using hc⟩

end TypeSchema

/-- The environment of a member: the variables of the enclosing declaration first, then its own,
each bound to its effective bound. -/
def TypeEnvironment.ofSchemas (enclosing own : TypeSchema) : TypeEnvironment :=
  .ofBindings <| [enclosing, own].flatMap fun schema =>
    schema.names.map fun name => (name, schema.effectiveBound name)

end ApiSurface
