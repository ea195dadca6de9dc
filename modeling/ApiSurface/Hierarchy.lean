import ApiSurface.ClassCollection

/-!
# Class hierarchies

A class is seen through the arguments it was reached with. The hierarchy of a class is the class
and what stands above it, each once: the class, its interfaces in depth, then the same for its
superclass, and so on up the chain. Classes that are not loaded are passed over.
-/

namespace ApiSurface

structure BoundClass where
  decl : JavaClass
  environment : TypeEnvironment

namespace BoundClass

/-- A class used without arguments. -/
def raw (decl : JavaClass) : BoundClass := ⟨decl, .empty⟩

end BoundClass

namespace ClassCollection

/-- The arguments that a type gives to its class, seen from an environment. -/
def argumentsIn (env : TypeEnvironment) : JavaType → List JavaType
  | .parameterized _ arguments => arguments.map (JavaType.resolve env)
  | _ => []

/-- The loaded class of a type, bound to the type's arguments. -/
def bind? (collection : ClassCollection) (type : JavaType) (env : TypeEnvironment) :
    Except SurfaceError (Option BoundClass) :=
  match collection.classOf? type with
  | none => .ok none
  | some decl => do pure (some ⟨decl, ← decl.schema.apply (argumentsIn env type)⟩)

/-- Adds a class and its interfaces, in depth, behind the levels that are there. The classes on
the way down are all different, so as many steps as there are classes reach each of them. -/
def addInterfaces (collection : ClassCollection) :
    Nat → List BoundClass → BoundClass → Except SurfaceError (List BoundClass)
  | 0, levels, _ => .ok levels
  | steps + 1, levels, bound =>
    if levels.any fun level => level.decl.name == bound.decl.name then .ok levels
    else
      bound.decl.interfaces.foldlM (fun levels interface => do
        match ← collection.bind? interface bound.environment with
        | none => pure levels
        | some next => addInterfaces collection steps levels next) (levels ++ [bound])

def superclass? (collection : ClassCollection) (bound : BoundClass) :
    Except SurfaceError (Option BoundClass) :=
  match bound.decl.superclass with
  | none => .ok none
  | some type => collection.bind? type bound.environment

/-- Goes up the chain of superclasses. A chain longer than there are classes has no end. -/
def climb (collection : ClassCollection) :
    Nat → List BoundClass → BoundClass → Except Halt (List BoundClass)
  | 0, _, _ => .error .endless
  | steps + 1, levels, bound => do
    let levels ← Halt.lift (collection.addInterfaces (collection.size + 1) levels bound)
    match ← Halt.lift (collection.superclass? bound) with
    | none => pure levels
    | some next => climb collection steps levels next

def hierarchy (collection : ClassCollection) (start : BoundClass) :
    Except Halt (List BoundClass) :=
  collection.climb (collection.size + 1) [] start

end ClassCollection

end ApiSurface
