import ApiSurface.NameMap

/-!
# Display names

The short names that classes and endpoint groups have in the described API.
-/

namespace ApiSurface

/-- Display names given to classes by hand, by qualified name. -/
structure Naming where
  overrides : NameMap String
  deriving DecidableEq, Repr, Inhabited

namespace Naming

def empty : Naming := ⟨.empty⟩

def override (naming : Naming) (qualifiedName displayName : String) : Naming :=
  ⟨naming.overrides.insert qualifiedName displayName⟩

/-- The part of a qualified name behind its last dot or dollar sign. -/
def simpleName (qualifiedName : String) : String :=
  String.ofList (qualifiedName.toList.reverse.takeWhile fun c => c != '.' && c != '$').reverse

def className (naming : Naming) (qualifiedName : String) : String :=
  (naming.overrides.get? qualifiedName).getD (simpleName qualifiedName)

@[simp] theorem className_override (naming : Naming) (qualifiedName displayName other : String) :
    (naming.override qualifiedName displayName).className other =
      if other = qualifiedName then displayName else naming.className other := by
  by_cases h : other = qualifiedName <;> simp [override, className, h]

/-- A controller's display name without the word at its end, unless nothing would be left. -/
def groupName (naming : Naming) (qualifiedName : String) : String :=
  let name := naming.className qualifiedName
  let word := "Controller"
  if name.endsWith word ∧ name ≠ word then (name.dropEnd word.length).toString else name

end Naming

end ApiSurface
