import ApiSurface.JavaType

/-!
# Environments of type variables

An environment binds type variables to types; of several bindings of one variable the first
counts. `JavaType.resolve` substitutes every bound variable once: a variable that is bound to
another variable is not followed further.
-/

namespace ApiSurface

structure TypeEnvironment where
  bindings : List (String × JavaType)
  deriving DecidableEq, Repr, Inhabited

namespace TypeEnvironment

def empty : TypeEnvironment := ⟨[]⟩

/-- A binding of a variable to itself, which says that the name is used again by a subclass. -/
def isIdentity (binding : String × JavaType) : Bool := binding.2 == .var binding.1

/-- Leaves bindings of a variable to itself out: the name then means what it means in the
environment that the bindings were made in. -/
def ofBindings (bindings : List (String × JavaType)) : TypeEnvironment :=
  ⟨bindings.filter (fun b => !isIdentity b)⟩

def lookup (env : TypeEnvironment) (name : String) : Option JavaType := env.bindings.lookup name

/-- Adds a binding behind those that are there, also one of a variable to itself. -/
def bind (env : TypeEnvironment) (name : String) (type : JavaType) : TypeEnvironment :=
  ⟨env.bindings ++ [(name, type)]⟩

def merge (env other : TypeEnvironment) : TypeEnvironment := ⟨env.bindings ++ other.bindings⟩

@[simp] theorem lookup_empty (name : String) : empty.lookup name = none := rfl

/-- The bindings behind are found where there are none in front. -/
@[simp] theorem lookup_merge (env other : TypeEnvironment) (name : String) :
    (env.merge other).lookup name = (env.lookup name <|> other.lookup name) := by
  simp only [lookup, merge]
  induction env.bindings with
  | nil => simp
  | cons binding rest ih =>
    obtain ⟨n, type⟩ := binding
    by_cases h : name = n
    · simp [h]
    · have hb : (name == n) = false := by simp [h]
      simp only [List.cons_append, List.lookup_cons, hb, ih]

/-- No variable is bound to itself. -/
theorem lookup_ofBindings_ne (bindings : List (String × JavaType)) (name : String) :
    (ofBindings bindings).lookup name ≠ some (.var name) := by
  intro h
  simp only [lookup, ofBindings] at h
  induction bindings with
  | nil => simp at h
  | cons binding rest ih =>
    obtain ⟨n, type⟩ := binding
    by_cases hid : isIdentity (n, type) = true
    · simp only [List.filter_cons, hid, Bool.not_true] at h
      exact ih h
    · simp only [List.filter_cons, hid, Bool.not_false, if_true] at h
      by_cases hn : name = n
      · subst hn
        simp only [List.lookup_cons, beq_self_eq_true, Option.some.injEq] at h
        exact hid (by simp [isIdentity, h])
      · have hb : (name == n) = false := by simp [hn]
        simp only [List.lookup_cons, hb] at h
        exact ih h

def size (env : TypeEnvironment) : Nat := env.bindings.length

def isEmpty (env : TypeEnvironment) : Bool := env.bindings.isEmpty

def render (env : TypeEnvironment) : String :=
  "\x7b" ++ ", ".intercalate (env.bindings.map fun b => b.1 ++ "=" ++ b.2.render) ++ "\x7d"

end TypeEnvironment

namespace JavaType

mutual
def resolve (env : TypeEnvironment) : JavaType → JavaType
  | .basic name => .basic name
  | .array element => .array (resolve env element)
  | .parameterized base arguments => .parameterized (resolve env base) (resolveAll env arguments)
  | .var name => (env.lookup name).getD (.var name)
  | .wildcard upper lower => .wildcard (resolveBound env upper) (resolveBound env lower)
  | .inner outer name => .inner (resolve env outer) name

def resolveAll (env : TypeEnvironment) : List JavaType → List JavaType
  | [] => []
  | a :: as => resolve env a :: resolveAll env as

def resolveBound (env : TypeEnvironment) : Option JavaType → Option JavaType
  | none => none
  | some bound => some (resolve env bound)
end

@[simp] theorem resolveAll_eq_map (env : TypeEnvironment) (as : List JavaType) :
    resolveAll env as = as.map (resolve env) := by
  induction as with
  | nil => rfl
  | cons a as ih => simp [resolveAll, ih]

@[simp] theorem resolveBound_eq_map (env : TypeEnvironment) (bound : Option JavaType) :
    resolveBound env bound = bound.map (resolve env) := by
  cases bound <;> rfl

end JavaType

end ApiSurface
