/-!
# Declared types

Types as compiled classes declare them: raw classes and primitives by qualified name, arrays,
generic types, type variables, wildcards, and member classes of a generic outer type.
-/

namespace ApiSurface

inductive JavaType where
  | basic (name : String)
  | array (element : JavaType)
  | parameterized (base : JavaType) (arguments : List JavaType)
  | var (name : String)
  | wildcard (upper lower : Option JavaType)
  | inner (outer : JavaType) (name : String)
  deriving Repr, Inhabited

namespace JavaType

/-- Induction that gives the statement for every argument and for every bound. -/
@[elab_as_elim]
theorem induct {motive : JavaType → Prop}
    (basic : ∀ name, motive (.basic name))
    (array : ∀ element, motive element → motive (.array element))
    (parameterized : ∀ base arguments, motive base → (∀ a ∈ arguments, motive a) →
      motive (.parameterized base arguments))
    (var : ∀ name, motive (.var name))
    (wildcard : ∀ upper lower, (∀ u ∈ upper, motive u) → (∀ l ∈ lower, motive l) →
      motive (.wildcard upper lower))
    (inner : ∀ outer name, motive outer → motive (.inner outer name))
    (t : JavaType) : motive t :=
  @JavaType.rec motive (fun ts => ∀ a ∈ ts, motive a) (fun o => ∀ a ∈ o, motive a)
    basic array parameterized var wildcard inner
    (by simp) (fun _ _ h hs a ha => (List.mem_cons.mp ha).elim (fun e => e ▸ h) (hs a))
    (by simp) (fun _ h a ha => Option.mem_some.mp ha ▸ h) t

mutual
def same : JavaType → JavaType → Bool
  | .basic a, .basic b => a == b
  | .array a, .array b => same a b
  | .parameterized a as, .parameterized b bs => same a b && sameAll as bs
  | .var a, .var b => a == b
  | .wildcard u l, .wildcard u' l' => sameBound u u' && sameBound l l'
  | .inner a n, .inner b m => same a b && n == m
  | _, _ => false

def sameAll : List JavaType → List JavaType → Bool
  | [], [] => true
  | a :: as, b :: bs => same a b && sameAll as bs
  | _, _ => false

def sameBound : Option JavaType → Option JavaType → Bool
  | none, none => true
  | some a, some b => same a b
  | _, _ => false
end

theorem sameAll_iff {as : List JavaType} (h : ∀ a ∈ as, ∀ b, same a b = true ↔ a = b) :
    ∀ bs, sameAll as bs = true ↔ as = bs := by
  induction as with
  | nil => intro bs; cases bs <;> simp [sameAll]
  | cons a as ih =>
    intro bs
    cases bs with
    | nil => simp [sameAll]
    | cons b bs =>
      simp [sameAll, h a (by simp) b, ih (fun x hx => h x (by simp [hx])) bs]

theorem sameBound_iff {a : Option JavaType} (h : ∀ x ∈ a, ∀ y, same x y = true ↔ x = y) :
    ∀ b, sameBound a b = true ↔ a = b := by
  intro b
  cases a <;> cases b <;> simp [sameBound]
  exact h _ rfl _

theorem same_iff (a b : JavaType) : same a b = true ↔ a = b := by
  induction a using induct generalizing b with
  | basic name => cases b <;> simp [same]
  | array element ih => cases b <;> simp [same, ih]
  | parameterized base arguments ih ihs => cases b <;> simp [same, ih, sameAll_iff ihs]
  | var name => cases b <;> simp [same]
  | wildcard upper lower ihu ihl => cases b <;> simp [same, sameBound_iff ihu, sameBound_iff ihl]
  | inner outer name ih => cases b <;> simp [same, ih]

instance : DecidableEq JavaType := fun a b => decidable_of_iff _ (same_iff a b)

def object : JavaType := .basic "java.lang.Object"

/-- Name of the class behind a type, without its generic arguments; arrays, variables and
wildcards have no class of their own. -/
def erasure : JavaType → Option String
  | .basic name => some name
  | .parameterized base _ => base.erasure
  | .inner outer name => outer.erasure.map (fun o => o ++ "$" ++ name)
  | .array _ | .var _ | .wildcard _ _ => none

def asBasic : JavaType → Option String
  | .basic name => some name
  | _ => none

def isBasic (t : JavaType) (name : String) : Bool := t.asBasic == some name

theorem isBasic_iff {t : JavaType} {name : String} : t.isBasic name = true ↔ t = .basic name := by
  cases t <;> simp [isBasic, asBasic]

def isVoid (t : JavaType) : Bool := t.isBasic "void"

def integralNames : List String := ["byte", "short", "int", "long"]

def numberNames : List String := integralNames ++ ["float", "double"]

def primitiveNames : List String := numberNames ++ ["char", "boolean", "void"]

def isPrimitiveIntegral (t : JavaType) : Bool := t.asBasic.any integralNames.contains

def isPrimitiveNumber (t : JavaType) : Bool := t.asBasic.any numberNames.contains

def isPrimitive (t : JavaType) : Bool := t.asBasic.any primitiveNames.contains

mutual
/-- The type as source code writes it. -/
def render : JavaType → String
  | .basic name => name
  | .array element => render element ++ "[]"
  | .parameterized base arguments =>
    render base ++ "<" ++ ", ".intercalate (renderAll arguments) ++ ">"
  | .var name => name
  | .wildcard upper lower =>
    "?" ++ renderBound " extends " upper ++ renderBound " super " lower
  | .inner outer name => render outer ++ "." ++ name

def renderAll : List JavaType → List String
  | [] => []
  | a :: as => render a :: renderAll as

def renderBound (keyword : String) : Option JavaType → String
  | none => ""
  | some bound => keyword ++ render bound
end

mutual
/-- The variables of a type, from left to right, as often as they occur. -/
def variableNames : JavaType → List String
  | .basic _ => []
  | .array element => variableNames element
  | .parameterized base arguments => variableNames base ++ variableNamesAll arguments
  | .var name => [name]
  | .wildcard upper lower => variableNamesBound upper ++ variableNamesBound lower
  | .inner outer _ => variableNames outer

def variableNamesAll : List JavaType → List String
  | [] => []
  | a :: as => variableNames a ++ variableNamesAll as

def variableNamesBound : Option JavaType → List String
  | none => []
  | some bound => variableNames bound
end

end JavaType

/-- Package part of a qualified class name, empty for the default package. -/
def packageOf (className : String) : String :=
  match className.toList.reverse.dropWhile (· != '.') with
  | [] => ""
  | _ :: package => String.ofList package.reverse

end ApiSurface
