import ApiSurface.ApiDefinition
import ApiSurface.Event
import ApiSurface.Hierarchy
import ApiSurface.Settings

/-!
# Descriptions under construction

A survey is a collection of classes with the settings under which they are described. Describing
types adds to an API. What was added stays also if a later step fails, so a description goes on
after a failure.
-/

namespace ApiSurface

structure Survey where
  classes : ClassCollection
  settings : Settings

/-- The API so far, the class that has claimed each display name, the type variables whose
bindings are being followed, the innermost first, and what there is to tell. -/
structure Description where
  api : ApiDefinition
  claims : NameMap String
  followed : List String
  events : List Event

def Description.empty : Description := ⟨.empty, .empty, [], []⟩

abbrev Describing := ExceptT Halt (StateM Description)

/-- A way to describe types as seen from environments. -/
abbrev TypeDescriber := JavaType → TypeEnvironment → Describing ApiType

namespace Describing

def lift {α : Type} : Except SurfaceError α → Describing α
  | .ok value => pure value
  | .error e => throw (.failed e)

def liftHalt {α : Type} : Except Halt α → Describing α
  | .ok value => pure value
  | .error h => throw h

def endless {α : Type} : Describing α := throw .endless

def api : Describing ApiDefinition := do pure (← get).api

def report (event : Event) : Describing Unit :=
  modify fun d => { d with events := d.events ++ [event] }

/-- Changes the API, unless the change fails. -/
def extend (change : ApiDefinition → Except SurfaceError ApiDefinition) : Describing Unit := do
  let api ← lift (change (← api))
  modify fun d => { d with api }

/-- Registers a class before its members are described, so that they can refer to it. -/
def define (name : String) (definition : Describing ClassDefinition) : Describing Unit := do
  extend (·.addClass (.empty name))
  let definition ← definition
  extend (·.completeClass definition)

/-- Registers a union before its cases are described, so that they can refer to it. -/
def defineUnion (union : UnionDefinition)
    (fill : UnionDefinition → Describing UnionDefinition) : Describing Unit := do
  extend (·.addUnion union)
  let union ← fill union
  extend (·.completeUnion union)

/-- Runs an action while a variable's binding is followed. The variable is let go also if the
action fails. -/
def following {α : Type} (name : String) (act : Describing α) : Describing α :=
  fun d =>
    let (result, after) := act { d with followed := name :: d.followed }
    (result, { after with followed := after.followed.tail })

/-- The variables that are followed afterwards are those of before, if the action keeps them. -/
theorem followed_following {α : Type} (name : String) {act : Describing α}
    (keeps : ∀ d, (act d).2.followed = d.followed) (d : Description) :
    (following name act d).2.followed = d.followed := by
  show (act { d with followed := name :: d.followed }).2.followed.tail = d.followed
  rw [keeps]
  rfl

theorem followed_report (event : Event) (d : Description) :
    (report event d).2.followed = d.followed := rfl

end Describing

namespace Survey

/-- The display name of a class, which the class claims. No other class may have it. -/
def displayName (survey : Survey) (qualifiedName : String) : Describing String := do
  let name := survey.settings.naming.className qualifiedName
  match (← get).claims.get? name with
  | none => do
    modify fun d => { d with claims := d.claims.insert name qualifiedName }
    pure name
  | some owner =>
    if owner = qualifiedName then pure name
    else throw (.failed (.duplicateClassName name owner qualifiedName))

/-- Adds the case of a class to a union. The class claims its display name. -/
def addCase (survey : Survey) (union : UnionDefinition) (value : String) (subclass : JavaClass)
    (definition : String → Describing ClassDefinition) : Describing UnionDefinition := do
  let name ← survey.displayName subclass.name
  let definition ← definition name
  Describing.lift (union.add value definition)

end Survey

/-- Annotation types that say that null is admitted. -/
def nullMarkers : List String :=
  ["org.jetbrains.annotations.Nullable",
   "javax.annotation.Nullable",
   "javax.annotation.CheckForNull",
   "jakarta.annotation.Nullable",
   "edu.umd.cs.findbugs.annotations.Nullable",
   "android.support.annotation.Nullable",
   "androidx.annotation.Nullable",
   "androidx.annotation.RecentlyNullable",
   "org.checkerframework.checker.nullness.qual.Nullable",
   "org.checkerframework.checker.nullness.compatqual.NullableDecl",
   "org.checkerframework.checker.nullness.compatqual.NullableType",
   "org.springframework.lang.Nullable"]

/-- Describes the type of an element with annotations. A marker on the element admits null. -/
def TypeDescriber.element (describe : TypeDescriber) (annotations : List AnnotationUse) :
    TypeDescriber := fun type env => do
  let described ← describe type env
  pure (if AnnotationUse.anyOf annotations nullMarkers then described.orNull else described)

end ApiSurface
