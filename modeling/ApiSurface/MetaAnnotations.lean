import ApiSurface.ClassCollection

/-!
# Meta-annotations

An annotation implies the annotations on its own annotation class, and so on. An element carries
an annotation type if one of its annotations implies it. Attributes of the type are read through
what is implied: given directly, or through attributes that are declared as aliases.
-/

namespace ApiSurface

/-- An attribute with the annotation type it belongs to. -/
abbrev AttributeName := String × String

/-- An attribute declared as an alias, and the attributes that it stands for. -/
structure Alias where
  source : AttributeName
  targets : List AttributeName
  deriving DecidableEq, Repr

namespace Alias

def standsFor (a : Alias) (target : AttributeName) : Bool :=
  a.source == target || a.targets.contains target

/-- The targets by annotation type, and by name within one. -/
def sortedTargets (a : Alias) : List AttributeName :=
  a.targets.mergeSort fun s t => s.1 < t.1 || (s.1 == t.1 && decide (s.2 ≤ t.2))

end Alias

/-- An annotation type found on an element, with what the annotation that led to it implies. -/
structure ResolvedUse where
  type : String
  implied : List AnnotationUse

namespace ClassCollection

/-- Adds an annotation and what it implies, in depth, each type once. All annotation types on the
way down are different, and all but the last are loaded. -/
def addImplied (collection : ClassCollection) :
    Nat → List AnnotationUse → AnnotationUse → List AnnotationUse
  | 0, found, _ => found
  | steps + 1, found, a =>
    if found.any fun f => f.name == a.name then found
    else
      let declared := ((collection.class? a.name).map JavaClass.annotations).getD []
      declared.foldl (addImplied collection steps) (found ++ [a])

def implied (collection : ClassCollection) (a : AnnotationUse) : List AnnotationUse :=
  collection.addImplied (collection.size + 2) [] a

/-- The first annotation that implies a type. -/
def resolve? (collection : ClassCollection) (annotations : List AnnotationUse) (type : String) :
    Option ResolvedUse :=
  annotations.findSome? fun a =>
    let implied := collection.implied a
    if implied.any fun i => i.name == type then some ⟨type, implied⟩ else none

def carries (collection : ClassCollection) (annotations : List AnnotationUse) (type : String) : Bool :=
  (collection.resolve? annotations type).isSome

/-- Loaded classes that satisfy a condition on their names and carry an annotation type. -/
def carriers (collection : ClassCollection) (type : String) (condition : String → Bool) :
    List JavaClass :=
  (collection.select condition).filter fun c => collection.carries c.annotations type

/-! ## Aliases -/

def aliasFor : String := "org.springframework.core.annotation.AliasFor"

def isAlias (method : JavaMethod) : Bool := (AnnotationUse.find? method.annotations aliasFor).isSome

/-- The attribute that an alias declaration names. What it leaves out is its own annotation type
and its own name. -/
def aliasTarget (owner : JavaClass) (method : JavaMethod) (declaration : AnnotationUse) :
    AttributeName :=
  let type := ((declaration.class? "annotation").bind JavaType.erasure).filter
    (· != "java.lang.annotation.Annotation")
  let attributeNames := [declaration.string? "attribute", declaration.string? "value"]
  (type.getD owner.name, ((attributeNames.filterMap id).find? (· != "")).getD method.name)

/-- Follows alias declarations from a method, until an attribute comes again. -/
def addTargets (collection : ClassCollection) :
    Nat → List AttributeName → JavaClass → JavaMethod → List AttributeName
  | 0, found, _, _ => found
  | steps + 1, found, owner, method =>
    match AnnotationUse.find? method.annotations aliasFor with
    | none => found
    | some declaration =>
      let target := aliasTarget owner method declaration
      if found.contains target then found
      else
        match collection.class? target.1 with
        | none => found ++ [target]
        | some next =>
          match next.methods.find? fun m => m.name == target.2 && isAlias m with
          | none => found ++ [target]
          | some m => addTargets collection steps (found ++ [target]) next m

def methodCount (collection : ClassCollection) : Nat :=
  (collection.classes.values.map fun c => c.methods.length).foldr (· + ·) 0

/-- The aliases that an annotation type declares. Each step from one to the next is at another
method, so there are no more steps than methods. -/
def aliases (collection : ClassCollection) (type : String) : List Alias :=
  match collection.class? type with
  | none => []
  | some c => (c.methods.filter isAlias).map fun m =>
    ⟨(type, m.name), collection.addTargets (collection.methodCount + 2) [] c m⟩

/-! ## Attributes -/

/-- The value that one implied annotation gives to an attribute: its own if it is of the type,
else the value of the first alias that it gives. -/
def valueFrom (collection : ClassCollection) (target : AttributeName) (a : AnnotationUse) :
    Option AnnotationValue :=
  let direct := if a.name = target.1 then a.attribute? target.2 else none
  direct <|> (collection.aliases a.name).findSome? fun declared =>
    if declared.standsFor target then a.attribute? declared.source.2 else none

end ClassCollection

namespace ResolvedUse

/-- The value on the first implied annotation that gives one. -/
def attribute? (r : ResolvedUse) (collection : ClassCollection) (key : String) :
    Option AnnotationValue :=
  r.implied.findSome? (collection.valueFrom (r.type, key))

/-- A text that is not empty. -/
def string? (r : ResolvedUse) (collection : ClassCollection) (key : String) :
    Option String :=
  ((r.attribute? collection key).bind AnnotationValue.asString).filter (· != "")

def bool? (r : ResolvedUse) (collection : ClassCollection) (key : String) : Option Bool :=
  (r.attribute? collection key).bind AnnotationValue.asBool

def class? (r : ResolvedUse) (collection : ClassCollection) (key : String) :
    Option JavaType :=
  (r.attribute? collection key).bind AnnotationValue.asClass

/-- The enum constants among the elements of an attribute. -/
def enums (r : ResolvedUse) (collection : ClassCollection) (key : String) :
    List (JavaType × String) :=
  match r.attribute? collection key with
  | none => []
  | some value => value.elements.filterMap AnnotationValue.asEnum

end ResolvedUse

end ApiSurface
