import ApiSurface.ClassFacts
import ApiSurface.NameMap
import ApiSurface.PlatformTypes

/-!
# Collections of classes

The loaded classes by qualified name. Of several classes with one name the first stays; the names
of the others are kept as duplicates.
-/

namespace ApiSurface

structure ClassCollection where
  classes : NameMap JavaClass
  duplicates : List String

namespace ClassCollection

def empty : ClassCollection := ⟨.empty, []⟩

instance : Inhabited ClassCollection := ⟨empty⟩

def add (collection : ClassCollection) (c : JavaClass) : ClassCollection :=
  if collection.classes.contains c.name then
    { collection with duplicates := collection.duplicates ++ [c.name] }
  else { collection with classes := collection.classes.insert c.name c }

def ofClasses (classes : List JavaClass) : ClassCollection := classes.foldl add empty

/-- Adds the classes of records. -/
def addRecords (collection : ClassCollection) (records : List ClassRecord) :
    Except SurfaceError ClassCollection :=
  records.foldlM (fun collection record => do pure (collection.add (← record.toClass))) collection

/-- Adds the classes of a text of records. -/
def addText (collection : ClassCollection) (text : String) : Except SurfaceError ClassCollection :=
  match ClassRecord.parseAll? text with
  | none => .error .json
  | some records => collection.addRecords records

def parse (text : String) : Except SurfaceError ClassCollection := empty.addText text

def class? (collection : ClassCollection) (name : String) : Option JavaClass :=
  collection.classes.get? name

@[simp] theorem class?_empty (name : String) : empty.class? name = none := rfl

/-- Of the classes of one name the first stays. -/
theorem class?_add (collection : ClassCollection) (c : JavaClass) (name : String) :
    (collection.add c).class? name =
      if name = c.name then some ((collection.class? name).getD c)
      else collection.class? name := by
  by_cases hn : name = c.name
  · subst hn
    cases h : collection.classes.get? c.name <;> simp [add, class?, NameMap.contains, h]
  · cases h : collection.classes.contains c.name <;> simp [add, class?, h, hn]

def classOf? (collection : ClassCollection) (type : JavaType) : Option JavaClass :=
  type.erasure.bind collection.class?

def size (collection : ClassCollection) : Nat := collection.classes.size

/-- Classes whose names satisfy a condition, in the order of their names. -/
def select (collection : ClassCollection) (condition : String → Bool) : List JavaClass :=
  (collection.classes.entries.filter fun e => condition e.1).map Prod.snd

/-- Classes of the same package that extend a class directly. -/
def directSubclasses (collection : ClassCollection) (c : JavaClass) : List JavaClass :=
  (collection.select fun name => packageOf name == c.package).filter fun d =>
    (d.superclass.bind JavaType.erasure).any (· == c.name)

/-! ## Supertypes -/

/-- The names of a class's direct supertypes: of a loaded class those it declares, of another
those known of the platform. -/
def supertypeNames (collection : ClassCollection) (name : String) : List String :=
  match collection.class? name with
  | some c => c.supertypes.filterMap JavaType.erasure
  | none => (PlatformTypes.supertypes name).getD []

/-- Every link from a loaded class or a class of the platform to a supertype. -/
def supertypeLinks (collection : ClassCollection) : List String :=
  collection.classes.keys.flatMap collection.supertypeNames ++
    PlatformTypes.table.flatMap Prod.snd

/-- Whether a name is found from the pending names. A name that was seen is not followed again,
so every link is followed once at most, and every step takes one pending name. -/
def reaches (collection : ClassCollection) (target : String) :
    Nat → List String → List String → Bool
  | _, _, [] => false
  | 0, _, _ :: _ => false
  | steps + 1, seen, name :: pending =>
    if name = target then true
    else if seen.contains name then reaches collection target steps seen pending
    else
      reaches collection target steps (name :: seen) (collection.supertypeNames name ++ pending)

/-- Whether a class is another or a subtype of it. -/
def isSubclass (collection : ClassCollection) (name target : String) : Bool :=
  collection.reaches target (collection.supertypeLinks.length + 1) [] [name]

/-- Whether a type is an instance of a class. A wildcard answers as its upper bound; a type
without a class of its own is an instance of nothing. -/
def isInstance (collection : ClassCollection) : JavaType → String → Bool
  | .wildcard upper _, target =>
    match upper with
    | some bound => isInstance collection bound target
    | none => false
  | type, target =>
    match type.erasure with
    | some name => collection.isSubclass name target
    | none => false

/-- Apart from wildcards, a type is an instance of what the class behind it is a subclass of. -/
theorem isInstance_eq (collection : ClassCollection) (t : JavaType) (target : String)
    (ht : ∀ u l, t ≠ .wildcard u l) :
    collection.isInstance t target =
      (t.erasure.map fun name => collection.isSubclass name target).getD false := by
  cases t with
  | wildcard u l => exact absurd rfl (ht u l)
  | _ => simp only [isInstance]; split <;> simp_all

def integralClasses : List String :=
  ["java.lang.Byte", "java.lang.Short", "java.lang.Integer", "java.lang.Long",
   "java.math.BigInteger", "java.util.concurrent.atomic.AtomicInteger",
   "java.util.concurrent.atomic.AtomicLong"]

def isIntegral (collection : ClassCollection) (type : JavaType) : Bool :=
  type.isPrimitiveIntegral || integralClasses.any (collection.isInstance type)

def isNumber (collection : ClassCollection) (type : JavaType) : Bool :=
  type.isPrimitiveNumber || collection.isInstance type "java.lang.Number"

end ClassCollection

end ApiSurface
