import ApiSurface.JsonNumber
import ApiSurface.JsonReader

/-!
# Class records

Facts about classes as an extractor writes them: an array of JSON records that keep the spellings
of class files. A record may also be written as an array of its fields in order. Fields that are
not known are passed over; a field that is given twice is a fault.
-/

namespace ApiSurface

mutual
inductive ValueRecord where
  | bool (value : Bool)
  | int (value : Int)
  | float (value : Binary64)
  | string (value : String)
  | classType (descriptor : String)
  | enum (descriptor constant : String)
  | nested (value : AnnotationRecord)
  | array (values : List ValueRecord)

inductive AnnotationRecord where
  | mk (descriptor : String) (attributes : List (String × ValueRecord))
end

structure FieldRecord where
  name : String
  access : UInt16
  descriptor : String
  signature : Option String
  annotations : List AnnotationRecord
  nullable : Bool
  hasDefault : Bool

structure ParameterRecord where
  name : Option String
  annotations : List AnnotationRecord

structure MethodRecord where
  name : String
  access : UInt16
  descriptor : String
  signature : Option String
  annotations : List AnnotationRecord
  parameters : List ParameterRecord

structure ComponentRecord where
  name : String
  descriptor : String
  signature : Option String
  annotations : List AnnotationRecord

structure ClassRecord where
  name : String
  access : UInt16
  signature : Option String
  superclass : Option String
  interfaces : List String
  annotations : List AnnotationRecord
  fields : List FieldRecord
  methods : List MethodRecord
  recordComponents : List ComponentRecord
  permittedSubclasses : List String

namespace ClassRecord

/-! ## Fields of a record -/

abbrev Fields := String → Option Json

/-- The given fields of a record whose fields are known by name and order. -/
def fields? (names : List String) : Json → Option Fields
  | .object members =>
    if members.any (·.1.isNone) then none
    else if names.any fun n => 1 < (members.filter fun m => m.1 == some n).length then none
    else some fun name => members.lookup (some name)
  | .array elements =>
    if names.length < elements.length then none
    else some fun name => (names.zip elements).lookup name
  | _ => none

def text? : Json → Option String
  | .string text => text
  | _ => none

def flag? : Json → Option Bool
  | .bool value => some value
  | _ => none

def word? : Json → Option UInt16
  | .number lexeme => do
    let n ← Json.Number.integer? lexeme
    if 0 ≤ n ∧ n < Nat.pow 2 16 then some (UInt16.ofNat n.toNat) else none
  | _ => none

def long? : Json → Option Int
  | .number lexeme => do
    let n ← Json.Number.integer? lexeme
    if n < Nat.pow 2 63 then some n else none
  | _ => none

def float? : Json → Option Binary64
  | .number lexeme => Json.Number.binary64? lexeme
  | _ => none

def list? {α : Type} (element? : Json → Option α) : Json → Option (List α)
  | .array elements => elements.mapM element?
  | _ => none

/-- A text or null. -/
def nullable? : Json → Option (Option String)
  | .null => some none
  | value => (text? value).map some

def required {α : Type} (fields : Fields) (decode : Json → Option α) (name : String) : Option α :=
  (fields name).bind decode

def optional {α : Type} (fields : Fields) (decode : Json → Option α) (name : String)
    (default : α) : Option α :=
  match fields name with
  | none => some default
  | some value => decode value

/-! ## Annotation values -/

mutual
/-- Whether every text and every number of a value has a meaning. -/
def isMeaningful : Json → Bool
  | .number lexeme => (Json.Number.binary64? lexeme).isSome
  | .string text => text.isSome
  | .array elements => allMeaningful elements
  | .object members => membersMeaningful members
  | _ => true

def allMeaningful : List Json → Bool
  | [] => true
  | v :: vs => isMeaningful v && allMeaningful vs

def membersMeaningful : List (Option String × Json) → Bool
  | [] => true
  | (key, v) :: vs => key.isSome && isMeaningful v && membersMeaningful vs
end

mutual
/-- How deep arrays and objects nest. -/
def depth : Json → Nat
  | .array elements => depthAll elements + 1
  | .object members => depthMembers members + 1
  | _ => 0

def depthAll : List Json → Nat
  | [] => 0
  | v :: vs => max (depth v) (depthAll vs)

def depthMembers : List (Option String × Json) → Nat
  | [] => 0
  | (_, v) :: vs => max (depth v) (depthMembers vs)
end

/-- Values nest less than this deep, counted from the array of records. -/
def depthLimit : Nat := 128

def kindNames : List String :=
  ["bool", "int", "float", "string", "class", "enum", "annotation", "array"]

/-- The name of a kind. Inside another value a kind may be given by its number. -/
def kind? (inner : Bool) : Json → Option String
  | .string text => text
  | .number lexeme =>
    if inner then do
      let n ← Json.Number.integer? lexeme
      if 0 ≤ n then kindNames[n.toNat]? else none
    else none
  | _ => none

/-- The kind of a value and what else its record holds. -/
def tagged? : Json → Option (Json × Json)
  | .object members =>
    match members.partition fun m => m.1 == some "kind" with
    | ([(_, kind)], rest) => some (kind, .object rest)
    | _ => none
  | .array (kind :: rest) => some (kind, .array rest)
  | _ => none

/-- The last value of a name counts, at the place of the first. -/
def setLast (key : String) (value : ValueRecord) :
    List (String × ValueRecord) → List (String × ValueRecord)
  | [] => [(key, value)]
  | (name, old) :: rest =>
    if name = key then (name, value) :: rest else (name, old) :: setLast key value rest

def attributes? (value? : Json → Option ValueRecord) :
    Json → Option (List (String × ValueRecord))
  | .object members =>
    members.foldlM (fun read (key, value) => do
      pure (setLast (← key) (← value? value) read)) []
  | _ => none

def annotationRecord? (value? : Json → Option ValueRecord) (record : Json) :
    Option AnnotationRecord := do
  let fields ← fields? ["descriptor", "attributes"] record
  let descriptor ← required fields text? "descriptor"
  let attributes ← optional fields (attributes? value?) "attributes" []
  pure (.mk descriptor attributes)

def value? (inner : Bool) : Nat → Json → Option ValueRecord
  | 0, _ => none
  | depth + 1, record => do
    let (kind, content) ← tagged? record
    let fields (names : List String) : Option Fields := fields? names content
    match ← kind? inner kind with
    | "bool" => do pure (.bool (← required (← fields ["value"]) flag? "value"))
    | "int" => do pure (.int (← required (← fields ["value"]) long? "value"))
    | "float" => do pure (.float (← required (← fields ["value"]) float? "value"))
    | "string" => do pure (.string (← required (← fields ["value"]) text? "value"))
    | "class" => do pure (.classType (← required (← fields ["descriptor"]) text? "descriptor"))
    | "enum" => do
      let fields ← fields ["descriptor", "value"]
      pure (.enum (← required fields text? "descriptor") (← required fields text? "value"))
    | "annotation" => do pure (.nested (← annotationRecord? (value? true depth) content))
    | "array" => do
      pure (.array (← required (← fields ["values"]) (list? (value? true depth)) "values"))
    | _ => none

/-- An annotation that stands at a level of the text. -/
def annotationAt? (level : Nat) (record : Json) : Option AnnotationRecord :=
  let outermost (value : Json) : Option ValueRecord :=
    if isMeaningful value ∧ depth value + level + 2 < depthLimit then
      value? false depthLimit value
    else none
  annotationRecord? outermost record

/-! ## Records -/

def field? (record : Json) : Option FieldRecord := do
  let fields ← fields?
    ["name", "access", "descriptor", "signature", "annotations", "nullable", "has_default"] record
  pure {
    name := ← required fields text? "name"
    access := ← optional fields word? "access" 0
    descriptor := ← required fields text? "descriptor"
    signature := ← optional fields nullable? "signature" none
    annotations := ← optional fields (list? (annotationAt? 5)) "annotations" []
    nullable := ← optional fields flag? "nullable" false
    hasDefault := ← optional fields flag? "has_default" false }

def parameter? (record : Json) : Option ParameterRecord := do
  let fields ← fields? ["name", "annotations"] record
  pure {
    name := ← optional fields nullable? "name" none
    annotations := ← optional fields (list? (annotationAt? 7)) "annotations" [] }

def method? (record : Json) : Option MethodRecord := do
  let fields ← fields?
    ["name", "access", "descriptor", "signature", "annotations", "parameters"] record
  pure {
    name := ← required fields text? "name"
    access := ← optional fields word? "access" 0
    descriptor := ← required fields text? "descriptor"
    signature := ← optional fields nullable? "signature" none
    annotations := ← optional fields (list? (annotationAt? 5)) "annotations" []
    parameters := ← optional fields (list? parameter?) "parameters" [] }

def component? (record : Json) : Option ComponentRecord := do
  let fields ← fields? ["name", "descriptor", "signature", "annotations"] record
  pure {
    name := ← required fields text? "name"
    descriptor := ← required fields text? "descriptor"
    signature := ← optional fields nullable? "signature" none
    annotations := ← optional fields (list? (annotationAt? 5)) "annotations" [] }

def ofJson? (record : Json) : Option ClassRecord := do
  let fields ← fields?
    ["name", "access", "signature", "superclass", "interfaces", "annotations", "fields",
     "methods", "record_components", "permitted_subclasses"] record
  pure {
    name := ← required fields text? "name"
    access := ← optional fields word? "access" 0
    signature := ← optional fields nullable? "signature" none
    superclass := ← optional fields nullable? "superclass" none
    interfaces := ← optional fields (list? text?) "interfaces" []
    annotations := ← optional fields (list? (annotationAt? 3)) "annotations" []
    fields := ← optional fields (list? field?) "fields" []
    methods := ← optional fields (list? method?) "methods" []
    recordComponents := ← optional fields (list? component?) "record_components" []
    permittedSubclasses := ← optional fields (list? text?) "permitted_subclasses" [] }

/-- The records of a text. -/
def parseAll? (text : String) : Option (List ClassRecord) := do
  list? ofJson? (← Json.parse? text)

end ClassRecord

end ApiSurface
