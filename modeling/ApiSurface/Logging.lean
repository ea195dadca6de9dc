import ApiSurface.CharProperty
import ApiSurface.Event
import ApiSurface.Json
import ApiSurface.QuotedText

/-!
# Logging

Which events are logged, and how. Directives give a level to all parts of the program whose paths
begin with a text; the longest such text that fits an event decides.
-/

namespace ApiSurface

namespace LogLevel

def all : List LogLevel := [.error, .warn, .info, .debug, .trace]

def name : LogLevel → String
  | .error => "ERROR"
  | .warn => "WARN"
  | .info => "INFO"
  | .debug => "DEBUG"
  | .trace => "TRACE"

/-- The verbosity, from one for errors alone to five for everything. -/
def rank : LogLevel → Nat
  | .error => 1
  | .warn => 2
  | .info => 3
  | .debug => 4
  | .trace => 5

/-- A number written in digits, perhaps with a plus sign. -/
def number? (text : String) : Option Nat :=
  let digits := match text.toList with
    | '+' :: rest => rest
    | cs => cs
  if digits.isEmpty || !digits.all Char.isDigit then none
  else some (digits.foldl (fun n c => n * 10 + (c.toNat - '0'.toNat)) 0)

def sameLetters (text word : String) : Bool :=
  text.toList.map Char.toUpper == word.toList.map Char.toUpper

/-- A level by its number, or by its name in any case. -/
def parse? (text : String) : Option LogLevel :=
  match number? text with
  | some n => all.find? (·.rank == n)
  | none => all.find? fun level => sameLetters text level.name

/-- The level that a number of requests for more output asks for. -/
def ofVerbosity : Nat → LogLevel
  | 0 => .warn
  | 1 => .info
  | 2 => .debug
  | _ => .trace

end LogLevel

/-- Which events pass: none, or those up to a level. -/
abbrev LogThreshold := Option LogLevel

namespace LogThreshold

def parse? (text : String) : Option LogThreshold :=
  if LogLevel.number? text = some 0 ∨ LogLevel.sameLetters text "OFF" then some none
  else some <$> LogLevel.parse? text

def admits (threshold : LogThreshold) (level : LogLevel) : Bool :=
  threshold.any fun most => level.rank ≤ most.rank

end LogThreshold

inductive LogFormat where
  | pretty
  | compact
  | json
  deriving DecidableEq, Repr

namespace LogFormat

def name : LogFormat → String
  | .pretty => "pretty"
  | .compact => "compact"
  | .json => "json"

def ofName? (text : String) : Option LogFormat :=
  [pretty, compact, json].find? fun format => format.name == text

theorem ofName?_name (format : LogFormat) : ofName? format.name = some format := by
  cases format <;> rfl

end LogFormat

/-! ## Directives -/

/-- A threshold for the paths that begin with a text; the empty text begins all of them. -/
structure LogDirective where
  target : String
  threshold : LogThreshold
  deriving DecidableEq, Repr

namespace LogDirective

/-- Only a letter, a digit or one of these marks begins a directive. -/
def mayBegin (c : Char) : Bool := c.isAlphanum || c = '-' || c = ':' || c = '_' || 0x80 ≤ c.toNat

/-- A level for everything, or a target with or without a level. A target alone has all events
logged. Directives about spans say nothing about targets. -/
def parse? (text : String) : Option LogDirective :=
  let cs := text.toList
  let target := cs.takeWhile fun c => c != '=' && c != '['
  let rest := cs.drop target.length
  if !(cs.head?.any mayBegin) then none
  else
    match rest with
    | [] =>
      match LogThreshold.parse? text with
      | some threshold => some ⟨"", threshold⟩
      | none => some ⟨text, some .trace⟩
    | ['='] => some ⟨String.ofList target, some .trace⟩
    | '=' :: level =>
      (LogThreshold.parse? (String.ofList level)).map fun threshold =>
        ⟨String.ofList target, threshold⟩
    | _ => none

/-- The directives of a text, with commas between them. Those that cannot be read are left out. -/
def parseAll (text : String) : List LogDirective :=
  (text.splitOn ",").filterMap fun part =>
    let isBlank := CharProperty.whiteSpace.mem
    let cs := ((part.toList.dropWhile isBlank).reverse.dropWhile isBlank).reverse
    if cs.isEmpty then none else parse? (String.ofList cs)

end LogDirective

/-! ## Log settings -/

inductive LogDestination where
  | standardError
  | directory (path : String)
  deriving DecidableEq, Repr

structure LogSettings where
  level : LogLevel
  format : LogFormat
  destination : LogDestination
  filter : Option String
  deriving DecidableEq, Repr

/-- The part of the program that an event comes from. -/
def Event.origin : Event → String
  | .starting | .wroteApi .. => "apinfer::frontend::cli"
  | .duplicateClasses .. | .loadedClasses .. => "apinfer::model::reader"
  | .subtypeNotLoaded .. | .unwrappedNotLoaded .. => "apinfer::analysis::jackson"
  | .permittedNotLoaded .. => "apinfer::analysis::serialization"
  | _ => "apinfer::analysis::endpoints"

namespace LogSettings

def directives (settings : LogSettings) : List LogDirective :=
  ⟨"", some settings.level⟩ :: ((settings.filter.map LogDirective.parseAll).getD [])

/-- Of directives with the longest target that fits, the last decides. -/
def threshold (settings : LogSettings) (origin : String) : LogThreshold :=
  let fitting := settings.directives.filter fun d => d.target.toList.isPrefixOf origin.toList
  let best := fitting.foldl (fun best d =>
    match best with
    | none => some d
    | some b => if b.target.utf8ByteSize ≤ d.target.utf8ByteSize then some d else some b) none
  (best.map LogDirective.threshold).getD none

def logs (settings : LogSettings) (event : Event) : Bool :=
  (settings.threshold event.origin).admits event.level

end LogSettings

namespace Event

/-- The named values of an event, with its message. -/
def fields (event : Event) : List (String × Json) :=
  let values : List (String × Json) := match event with
    | .starting => []
    | .duplicateClasses count => [("count", .ofNat count)]
    | .loadedClasses classes files => [("classes", .ofNat classes), ("files", .ofNat files)]
    | .loadedApi groups endpoints classes enums unions =>
      [("endpoint_groups", .ofNat groups), ("endpoints", .ofNat endpoints),
       ("classes", .ofNat classes), ("enums", .ofNat enums), ("unions", .ofNat unions)]
    | .unknownTypes names =>
      let shown := names.map fun name => "ApiTypeName(" ++ QuotedText.render name ++ ")"
      [("count", .ofNat names.length),
       ("types", .ofString ("\x7b" ++ ", ".intercalate shown ++ "\x7d"))]
    | .emptyController controller => [("controller", .ofString controller)]
    | .ignoredRequestMethod error => [("error", .ofString error)]
    | .rootNotFound root => [("root", .ofString root)]
    | .subtypeNotLoaded union subtype =>
      [("union", .ofString union), ("subtype", .ofString subtype.render)]
    | .permittedNotLoaded union subclass =>
      [("union", .ofString union), ("subclass", .ofString subclass)]
    | .unwrappedNotLoaded property type =>
      [("property", .ofString property), ("ty", .ofString type.render)]
    | .wroteApi path => [("path", .ofString path)]
  ("message", .ofString event.message) :: values

def fieldText : String × Json → String
  | (name, .string (some text)) => name ++ "=" ++ text
  | (name, value) => name ++ "=" ++ value.compress

/-- The event as a line of a log. -/
def line (event : Event) : LogFormat → String
  | .json => (Json.ofMembers [("level", .ofString event.level.name),
      ("fields", .ofMembers event.fields), ("target", .ofString event.origin)]).compress
  | .pretty | .compact =>
    " ".intercalate ([event.level.name, event.origin ++ ":", event.message] ++
      event.fields.tail.map fieldText)

end Event

end ApiSurface
