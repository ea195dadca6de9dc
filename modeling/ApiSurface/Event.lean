import ApiSurface.JavaType

/-!
# Events

What a run tells its user besides the result. An event has a level, a message and named values.
-/

namespace ApiSurface

inductive LogLevel where
  | error
  | warn
  | info
  | debug
  | trace
  deriving DecidableEq, Repr

inductive Event where
  | starting
  | duplicateClasses (count : Nat)
  | loadedClasses (classes files : Nat)
  | loadedApi (groups endpoints classes enums unions : Nat)
  | unknownTypes (names : List String)
  | emptyController (controller : String)
  | ignoredRequestMethod (error : String)
  | rootNotFound (root : String)
  | subtypeNotLoaded (union : String) (subtype : JavaType)
  | permittedNotLoaded (union subclass : String)
  | unwrappedNotLoaded (property : String) (type : JavaType)
  | wroteApi (path : String)
  deriving DecidableEq, Repr

namespace Event

def level : Event → LogLevel
  | .starting | .loadedClasses .. | .loadedApi .. | .wroteApi .. => .info
  | _ => .warn

def message : Event → String
  | .starting => "apinfer starting"
  | .duplicateClasses .. =>
    "There were classes with multiple definitions. Ignoring duplicate definitions."
  | .loadedClasses .. => "Loaded class records"
  | .loadedApi .. => "Loaded API definition"
  | .unknownTypes .. => "Writing unknown top-level types as black boxes"
  | .emptyController .. => "Controller has no endpoints"
  | .ignoredRequestMethod .. => "Ignoring request method"
  | .rootNotFound .. => "Root class not found"
  | .subtypeNotLoaded .. => "Subtype not loaded, skipping"
  | .permittedNotLoaded .. => "Permitted subclass not loaded, skipping"
  | .unwrappedNotLoaded .. => "Unwrapped property type not loaded, skipping"
  | .wroteApi .. => "Wrote API definition"

end Event

end ApiSurface
