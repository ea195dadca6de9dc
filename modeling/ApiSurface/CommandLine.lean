import ApiSurface.Logging

/-!
# The command line

Options in a long form, some of them in a short form, with values behind them or attached. There
are no arguments besides the options.
-/

namespace ApiSurface

/-- The options as they were given. -/
structure CommandLine where
  classes : String
  config : Option String
  out : Option String
  roots : List String
  blackBoxes : List String
  controllers : List String
  logFormat : Option LogFormat
  verbosity : Nat
  deriving DecidableEq, Repr

/-- Why arguments give no command line; two of these are requests. -/
inductive UsageFault where
  | help
  | version
  | missingArgument
  | invalidValue
  | unknownArgument
  | repeatedArgument
  | valueForFlag
  deriving DecidableEq, Repr

namespace UsageFault

def message : UsageFault → String
  | .help => "help is asked for"
  | .version => "the version is asked for"
  | .missingArgument => "--classes is required"
  | .invalidValue => "a value is missing or invalid"
  | .unknownArgument => "unexpected argument"
  | .repeatedArgument => "an option is given twice"
  | .valueForFlag => "a value for an option that takes none"

end UsageFault

/-- An option that takes a value. -/
inductive ValueOption where
  | classes
  | config
  | out
  | root
  | blackBox
  | controller
  | logFormat
  deriving DecidableEq, Repr

inductive FlagOption where
  | verbose
  | help
  | version
  deriving DecidableEq, Repr

abbrev CommandOption := ValueOption ⊕ FlagOption

namespace CommandOption

def ofLong? (name : String) : Option CommandOption :=
  match name with
  | "classes" => some (.inl .classes)
  | "config" => some (.inl .config)
  | "out" => some (.inl .out)
  | "root" => some (.inl .root)
  | "black-box" => some (.inl .blackBox)
  | "controller" => some (.inl .controller)
  | "log-format" => some (.inl .logFormat)
  | "verbose" => some (.inr .verbose)
  | "help" => some (.inr .help)
  | "version" => some (.inr .version)
  | _ => none

def ofShort? (letter : Char) : Option CommandOption :=
  match letter with
  | 'c' => some (.inl .classes)
  | 'o' => some (.inl .out)
  | 'v' => some (.inr .verbose)
  | 'h' => some (.inr .help)
  | 'V' => some (.inr .version)
  | _ => none

end CommandOption

/-- What has been read of a command line. An option that stands without an attached value is
pending, first without a value and then with it, until the next option. -/
structure PartialCommandLine where
  classes : Option String
  config : Option String
  out : Option String
  roots : List String
  blackBoxes : List String
  controllers : List String
  logFormat : Option LogFormat
  verbosity : Nat
  pending : Option (ValueOption × Option String)
  onlyArguments : Bool

namespace PartialCommandLine

def empty : PartialCommandLine := ⟨none, none, none, [], [], [], none, 0, none, false⟩

/-- The value of an option that may be given once. -/
def once {α : Type} (before : Option α) (read : Option α) : Except UsageFault (Option α) :=
  match before, read with
  | some _, _ => .error .repeatedArgument
  | none, none => .error .invalidValue
  | none, some value => .ok (some value)

def path? (value : String) : Option String := if value.isEmpty then none else some value

def store (line : PartialCommandLine) (value : String) :
    ValueOption → Except UsageFault PartialCommandLine
  | .classes => do pure { line with classes := ← once line.classes (path? value) }
  | .config => do pure { line with config := ← once line.config (path? value) }
  | .out => do pure { line with out := ← once line.out (path? value) }
  | .root => .ok { line with roots := line.roots ++ [value] }
  | .blackBox => .ok { line with blackBoxes := line.blackBoxes ++ [value] }
  | .controller => .ok { line with controllers := line.controllers ++ [value] }
  | .logFormat => do
    pure { line with logFormat := ← once line.logFormat (LogFormat.ofName? value) }

/-- Stores the pending option, which must have its value. -/
def settle (line : PartialCommandLine) : Except UsageFault PartialCommandLine :=
  match line.pending with
  | none => .ok line
  | some (_, none) => .error .invalidValue
  | some (o, some value) => { line with pending := none }.store value o

/-- An option with a value attached to it. -/
def addAttached (line : PartialCommandLine) (o : ValueOption) (value : String) :
    Except UsageFault PartialCommandLine := do
  (← line.settle).store value o

/-- An option whose value is to follow. -/
def await (line : PartialCommandLine) (o : ValueOption) : Except UsageFault PartialCommandLine := do
  pure { ← line.settle with pending := some (o, none) }

def greatestVerbosity : Nat := 255

def addFlag (line : PartialCommandLine) (flag : FlagOption) :
    Except UsageFault PartialCommandLine := do
  let line ← line.settle
  match flag with
  | .verbose => pure { line with verbosity := min greatestVerbosity (line.verbosity + 1) }
  | .help => throw .help
  | .version => throw .version

/-- An option in its long form, without the dashes. -/
def addLong (line : PartialCommandLine) (text : List Char) :
    Except UsageFault PartialCommandLine :=
  let name := text.takeWhile (· ≠ '=')
  let value : Option String :=
    if name.length = text.length then none else some (String.ofList (text.drop (name.length + 1)))
  match CommandOption.ofLong? (String.ofList name), value with
  | none, _ => .error .unknownArgument
  | some (.inl o), some value => line.addAttached o value
  | some (.inl o), none => line.await o
  | some (.inr _), some _ => .error .valueForFlag
  | some (.inr flag), none => line.addFlag flag

/-- Options in their short form, without the dash. A value takes all that is left. -/
def addShort (line : PartialCommandLine) : List Char → Except UsageFault PartialCommandLine
  | [] => .ok line
  | c :: rest =>
    match CommandOption.ofShort? c, rest with
    | none, _ => .error .unknownArgument
    | some (.inr flag), _ => do (← line.addFlag flag).addShort rest
    | some (.inl o), [] => line.await o
    | some (.inl o), '=' :: value => line.addAttached o (String.ofList value)
    | some (.inl o), value => line.addAttached o (String.ofList value)

/-- A text that is no option can only be the value of a pending one. -/
def addText (line : PartialCommandLine) (text : String) : Except UsageFault PartialCommandLine :=
  match line.pending with
  | some (o, none) => .ok { line with pending := some (o, some text) }
  | _ => .error .unknownArgument

def add (line : PartialCommandLine) (argument : String) : Except UsageFault PartialCommandLine :=
  if line.onlyArguments then .error .unknownArgument
  else
    match argument.toList with
    | ['-', '-'] => .ok { line with onlyArguments := true }
    | '-' :: '-' :: text => line.addLong text
    | ['-'] => line.addText argument
    | '-' :: text => line.addShort text
    | _ => line.addText argument

def finish (line : PartialCommandLine) : Except UsageFault CommandLine := do
  let line ← line.settle
  match line.classes with
  | none => throw .missingArgument
  | some classes =>
    pure ⟨classes, line.config, line.out, line.roots, line.blackBoxes, line.controllers,
      line.logFormat, line.verbosity⟩

end PartialCommandLine

namespace CommandLine

def usage : String :=
  "Usage: apinfer [OPTIONS] --classes <CLASSES>\n\n" ++ String.join (([
    "-c, --classes <CLASSES>      Class facts: a JSON file or a directory of them",
    "    --config <CONFIG>        Configuration file, otherwise the nearest apinfer.toml",
    "-o, --out <OUT>              Write the API definition here instead of stdout",
    "    --root <CLASS>           Additional class to describe",
    "    --black-box <REGEX>      Classes to leave opaque",
    "    --controller <REGEX>     Controllers to process",
    "    --log-format <FORMAT>    pretty, compact or json",
    "-v, --verbose...             More output per occurrence",
    "-h, --help                   Print help",
    "-V, --version                Print version"] : List String).map fun line => "  " ++ line ++ "\n")

/-- The command line of arguments, without the name of the program. -/
def parse (arguments : List String) : Except UsageFault CommandLine := do
  (← arguments.foldlM PartialCommandLine.add .empty).finish

end CommandLine

end ApiSurface
