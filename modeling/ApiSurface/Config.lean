import ApiSurface.Logging
import ApiSurface.Settings
import ApiSurface.TomlReader
import ApiSurface.TomlText

/-!
# Configuration

A configuration file in TOML, whose tables and values may all be left out. A saved configuration
reads back as the same one.
-/

namespace ApiSurface

/-- How generated code shows a value that may be absent. -/
inductive OptionalMode where
  | null
  | undefined
  deriving DecidableEq, Repr

namespace OptionalMode

def name : OptionalMode → String
  | .null => "null"
  | .undefined => "undefined"

def ofName? (text : String) : Option OptionalMode :=
  [null, undefined].find? fun mode => mode.name == text

theorem ofName?_name (mode : OptionalMode) : ofName? mode.name = some mode := by
  cases mode <;> rfl

end OptionalMode

/-- How generated code shows an enum. -/
inductive EnumMode where
  | standard
  | intEnum
  | stringUnion
  deriving DecidableEq, Repr

namespace EnumMode

def name : EnumMode → String
  | .standard => "default"
  | .intEnum => "int_enum"
  | .stringUnion => "string_union"

def ofName? (text : String) : Option EnumMode :=
  [standard, intEnum, stringUnion].find? fun mode => mode.name == text

theorem ofName?_name (mode : EnumMode) : ofName? mode.name = some mode := by
  cases mode <;> rfl

end EnumMode

/-- Patterns and names that select what is described. -/
structure Selection where
  blackBoxes : List String
  controllers : List String
  urlEndpoints : List String
  removedUrlPrefix : String
  roots : List String
  deriving DecidableEq, Repr

structure ImportOption where
  module : String
  types : List String
  deriving DecidableEq, Repr

structure OutputOptions where
  optionalMode : OptionalMode
  enumMode : EnumMode
  deriving DecidableEq, Repr

structure LogOptions where
  level : String
  format : LogFormat
  directory : Option String
  filter : Option String
  deriving DecidableEq, Repr

/-- `names` gives display names to classes by qualified name. -/
structure Config where
  selection : Selection
  names : NameMap String
  imports : List ImportOption
  output : OutputOptions
  logging : LogOptions
  deriving DecidableEq, Repr

def Selection.standard : Selection := ⟨[], [], [], "", []⟩

def OutputOptions.standard : OutputOptions := ⟨.null, .standard⟩

def OutputOptions.toJson (options : OutputOptions) : Json := .ofMembers
  [("optional_type_mode", .ofString options.optionalMode.name),
   ("enum_mode", .ofString options.enumMode.name)]

def LogOptions.standard : LogOptions := ⟨"warn", .pretty, none, none⟩

def Config.standard : Config := ⟨.standard, .empty, [], .standard, .standard⟩

/-! ## Reading -/

namespace Toml

/-- The value of a field, or what stands for a field that is left out. -/
def fieldOr {α : Type} (field : String → Option Toml) (name : String) (read : Toml → Option α)
    (absent : α) : Option α :=
  match field name with
  | none => some absent
  | some value => read value

def asNames (value : Toml) : Option (NameMap String) := do
  (← value.asMembers).foldlM (fun names (key, value) => do
    pure (names.insert key (← value.asString))) .empty

end Toml

open Toml (fieldOr)

def Selection.ofToml? (value : Toml) : Option Selection := do
  let field ← value.fields?
    ["black_box", "controllers", "endpoint_url_methods", "removed_url_prefix", "roots"]
  pure ⟨← fieldOr field "black_box" Toml.asStrings [],
    ← fieldOr field "controllers" Toml.asStrings [],
    ← fieldOr field "endpoint_url_methods" Toml.asStrings [],
    ← fieldOr field "removed_url_prefix" Toml.asString "",
    ← fieldOr field "roots" Toml.asStrings []⟩

def ImportOption.ofToml? (value : Toml) : Option ImportOption := do
  let field ← value.fields? ["module", "types"]
  pure ⟨← (← field "module").asString, ← fieldOr field "types" Toml.asStrings []⟩

def OutputOptions.ofToml? (value : Toml) : Option OutputOptions := do
  let field ← value.fields? ["optional_type_mode", "enum_mode"]
  pure ⟨← fieldOr field "optional_type_mode" (fun v => v.asChoice.bind OptionalMode.ofName?) .null,
    ← fieldOr field "enum_mode" (fun v => v.asChoice.bind EnumMode.ofName?) .standard⟩

def LogOptions.ofToml? (value : Toml) : Option LogOptions := do
  let field ← value.fields? ["level", "format", "directory", "filter"]
  pure ⟨← fieldOr field "level" Toml.asString "warn",
    ← fieldOr field "format" (fun v => v.asChoice.bind LogFormat.ofName?) .pretty,
    ← fieldOr field "directory" (fun v => some <$> v.asString) none,
    ← fieldOr field "filter" (fun v => some <$> v.asString) none⟩

namespace Config

def ofToml? (value : Toml) : Option Config := do
  let field ← value.fields? ["translation", "names", "imports", "output", "logging"]
  let imports : Toml → Option (List ImportOption)
    | .array elements => elements.mapM ImportOption.ofToml?
    | _ => none
  pure ⟨← fieldOr field "translation" Selection.ofToml? .standard,
    ← fieldOr field "names" Toml.asNames .empty,
    ← fieldOr field "imports" imports [],
    ← fieldOr field "output" OutputOptions.ofToml? .standard,
    ← fieldOr field "logging" LogOptions.ofToml? .standard⟩

def parse (text : String) : Except SurfaceError Config :=
  match (Toml.parse? text).bind ofToml? with
  | some config => .ok config
  | none => .error .config

/-! ## Writing -/

open TomlText in
/-- The text of a configuration file, with a blank line between two tables. -/
def text (config : Config) : String :=
  let selection := config.selection
  let value (name text : String) : String := statement name (string text)
  let list (name : String) (texts : List String) : String := statement name (strings texts)
  let importTables := config.imports.map fun i =>
    table "[[imports]]" [value "module" i.module, list "types" i.types]
  "\n".intercalate <|
    (if config.imports.isEmpty then [list "imports" []] else []) ++
    [table "[translation]"
      [list "black_box" selection.blackBoxes, list "controllers" selection.controllers,
       list "endpoint_url_methods" selection.urlEndpoints,
       value "removed_url_prefix" selection.removedUrlPrefix, list "roots" selection.roots],
     table "[names]" (config.names.entries.map fun (name, display) => value name display)] ++
    importTables ++
    [table "[output]"
      [value "optional_type_mode" config.output.optionalMode.name,
       value "enum_mode" config.output.enumMode.name],
     table "[logging]"
      ([value "level" config.logging.level, value "format" config.logging.format.name] ++
       (config.logging.directory.map (value "directory")).toList ++
       (config.logging.filter.map (value "filter")).toList)]

/-- The configuration with all values that were left out. -/
def toJson (config : Config) : Json :=
  let selection := config.selection
  let logging := config.logging
  .ofMembers
    [("translation", .ofMembers
       [("black_box", .ofStrings selection.blackBoxes),
        ("controllers", .ofStrings selection.controllers),
        ("endpoint_url_methods", .ofStrings selection.urlEndpoints),
        ("removed_url_prefix", .ofString selection.removedUrlPrefix),
        ("roots", .ofStrings selection.roots)]),
     ("names", .ofMembers (config.names.entries.map fun (name, display) =>
       (name, .ofString display))),
     ("imports", .array (config.imports.map fun i =>
       .ofMembers [("module", .ofString i.module), ("types", .ofStrings i.types)])),
     ("output", config.output.toJson),
     ("logging", .ofMembers
       [("level", .ofString logging.level), ("format", .ofString logging.format.name),
        ("directory", .ofOptionString logging.directory),
        ("filter", .ofOptionString logging.filter)])]

/-! ## Use -/

/-- The settings of a configuration, with every pattern compiled. -/
def settings (config : Config) : Except SurfaceError Settings := do
  let selection := config.selection
  let settings : Settings :=
    { Settings.empty with
      removedUrlPrefix := selection.removedUrlPrefix
      roots := selection.roots
      naming := ⟨config.names⟩ }
  let settings ← selection.blackBoxes.foldlM Settings.addBlackBox settings
  let settings ← selection.controllers.foldlM Settings.addController settings
  let settings ← selection.urlEndpoints.foldlM Settings.addUrlEndpoint settings
  config.imports.foldlM (fun settings i => settings.addImport i.module i.types) settings

/-- Events are logged as the configuration says, or else warnings. -/
def logSettings (config : Config) : LogSettings :=
  let logging := config.logging
  { level := (LogLevel.parse? logging.level).getD .warn
    format := logging.format
    destination := match logging.directory with
      | some path => .directory path
      | none => .standardError
    filter := logging.filter }

end Config

end ApiSurface
