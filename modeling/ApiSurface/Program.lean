import ApiSurface.ApiDocument
import ApiSurface.CommandLine
import ApiSurface.Config
import ApiSurface.Controllers
import ApiSurface.FileTree

/-!
# The program

Reads a configuration and class records from files, describes the API and writes it as a document.
-/

namespace ApiSurface

/-- Access to files, by paths that begin at the root or at the working directory. -/
structure FileAccess (m : Type → Type) where
  workingDirectory : m String
  isFile : String → m Bool
  isDirectory : String → m Bool
  read : String → m (Except FileFault String)
  list : String → m (Except FileFault (List String))
  write : String → String → m (Except FileFault Unit)
  makeDirectory : String → m (Except FileFault Unit)

namespace FileTree

def update (change : FileTree → Except FileFault FileTree) :
    StateM FileTree (Except FileFault Unit) := fun tree =>
  match change tree with
  | .ok changed => (.ok (), changed)
  | .error fault => (.error fault, tree)

/-- Access to the files of a tree. -/
def access (working : Place) : FileAccess (StateM FileTree) where
  workingDirectory := pure ("/" ++ pathOf working)
  isFile path := do pure ((← get).isFile working path)
  isDirectory path := do pure ((← get).isDirectory working path)
  read path := do pure ((← get).read working path)
  list path := do pure ((← get).list working path)
  write path content := update fun tree => tree.write working path content
  makeDirectory path := update fun tree => tree.makeDirectory working path

end FileTree

/-- What a run failed at. -/
inductive RunFault where
  | configuration (path : String) (cause : SurfaceError)
  | settings (cause : SurfaceError)
  | classes (path : String) (cause : SurfaceError)
  | description (cause : Halt)
  | writing (path : String) (cause : FileFault)
  deriving DecidableEq, Repr

namespace RunFault

def message : RunFault → String
  | .configuration path _ => "failed to load configuration from " ++ path
  | .settings _ => "invalid translation settings"
  | .classes path _ => "failed to read class facts from " ++ path
  | .description _ => "failed to translate API"
  | .writing path _ => "failed to write " ++ path

/-- The text of what lies behind the failure. -/
def causeMessage : RunFault → String
  | .configuration _ cause | .settings cause | .classes _ cause => cause.message
  | .description (.failed cause) => cause.message
  | .description .endless => "the classes refer to each other without an end"
  | .writing _ cause => cause.message

end RunFault

variable {m : Type → Type} [Monad m]

/-! ## Configuration -/

def configName : String := "apinfer.toml"

/-- The configuration file in a directory or in the nearest one above it. -/
def discoverConfig (files : FileAccess m) (start : String) : m (Option String) :=
  let candidates := (FilePath.ancestors start.length start).map fun dir =>
    FilePath.join dir configName
  search candidates
where
  search : List String → m (Option String)
    | [] => pure none
    | path :: paths => do
      if ← files.isFile path then pure (some path) else search paths

def loadConfig (files : FileAccess m) (path : String) : m (Except SurfaceError Config) := do
  match ← files.read path with
  | .error fault => pure (.error (.file fault))
  | .ok text => pure (Config.parse text)

namespace CommandLine

/-- Adds what the command line says to a configuration. -/
def extend (line : CommandLine) (config : Config) : Config :=
  let selection := config.selection
  { config with
    selection := { selection with
      roots := selection.roots ++ line.roots
      blackBoxes := selection.blackBoxes ++ line.blackBoxes
      controllers := selection.controllers ++ line.controllers }
    logging := { config.logging with format := line.logFormat.getD config.logging.format } }

/-- The configuration of a run, from the file that is named or else the one that is found. -/
def config? (line : CommandLine) (files : FileAccess m) : m (Except RunFault Config) := do
  let path ← match line.config with
    | some path => pure (some path)
    | none => do discoverConfig files (← files.workingDirectory)
  match path with
  | none => pure (.ok (line.extend .standard))
  | some path =>
    match ← loadConfig files path with
    | .ok config => pure (.ok (line.extend config))
    | .error cause => pure (.error (.configuration path cause))

def logSettings (line : CommandLine) (config : Config) : LogSettings :=
  let settings := config.logSettings
  if line.verbosity = 0 then settings
  else { settings with level := .ofVerbosity line.verbosity }

end CommandLine

/-! ## Classes -/

/-- The files of a path: itself, or the record files of a directory by name. -/
def recordFiles (files : FileAccess m) (path : String) : m (Except FileFault (List String)) := do
  if ← files.isDirectory path then
    match ← files.list path with
    | .error fault => pure (.error fault)
    | .ok names =>
      let names := (names.filter fun n => FilePath.hasExtension n "json").mergeSort
        fun a b => decide (a ≤ b)
      pure (.ok (names.map (FilePath.join path)))
  else pure (.ok [path])

def addFiles (files : FileAccess m) (classes : ClassCollection) :
    List String → m (Except SurfaceError ClassCollection)
  | [] => pure (.ok classes)
  | path :: paths => do
    match ← files.read path with
    | .error fault => pure (.error (.file fault))
    | .ok text =>
      match classes.addText text with
      | .error e => pure (.error e)
      | .ok classes => addFiles files classes paths

def classEvents (classes : ClassCollection) (fileCount : Nat) : List Event :=
  (if classes.duplicates.isEmpty then [] else [.duplicateClasses classes.duplicates.length]) ++
    [.loadedClasses classes.size fileCount]

/-- The classes of a file or a directory, and what there is to tell. -/
def readClasses (files : FileAccess m) (path : String) :
    m (Except SurfaceError ClassCollection × List Event) := do
  match ← recordFiles files path with
  | .error fault => pure (.error (.file fault), [])
  | .ok paths =>
    match ← addFiles files .empty paths with
    | .error e => pure (.error e, [])
    | .ok classes => pure (.ok classes, classEvents classes paths.length)

/-! ## Runs -/

/-- The written document: the output options, which generators of clients read, and the API. -/
def document (config : Config) (api : ApiDefinition) : String :=
  (Json.ofMembers [("output", config.output.toJson), ("api", api.toJson)]).pretty 0 ++ "\n"

/-- What a run printed, unless it failed, and what there is to tell. -/
structure RunResult where
  output : Except RunFault String
  events : List Event

/-- Describes the API of the classes and writes it to the file that is named, or else prints it. -/
def CommandLine.run (line : CommandLine) (files : FileAccess m) (config : Config) :
    m RunResult := do
  match config.settings with
  | .error e => pure ⟨.error (.settings e), []⟩
  | .ok settings =>
    let (classes, classEvents) ← readClasses files line.classes
    match classes with
    | .error e => pure ⟨.error (.classes line.classes e), classEvents⟩
    | .ok classes =>
      let (api, apiEvents) := (Survey.mk classes settings).api
      let events := classEvents ++ apiEvents
      match api with
      | .error h => pure ⟨.error (.description h), events⟩
      | .ok api =>
        match line.out with
        | none => pure ⟨.ok (document config api), events⟩
        | some path =>
          match ← files.write path (document config api) with
          | .error fault => pure ⟨.error (.writing path fault), events⟩
          | .ok () => pure ⟨.ok "", events ++ [.wroteApi path]⟩

/-- How the program ends. -/
inductive Ending where
  | usage (fault : UsageFault)
  | failed (fault : RunFault)
  | logFailed (fault : FileFault)
  | done (output : String)
  deriving DecidableEq, Repr

namespace Ending

def exitCode : Ending → Nat
  | .usage .help | .usage .version | .done _ => 0
  | .usage _ => 2
  | .failed _ => 1
  | .logFailed _ => 101

end Ending

/-- The ending of a program with the events that are logged, and the settings under which. -/
structure ProgramResult where
  ending : Ending
  log : Option LogSettings
  events : List Event

/-- Makes ready what events are logged to. -/
def prepareLog (files : FileAccess m) (settings : LogSettings) : m (Except FileFault Unit) :=
  match settings.destination with
  | .standardError => pure (.ok ())
  | .directory path => files.makeDirectory path

/-- Runs the program with its arguments. -/
def runProgram (files : FileAccess m) (arguments : List String) : m ProgramResult := do
  match CommandLine.parse arguments with
  | .error fault => pure ⟨.usage fault, none, []⟩
  | .ok line =>
    match ← line.config? files with
    | .error fault => pure ⟨.failed fault, none, []⟩
    | .ok config =>
      let settings := line.logSettings config
      match ← prepareLog files settings with
      | .error fault => pure ⟨.logFailed fault, none, []⟩
      | .ok () =>
        let result ← line.run files config
        let events := (.starting :: result.events).filter settings.logs
        match result.output with
        | .ok output => pure ⟨.done output, some settings, events⟩
        | .error fault => pure ⟨.failed fault, some settings, events⟩

end ApiSurface
