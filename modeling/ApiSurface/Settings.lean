import ApiSurface.ApiType
import ApiSurface.Naming
import ApiSurface.PatternSet

/-!
# Settings

Which controllers are described, which classes stay opaque or come from elsewhere, and how names
and URLs are written.
-/

namespace ApiSurface

/-- The classes `roots` are described also if no endpoint refers to them. `importedTypes` are the
types of all imports. `patience` is how many levels more than the number of classes gives reason for
may lie inside one another, before a description is given up as endless. A description that is not
given up does not depend on it. -/
structure Settings where
  blackBoxes : PatternSet
  controllers : PatternSet
  urlEndpoints : PatternSet
  imports : NameMap (List String)
  importedTypes : NameSet
  removedUrlPrefix : String
  roots : List String
  naming : Naming
  patience : Nat

namespace Settings

/-- More levels than classes that people write need. -/
def standardPatience : Nat := 10000

def empty : Settings :=
  ⟨.empty, .empty, .empty, .empty, .empty, "", [], .empty, standardPatience⟩

instance : Inhabited Settings := ⟨empty⟩

def addBlackBox (settings : Settings) (pattern : String) : Except SurfaceError Settings := do
  pure { settings with blackBoxes := ← settings.blackBoxes.add pattern }

def addController (settings : Settings) (pattern : String) : Except SurfaceError Settings := do
  pure { settings with controllers := ← settings.controllers.add pattern }

/-- Adds a pattern for the endpoints that also get a method that builds their URL. -/
def addUrlEndpoint (settings : Settings) (pattern : String) : Except SurfaceError Settings := do
  pure { settings with urlEndpoints := ← settings.urlEndpoints.add pattern }

/-- Declares that a module supplies types. A module is declared once. -/
def addImport (settings : Settings) (module : String) (types : List String) :
    Except SurfaceError Settings :=
  if settings.imports.contains module then .error (.duplicateImport module)
  else .ok { settings with
    imports := settings.imports.insert module types
    importedTypes := settings.importedTypes.addAll types }

def override (settings : Settings) (qualifiedName displayName : String) : Settings :=
  { settings with naming := settings.naming.override qualifiedName displayName }

def isImported (settings : Settings) (displayName : String) : Bool :=
  settings.importedTypes.contains displayName

theorem addImport_eq_ok_iff {settings after : Settings} {module : String} {types : List String} :
    settings.addImport module types = .ok after ↔
      settings.imports.contains module = false ∧
        after = { settings with
          imports := settings.imports.insert module types
          importedTypes := settings.importedTypes.addAll types } := by
  cases h : settings.imports.contains module <;> simp [addImport, h, eq_comm]

/-- An import adds its types to those that are imported. -/
theorem isImported_addImport {settings after : Settings} {module : String} {types : List String}
    (h : settings.addImport module types = .ok after) (displayName : String) :
    after.isImported displayName =
      (decide (displayName ∈ types) || settings.isImported displayName) := by
  obtain ⟨_, rfl⟩ := addImport_eq_ok_iff.mp h
  simp [isImported]

def isBlackBox (settings : Settings) (qualifiedName : String) : Bool :=
  settings.blackBoxes.contains qualifiedName

/-- Without any pattern every controller is described. -/
def isController (settings : Settings) (qualifiedName : String) : Bool :=
  settings.controllers.isEmpty || settings.controllers.contains qualifiedName

def isUrlEndpoint (settings : Settings) (className method : String) : Bool :=
  settings.urlEndpoints.contains (className ++ "." ++ method)

/-- The URL without the start that is to be removed, if it has it. -/
def normalizeUrl (settings : Settings) (url : String) : String :=
  let lead := settings.removedUrlPrefix.toList
  if lead.isPrefixOf url.toList then String.ofList (url.toList.drop lead.length) else url

end Settings

end ApiSurface
