import ApiSurface.ApiType
import ApiSurface.SurfaceError

/-!
# File trees

Files and directories by their paths. A path is a text with slashes between names; it is followed
name by name, and every place on the way must be a directory that is there.
-/

namespace ApiSurface

inductive FileEntry where
  | directory
  | file (content : String)
  deriving DecidableEq, Repr

/-- The entries by path from the root. The root is a directory and no entry. -/
structure FileTree where
  entries : NameMap FileEntry
  deriving DecidableEq, Repr

namespace FileTree

def empty : FileTree := ⟨.empty⟩

/-- A place in a tree: the names from the root to it. -/
abbrev Place := List String

def pathOf (place : Place) : String := "/".intercalate place

def entry? (tree : FileTree) : Place → Option FileEntry
  | [] => some .directory
  | place => tree.entries.get? (pathOf place)

def set (tree : FileTree) (place : Place) (entry : FileEntry) : FileTree :=
  ⟨tree.entries.insert (pathOf place) entry⟩

/-- That a place is a directory that is there. -/
def checkDirectory (tree : FileTree) (place : Place) : Except FileFault Unit :=
  match tree.entry? place with
  | some .directory => .ok ()
  | some (.file _) => .error .notADirectory
  | none => .error .notFound

def greatestNameSize : Nat := 255

/-- Follows the parts of a path from a place. Where they lead need not be there. -/
def follow (tree : FileTree) (place : Place) : List String → Except FileFault Place
  | [] => .ok place
  | part :: parts => do
    tree.checkDirectory place
    if part = "" ∨ part = "." then follow tree place parts
    else if part = ".." then follow tree place.dropLast parts
    else if greatestNameSize < part.utf8ByteSize then .error .nameTooLong
    else follow tree (place ++ [part]) parts

/-- The place of a path, which begins at the root or at a working directory. -/
def locate (tree : FileTree) (working : Place) (path : String) : Except FileFault Place :=
  if path.toList.contains (Char.ofNat 0) then .error .invalidName
  else if path.isEmpty then .error .notFound
  else tree.follow (if path.startsWith "/" then [] else working) (path.splitOn "/")

def find? (tree : FileTree) (working : Place) (path : String) : Option FileEntry :=
  match tree.locate working path with
  | .ok place => tree.entry? place
  | .error _ => none

def isFile (tree : FileTree) (working : Place) (path : String) : Bool :=
  match tree.find? working path with
  | some (.file _) => true
  | _ => false

def isDirectory (tree : FileTree) (working : Place) (path : String) : Bool :=
  match tree.find? working path with
  | some .directory => true
  | _ => false

def read (tree : FileTree) (working : Place) (path : String) : Except FileFault String := do
  match tree.entry? (← tree.locate working path) with
  | some (.file content) => pure content
  | some .directory => throw .isADirectory
  | none => throw .notFound

/-- The names in a directory, in their order. -/
def list (tree : FileTree) (working : Place) (path : String) : Except FileFault (List String) := do
  let place ← tree.locate working path
  tree.checkDirectory place
  pure (tree.entries.keys.filterMap fun key =>
    let names := key.splitOn "/"
    if names.dropLast = place then names.getLast? else none)

/-- Writes a file, over the one that is there. Its directory must be there. -/
def write (tree : FileTree) (working : Place) (path content : String) :
    Except FileFault FileTree := do
  let place ← tree.locate working path
  match tree.entry? place with
  | some .directory => throw .isADirectory
  | _ => pure (tree.set place (.file content))

/-- Makes the directories that are missing on the way. -/
def makeParts (tree : FileTree) (place : Place) : List String → Except FileFault FileTree
  | [] => .ok tree
  | part :: parts =>
    if part = "" ∨ part = "." then makeParts tree place parts
    else if part = ".." then makeParts tree place.dropLast parts
    else
      let next := place ++ [part]
      match tree.entry? next with
      | none => makeParts (tree.set next .directory) next parts
      | some .directory => makeParts tree next parts
      | some (.file _) => .error .notADirectory

def makeDirectory (tree : FileTree) (working : Place) (path : String) : Except FileFault FileTree :=
  tree.makeParts (if path.startsWith "/" then [] else working) (path.splitOn "/")

end FileTree

/-! ## Paths -/

namespace FilePath

/-- Parts of a path that lead nowhere else. -/
def isIdle (part : String) : Bool := part = "" || part = "."

/-- The path without its last name, if it has one. -/
def parent? (path : String) : Option String :=
  let absolute := path.startsWith "/"
  match ((path.splitOn "/").reverse).dropWhile isIdle with
  | [] => none
  | _ :: parts =>
    let parent := "/".intercalate (parts.dropWhile isIdle).reverse
    some (if absolute ∧ parent.isEmpty then "/" else parent)

/-- A path and the paths above it, the nearest first. -/
def ancestors : Nat → String → List String
  | 0, path => [path]
  | steps + 1, path =>
    path :: ((parent? path).map (ancestors steps)).getD []

def join (path name : String) : String :=
  if path.isEmpty ∨ path.endsWith "/" then path ++ name else path ++ "/" ++ name

/-- Whether a name ends with a dot and an extension, and does not consist of these. -/
def hasExtension (name extension : String) : Bool :=
  name.endsWith ("." ++ extension) && name ≠ "." ++ extension

end FilePath

end ApiSurface
