import ApiSurface.Program

/-!
# The executable

Gives the program the files of the system, prints what it says and exits as it ends.
-/

namespace ApiSurface.Executable

def fileFault : IO.Error → FileFault
  | .noFileOrDirectory .. => .notFound
  | .inappropriateType _ 21 _ => .isADirectory
  | .inappropriateType _ 20 _ => .notADirectory
  | _ => .other

def attempt {α : Type} (act : IO α) : IO (Except FileFault α) := act.toEIO fileFault |>.toIO'

def entryType (path : String) : IO (Option IO.FS.FileType) := do
  match ← attempt (System.mkFilePath [path]).metadata with
  | .ok data => pure (some data.type)
  | .error _ => pure none

def isDirectory (path : String) : IO Bool := (System.mkFilePath [path]).isDir

def systemFiles : FileAccess IO where
  workingDirectory := do pure (← IO.currentDir).toString
  isFile path := do
    match ← entryType path with
    | some .file => pure true
    | _ => pure false
  isDirectory := isDirectory
  read path := attempt do
    if ← isDirectory path then
      throw (.inappropriateType (some path) 21 "is a directory")
    IO.FS.readFile (System.mkFilePath [path])
  list path := attempt do
    pure ((← (System.mkFilePath [path]).readDir).toList.map fun entry => entry.fileName)
  write path content := attempt (IO.FS.writeFile (System.mkFilePath [path]) content)
  makeDirectory path := attempt (IO.FS.createDirAll (System.mkFilePath [path]))

/-- Writes the logged events where the settings send them. -/
def writeLog (settings : LogSettings) (events : List Event) : IO Unit := do
  let lines := events.map fun e => e.line settings.format
  match settings.destination with
  | .standardError => for line in lines do IO.eprintln line
  | .directory path =>
    let handle ← IO.FS.Handle.mk (System.mkFilePath [path, "apinfer"]) .append
    for line in lines do handle.putStrLn line

def report : Ending → IO Unit
  | .usage .help => IO.print CommandLine.usage
  | .usage .version => IO.println "apinfer 0.1.0"
  | .usage fault => IO.eprintln (s!"error: {fault.message}\n\n" ++ CommandLine.usage)
  | .failed fault => IO.eprintln s!"Error: {fault.message}: {fault.causeMessage}"
  | .logFailed fault => IO.eprintln s!"Error: failed to open the log: {fault.message}"
  | .done output => IO.print output

end ApiSurface.Executable

open ApiSurface ApiSurface.Executable in
def main (arguments : List String) : IO UInt32 := do
  let result ← runProgram systemFiles arguments
  if let some settings := result.log then writeLog settings result.events
  report result.ending
  pure (UInt32.ofNat result.ending.exitCode)
