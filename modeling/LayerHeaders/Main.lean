import LayerHeaders.CommandLine.Run

/-!
# The program

The command line on the disk of the machine.
-/

namespace LayerHeaders

open Files CommandLine

/-- The failure that the system reports. -/
def systemError (e : IO.Error) : FileError :=
  match e with
  | .noFileOrDirectory _ _ _ => .notFound
  | .alreadyExists _ _ _ => .alreadyExists
  | .resourceBusy _ _ => .busy
  | .inappropriateType _ 20 _ | .invalidArgument _ 20 _ => .notDirectory
  | .inappropriateType _ 21 _ | .invalidArgument _ 21 _ => .isDirectory
  | .inappropriateType _ 36 _ | .invalidArgument _ 36 _ => .nameTooLong
  | e => .other (toString e)

/-- Runs an operation of the system. -/
def onDisk {α : Type} (operation : IO α) : ExceptT FileError IO α := do
  match ← operation.toBaseIO with
  | .ok a => return a
  | .error e => throw (systemError e)

/-- Creates an empty file in a directory, under a name that nothing has. -/
def createFresh (directory : String) : Nat → IO String
  | 0 => throw (.userError "no name for a temporary file is free")
  | attempts + 1 => do
    let path := Path.join directory (".tmp" ++ toString (← IO.rand 0 999999999))
    match ← (IO.FS.Handle.mk path .writeNew).toBaseIO with
    | .ok _ => return path
    | .error (.alreadyExists _ _ _) => createFresh directory attempts
    | .error e => throw e

/-- The disk of the machine. Temporary files are known by their paths. -/
def machine : FileSystem IO String where
  isDirectory path := do
    if path = "" then return false
    match ← (IO.FS.Handle.mk (path ++ "/.") .read).toBaseIO with
    | .ok _ => return true
    | .error _ => return false
  read path := onDisk (IO.FS.readBinFile path)
  createDirectory path := onDisk (IO.FS.createDir path)
  createTemporary directory := onDisk (createFresh directory 1000)
  write file text := onDisk (IO.FS.writeFile file text)
  sync file := onDisk do (← IO.FS.Handle.mk file .append).flush
  rename file path := onDisk (IO.FS.rename file path)
  discard file := do
    let _ ← (IO.FS.removeFile file).toBaseIO

end LayerHeaders

/-- Runs the command line. -/
def main (args : List String) : IO UInt32 := do
  let environment? ← IO.getEnv "VK_LAYER_CODEGEN_CONFIG"
  let report ← LayerHeaders.CommandLine.run LayerHeaders.machine environment? args
  IO.print report.output
  IO.eprint report.problem
  return report.status
