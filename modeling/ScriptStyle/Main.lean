import ScriptStyle.Command.Run

/-!
# The program

The command line runs on the file system of the machine. Everything that is decided is decided
elsewhere; this module only asks for files, prints, and ends with the status that comes out.
-/

namespace ScriptStyle.Machine

/-- A text as the machine takes it. -/
def string (t : Text) : String := String.ofList t

/-- What a failure means. -/
def readError (e : IO.Error) : ReadError :=
  match e with
  | .noFileOrDirectory .. => .notFound
  | .inappropriateType _ code _ => if code = 20 then .notDirectory else .isDirectory
  | e => .other (toString e).toList

/-- What a kind of file counts as. -/
def entryKind : IO.FS.FileType → EntryKind
  | .file => .file
  | .dir => .directory
  | _ => .other

/-- A path, as a place in a directory. -/
def place (path : Text) : IO.FS.DirEntry := ⟨string path, ""⟩

/-- What a path names, links followed. -/
def kind (path : Text) : IO (Option EntryKind) := do
  try return some (entryKind (← (place path).root.metadata).type)
  catch _ => return none

/-- What a directory holds. -/
def entries (path : Text) : IO (List (Text × EntryKind)) := do
  try
    let found ← (place path).root.readDir
    found.toList.mapM fun e => do
      return (e.fileName.toList, entryKind (← e.path.symlinkMetadata).type)
  catch _ => return []

/-- The text of a file. -/
def read (path : Text) : IO (Except ReadError Text) := do
  try
    match String.fromUTF8? (← IO.FS.readBinFile (string path)) with
    | some s => return .ok s.toList
    | none => return .error .notText
  catch e => return .error (readError e)

/-- A bound on how deep directories are nested: longer paths are refused by the machine. -/
def depth : Nat := 4096

/-- The file system of the machine. -/
def disk : Disk IO where
  workingDirectory := return (toString (← IO.currentDir)).toList
  kind := kind
  entries := entries
  read := read
  depth := depth

end ScriptStyle.Machine

open ScriptStyle in
/-- Runs the command line. -/
def main (arguments : List String) : IO UInt32 := do
  let stdout ← IO.getStdout
  let stderr ← IO.getStderr
  let console : Command.Console := ⟨← stdout.isTty, true⟩
  let out ← Command.run Machine.disk console (arguments.map String.toList)
  for r in out.log do
    stderr.putStrLn (Machine.string (r.render out.logFormat))
  stderr.putStr (Machine.string out.stderr)
  stdout.putStr (Machine.string out.stdout)
  return out.exitCode.toUInt32
