import ScriptStyle.Files.Disk

/-!
# The files that some paths name

A path may name a file, which is taken whatever its name is, or a directory, of which all scripts
are taken. Directories below it are left out if they are hidden or hold packages; the directory
itself may be either. The files come sorted, and of several spellings of one path the first is kept.
-/

namespace ScriptStyle.Files

/-- A directory below another that is not searched. -/
def isSkipped (name : Text) : Bool := name.head? = some '.' || name = "node_modules".toList

variable {m : Type → Type} [Monad m]

/-- The scripts in a directory, nested at most `depth` deep. -/
def scripts (disk : Disk m) : Nat → Text → m (List Text)
  | 0, _ => pure []
  | depth + 1, directory => do
    let found ← (← disk.entries directory).mapM fun (name, kind) => do
      let path := Path.join directory name
      match kind with
      | .file => pure (if Path.isScript path then [path] else [])
      | .directory => if isSkipped name then pure [] else scripts disk depth path
      | .other => pure []
    return found.flatten

/-- The files that a path names, unless it names nothing. -/
def named (disk : Disk m) (path : Text) : m (Option (List Text)) := do
  match ← disk.kind path with
  | some .file => return some [path]
  | some .directory => return some (← scripts disk disk.depth path)
  | _ => return none

/-- The files that some paths name, or the first path that names nothing. -/
def gather (disk : Disk m) : List Text → m (Except Text (List Text))
  | [] => return .ok []
  | p :: ps => do
    match ← named disk p with
    | none => return .error p
    | some fs => return (← gather disk ps).map (fs ++ ·)

/-- Neighbours that are the same path, reduced to the first. -/
def distinct : List Text → List Text
  | [] => []
  | p :: ps =>
    match distinct ps with
    | [] => [p]
    | q :: qs => if Path.same p q then p :: qs else p :: q :: qs

/-- The files that some paths name, sorted and without repetitions, or the first path that names
nothing. -/
def collect (disk : Disk m) (paths : List Text) : m (Except Text (List Text)) := do
  return (← gather disk paths).map fun fs => distinct (fs.mergeSort Path.le)

end ScriptStyle.Files
