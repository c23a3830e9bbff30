import ScriptStyle.Files.Path

/-!
# File systems

A file system answers three questions: what a path names, what a directory holds, and what a file
says. The first and the last follow links, the second does not. The answers may depend on the
outside world, so they come in a monad `m`; a file system that never changes answers in `Id`.
-/

namespace ScriptStyle

/-- What a path can name. -/
inductive EntryKind where
  | file | directory
  /-- A link, or anything else that is neither a file nor a directory. -/
  | other
deriving DecidableEq, Repr

/-- Why a file could not be read. -/
inductive ReadError where
  | notFound | notDirectory | isDirectory | loop | notText
  /-- Any other reason, in words. -/
  | other (message : Text)
deriving DecidableEq, Repr

namespace ReadError

/-- What is said about it. -/
def message : ReadError → Text
  | notFound => "No such file or directory (os error 2)".toList
  | notDirectory => "Not a directory (os error 20)".toList
  | isDirectory => "Is a directory (os error 21)".toList
  | loop => "Too many levels of symbolic links (os error 40)".toList
  | notText => "stream did not contain valid UTF-8".toList
  | other m => m

end ReadError

/-- A file system. -/
structure Disk (m : Type → Type) where
  /-- The path of the working directory. -/
  workingDirectory : m Text
  /-- What a path names, links followed. -/
  kind : Text → m (Option EntryKind)
  /-- The names in a directory and what they name, links not followed. -/
  entries : Text → m (List (Text × EntryKind))
  /-- The text of a file. -/
  read : Text → m (Except ReadError Text)
  /-- A bound on how deep directories are nested. -/
  depth : Nat

end ScriptStyle
