import ScriptStyle.Files.Disk

/-!
# Directory trees

A directory tree is a file system at rest. Paths are resolved name by name from its top: two dots
lead to the parent, at the top nowhere, and a link is replaced by the path that it holds. Resolution
gives up after a number of links, so it also ends where links lead in a circle.
-/

namespace ScriptStyle

/-- A file, a directory or a link. -/
inductive Entry where
  /-- A file with its text, if what it holds is a text. -/
  | file (content : Option Text)
  | directory (entries : List (Text × Entry))
  | link (target : Text)

namespace Entry

/-- The entry itself, links not followed. -/
def kind : Entry → EntryKind
  | file _ => .file
  | directory _ => .directory
  | link _ => .other

/-- An empty directory. -/
def empty : Entry := directory []

/-- What a directory holds. -/
def entries : Entry → List (Text × Entry)
  | directory es => es
  | _ => []

/-- The entry with a name. -/
def get? (e : Entry) (name : Text) : Option Entry := (e.entries.find? (·.1 = name)).map (·.2)

mutual

/-- How deep directories are nested. -/
def depth : Entry → Nat
  | file _ => 0
  | link _ => 0
  | directory es => depthAll es + 1

/-- How deep the directories among some entries are nested. -/
def depthAll : List (Text × Entry) → Nat
  | [] => 0
  | (_, e) :: es => max e.depth (depthAll es)

end

/-- Some entries with one more, or with another under the same name. -/
def put (name : Text) (e : Entry) (es : List (Text × Entry)) : List (Text × Entry) :=
  if es.any (·.1 = name) then es.map fun x => if x.1 = name then (name, e) else x
  else es ++ [(name, e)]

/-- The tree with an entry at a path of names, the directories on the way made. A directory that is
there already is kept. -/
def insert (new : Entry) : List Text → Entry → Entry
  | [], old =>
    match new, old with
    | directory [], directory es => directory es
    | e, _ => e
  | n :: ns, old =>
    directory (put n (insert new ns ((old.get? n).getD empty)) old.entries)

/-- The number of links that are followed. -/
def linkLimit : Nat := 40

/-- What a path leads to. `trail` holds the directories on the way, the last one first. Every
segment but the last must name a directory; a link is followed unless it is the last segment and
`follow` does not say so. -/
def resolve (fuel : Nat) (trail : List Entry) (links : Nat) :
    List Text → Except ReadError Entry :=
  fun segments =>
  match fuel with
  | 0 => .error .loop
  | fuel + 1 =>
    match segments, trail with
    | [], [] => .error .notFound
    | [], e :: _ => .ok e
    | _, [] => .error .notFound
    | s :: ss, e :: up =>
      match e with
      | directory _ =>
        if s = [] || s = ['.'] then resolve fuel (e :: up) links ss
        else if s = ['.', '.'] then resolve fuel (if up = [] then [e] else up) links ss
        else match e.get? s with
          | none => .error .notFound
          | some (link target) =>
            if links = 0 then .error .loop
            else resolve fuel (e :: up) (links - 1) (Path.segments target ++ ss)
          | some f => resolve fuel (f :: e :: up) links ss
      | _ => .error .notDirectory

/-- The segments on the way from the top of a tree to a path. A path that does not begin at the top
begins in the working directory, to which the names `home` lead. -/
def route (home : List Text) (path : Text) : List Text :=
  (if path.head? = some Path.separator then [] else home) ++ Path.segments path

/-- What a path leads to. -/
def lookup (top : Entry) (home : List Text) (path : Text) : Except ReadError Entry :=
  if path = [] then .error .notFound
  else
    let segments := route home path
    resolve (linkLimit * 4096 + segments.length + 1) [top] linkLimit segments

/-- The text of a file. -/
def content : Entry → Except ReadError Text
  | file (some t) => .ok t
  | file none => .error .notText
  | directory _ => .error .isDirectory
  | link _ => .error .loop

end Entry

namespace Disk

/-- The file system that holds nothing but a directory tree, seen from the directory to which the
names `home` lead from its top. -/
def ofTop (top : Entry) (home : List Text) : Disk Id where
  workingDirectory := home.flatMap (Path.separator :: ·)
  kind path := match top.lookup home path with
    | .ok e => some e.kind
    | .error _ => none
  entries path := match top.lookup home path with
    | .ok e => e.entries.map fun (n, e) => (n, e.kind)
    | .error _ => []
  read path := (top.lookup home path).bind Entry.content
  depth := top.depth

/-- The path without the name of the working directory, if it is given with it. -/
def relative (home path : Text) : Text :=
  if (home ++ [Path.separator]).isPrefixOf path then path.drop (home.length + 1)
  else if path = home then ['.'] else path

/-- The file system that holds nothing but the working directory, which goes by the name of
`home`. -/
def ofTree (home : Text) (tree : Entry) : Disk Id :=
  let disk := ofTop (.directory [(home, tree)]) [home]
  { disk with
    workingDirectory := home
    kind := fun path => disk.kind (relative home path)
    entries := fun path => disk.entries (relative home path)
    read := fun path => disk.read (relative home path) }

end Disk

end ScriptStyle
