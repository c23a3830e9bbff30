import ScriptStyle.Command.Similar

/-!
# Command-line arguments

Arguments are read from left to right. An option that waits for its value, and paths that have been
gathered, are settled when the next option comes or nothing is left; only then is their value
looked at. An argument that nobody knows is reported without regard to what came before it.
-/

namespace ScriptStyle.Command

/-- How findings are to be printed. -/
inductive OutputFormat where
  | auto | human | json
deriving DecidableEq, Repr

namespace OutputFormat

/-- All formats, in the order in which they are listed. -/
def all : List OutputFormat := [auto, human, json]

/-- The word for a format. -/
def word : OutputFormat → String
  | auto => "auto"
  | human => "human"
  | json => "json"

/-- The format with a word. -/
def ofWord? (t : Text) : Option OutputFormat := all.find? (·.word.toList = t)

end OutputFormat

/-- How log records are printed. -/
inductive LogFormat where
  | compact | json
deriving DecidableEq, Repr

namespace LogFormat

/-- All formats. -/
def all : List LogFormat := [compact, json]

/-- The word for a format. -/
def word : LogFormat → String
  | compact => "compact"
  | json => "json"

/-- The format with a word, whatever its case. -/
def ofWord? (t : Text) : Option LogFormat := all.find? (·.word.toList = t.map Char.toLower)

/-- The format with exactly a word. -/
def ofExactWord? (t : Text) : Option LogFormat := all.find? (·.word.toList = t)

/-- What is said about a word that no format has. -/
def unknownMessage : Text := "Matching variant not found".toList

end LogFormat

/-- The filter of log records if none is given. -/
def defaultLogFilter : Text := "warn".toList

/-- What is to be linted and how. -/
structure Options where
  /-- Files and directories; none stands for the working directory. -/
  paths : List Text := []
  /-- The file with the settings. -/
  config : Option Text := none
  /-- How findings are printed. -/
  output : Option OutputFormat := none
  /-- Which log records are printed. -/
  logFilter : Option Text := none
  /-- How log records are printed. -/
  logFormat : Option LogFormat := none

/-- What the arguments ask for. -/
inductive Request where
  | lint (options : Options)
  | shortHelp | longHelp | version

/-- The options that take a value. -/
inductive Parameter where
  | config | output | logFilter | logFormat
deriving DecidableEq, Repr

namespace Parameter

/-- All of them. -/
def all : List Parameter := [config, output, logFilter, logFormat]

/-- The name behind two hyphens. -/
def name : Parameter → String
  | config => "config"
  | output => "output"
  | logFilter => "log-filter"
  | logFormat => "log-format"

/-- The name with a word for the value. -/
def usage : Parameter → String
  | config => "--config <FILE>"
  | output => "--output <OUTPUT>"
  | logFilter => "--log-filter <FILTER>"
  | logFormat => "--log-format <FORMAT>"

end Parameter

/-- What is wrong with the arguments. -/
inductive UsageError where
  /-- Something has no value. -/
  | missingValue (what : String) (choices : List OutputFormat)
  /-- A value that is none of the choices. -/
  | unknownChoice (value : Text) (what : String)
  /-- A value that its reader refuses. -/
  | badValue (value : Text) (what : String) (reason : Text)
  /-- An option that was given before. -/
  | repeated (what : String)
  /-- An option that does not exist, one with a similar name, and what was given so far. -/
  | unknown (argument : Text) (similar : Option Text) (given : List Text)
  /-- A value for something that takes none. -/
  | superfluousValue (value : Text) (what : Text) (given : List Text)

/-- What waits to be settled. -/
inductive Pending where
  | nothing
  | paths (ps : List Text)
  | value (p : Parameter) (v : Option Text)

/-- What has been read of the arguments. -/
structure Progress where
  /-- What was settled. -/
  options : Options := {}
  /-- The options that were settled, in this order. -/
  given : List Parameter := []
  /-- What waits to be settled. -/
  pending : Pending := .nothing

namespace Progress

/-- A value given to an option. -/
def assign (o : Options) (v : Text) : Parameter → Except UsageError Options
  | .config =>
    if v = [] then .error (.missingValue Parameter.config.usage []) else .ok { o with config := v }
  | .output =>
    if v = [] then .error (.missingValue Parameter.output.usage OutputFormat.all)
    else match OutputFormat.ofWord? v with
      | some f => .ok { o with output := f }
      | none => .error (.unknownChoice v Parameter.output.usage)
  | .logFilter => .ok { o with logFilter := v }
  | .logFormat => match LogFormat.ofWord? v with
    | some f => .ok { o with logFormat := f }
    | none => .error (.badValue v Parameter.logFormat.usage LogFormat.unknownMessage)

/-- The formats to list where an option has no value. -/
def choices : Parameter → List OutputFormat
  | .output => OutputFormat.all
  | _ => []

/-- How paths are called. -/
def pathsUsage : String := "[PATH]..."

/-- What waits is settled. -/
def settle (s : Progress) : Except UsageError Progress :=
  match s.pending with
  | .nothing => .ok s
  | .paths ps =>
    if ps.contains [] then .error (.missingValue pathsUsage [])
    else .ok { s with
      options := { s.options with paths := s.options.paths ++ ps }, pending := .nothing }
  | .value p none => .error (.missingValue p.usage (choices p))
  | .value p (some v) =>
    if s.given.contains p then .error (.repeated p.usage)
    else (assign s.options v p).map fun o =>
      { options := o, given := s.given ++ [p], pending := .nothing }

/-- What was given so far, as it is shown behind the name of the program, if anything was. -/
def shown (s : Progress) : List Text :=
  let given := match s.pending with
    | .value p (some _) => if s.given.contains p then s.given else s.given ++ [p]
    | _ => s.given
  let anyPath := !s.options.paths.isEmpty || match s.pending with
    | .paths _ => true
    | _ => false
  if given.isEmpty && !anyPath then [] else given.map (·.usage.toList) ++ [pathsUsage.toList]

/-- The options without a value. -/
def switches : List String := ["help", "version"]

/-- The error that a long option does not exist. -/
def unknownLong (s : Progress) (name : Text) : UsageError :=
  let hyphens : Text := ['-', '-']
  let names := Parameter.all.map (·.name.toList) ++ switches.map (·.toList)
  match Similarity.best? name names with
  | none => .unknown (hyphens ++ name) none s.shown
  | some n =>
    let usage := match Parameter.all.find? (·.name.toList = n) with
      | some p => p.usage.toList
      | none => hyphens ++ n
    let given := s.shown.filter (· != pathsUsage.toList)
    let given := if given.contains usage then given else given ++ [usage]
    .unknown (hyphens ++ name) (some (hyphens ++ n)) (given ++ [pathsUsage.toList])

/-- An argument that is no option. -/
def value (s : Progress) (t : Text) (onlyPaths : Bool) : Except UsageError Progress :=
  match s.pending with
  | .value p none =>
    if onlyPaths then s.settle else .ok { s with pending := .value p (some t) }
  | .paths ps => .ok { s with pending := .paths (ps ++ [t]) }
  | _ => do
    let s ← s.settle
    return { s with pending := .paths [t] }

/-- A long option that takes a value, with the value if one is attached. -/
def parameter (s : Progress) (p : Parameter) (attached : Option Text) :
    Except UsageError Progress := do
  let s ← s.settle
  let s : Progress := { s with pending := .value p attached }
  if attached.isSome then s.settle else return s

/-- A long option cut at its equals sign. -/
def cut (t : Text) : Text × Option Text :=
  match t.dropWhile (· != '=') with
  | _ :: v => (t.takeWhile (· != '='), some v)
  | [] => (t, none)

/-- A long option: what it asks for, or the progress that it makes. -/
def long (s : Progress) (t : Text) : Except UsageError (Request ⊕ Progress) :=
  let (name, attached) := cut t
  match Parameter.all.find? (·.name.toList = name) with
  | some p => (s.parameter p attached).map .inr
  | none =>
    if switches.any (·.toList = name) then
      match attached with
      | some v => .error (.superfluousValue v ('-' :: '-' :: name) s.shown)
      | none => s.settle.map fun _ =>
        .inl (if name = "help".toList then .longHelp else .version)
    else .error (s.unknownLong name)

/-- A short option, told by its first character. -/
def short (s : Progress) (c : Char) : Except UsageError Request :=
  if c = 'h' then s.settle.map fun _ => .shortHelp
  else if c = 'V' then s.settle.map fun _ => .version
  else .error (.unknown ['-', c] none [])

/-- The arguments that are left. -/
def read (onlyPaths : Bool) (s : Progress) : List Text → Except UsageError Request
  | [] => s.settle.map fun s => .lint s.options
  | t :: ts =>
    if onlyPaths then (s.value t true).bind fun s => read true s ts
    else match t with
      | ['-', '-'] => read true s ts
      | '-' :: '-' :: r => (s.long r).bind fun
        | .inl request => .ok request
        | .inr s => read false s ts
      | '-' :: c :: _ => s.short c
      | t => (s.value t false).bind fun s => read false s ts

end Progress

/-- What some arguments ask for. -/
def Request.ofArguments (ts : List Text) : Except UsageError Request := Progress.read false {} ts

end ScriptStyle.Command
