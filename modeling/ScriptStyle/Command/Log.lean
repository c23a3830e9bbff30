import ScriptStyle.Json.Value
import ScriptStyle.Command.Arguments

/-!
# The log of a run

A log record has a level, a target that says which part of the program speaks, a message, and named
values. A filter is a list of rules, each of which lets the records of a target through down to
some level; the most specific rule for a target decides, and records that no rule speaks about are
dropped. Rules may also speak about spans of a run. No record is made inside a span, so such a rule
only has to be well formed.
-/

namespace ScriptStyle.Command

/-- How much a log record matters; a greater number stands for a finer level. -/
inductive LogLevel where
  | error | warn | info | debug | trace
deriving DecidableEq, Repr

namespace LogLevel

/-- All levels. -/
def all : List LogLevel := [error, warn, info, debug, trace]

/-- The number of a level. -/
def number : LogLevel → Nat
  | error => 1
  | warn => 2
  | info => 3
  | debug => 4
  | trace => 5

/-- The word for a level. -/
def word : LogLevel → String
  | error => "ERROR"
  | warn => "WARN"
  | info => "INFO"
  | debug => "DEBUG"
  | trace => "TRACE"

end LogLevel

/-- The value of a field of a log record. -/
inductive LogValue where
  | number (n : Nat)
  | text (t : Text)
deriving DecidableEq, Repr

namespace LogValue

/-- The value without quotes. -/
def plain : LogValue → Text
  | number n => Json.decimal n
  | text t => t

/-- The value in JSON. -/
def value : LogValue → Json.Value
  | number n => .number n
  | text t => .text t

end LogValue

/-- A line of the log. -/
structure LogRecord where
  /-- How much it matters. -/
  level : LogLevel
  /-- Which part of the program it comes from. -/
  target : String
  /-- What happened. -/
  message : String
  /-- What it happened to. -/
  fields : List (String × LogValue) := []
deriving DecidableEq, Repr

namespace LogRecord

/-- A text of a least length, filled with blanks on its left. -/
def padded (width : Nat) (t : Text) : Text := List.replicate (width - t.length) ' ' ++ t

/-- The record as one line for a reader. -/
def compact (r : LogRecord) : Text :=
  padded 5 r.level.word.toList ++ ' ' :: r.target.toList ++ ':' :: ' ' :: r.message.toList ++
    r.fields.flatMap fun (name, v) => ' ' :: name.toList ++ '=' :: v.plain

/-- The record as an object. -/
def value (r : LogRecord) : Json.Value :=
  .object (
    [("level".toList, .word r.level.word), ("message".toList, .word r.message)] ++
    r.fields.map (fun (name, v) => (name.toList, v.value)) ++
    [("target".toList, .word r.target)])

/-- The record in a format. -/
def render (r : LogRecord) : LogFormat → Text
  | .compact => r.compact
  | .json => Json.compact r.value

end LogRecord

/-- A rule of a log filter. -/
structure LogRule where
  /-- What the target of a record has to begin with. -/
  target : Option Text
  /-- The number of the finest level that is let through. -/
  limit : Nat
  /-- The rule is about spans. -/
  aboutSpans : Bool
deriving DecidableEq, Repr

/-- Why a log filter cannot be used. -/
inductive LogFilterError where
  | malformed | unknownLevel
deriving DecidableEq, Repr

namespace LogFilterError

/-- What is said about it. -/
def message : LogFilterError → Text
  | malformed => "invalid filter directive".toList
  | unknownLevel =>
    ("error parsing level filter: expected one of \"off\", \"error\", \"warn\", \"info\", " ++
      "\"debug\", \"trace\", or a number 0-5").toList

end LogFilterError

namespace LogRule

/-- The finest level of all. -/
def finest : Nat := LogLevel.trace.number

/-- A number without a sign or with a plus. -/
def natural? (t : Text) : Option Nat :=
  let digits := match t with
    | '+' :: ds => ds
    | ds => ds
  if digits.isEmpty || !digits.all Char.isDigit then none
  else some (digits.foldl (fun n c => 10 * n + (c.toNat - '0'.toNat)) 0)

/-- The number of a level from its word, whatever its case, or from its digit. -/
def limit? (t : Text) : Option Nat :=
  match natural? t with
  | some n => if n ≤ finest then some n else none
  | none =>
    let word := t.map Char.toUpper
    if word = "OFF".toList then some 0
    else (LogLevel.all.find? (·.word.toList = word)).map (·.number)

/-- The level behind an equals sign. Nothing there stands for the finest level. -/
def limitOf (t : Text) : Except LogFilterError Nat :=
  if t.isEmpty then .ok finest
  else match limit? t with
    | some n => .ok n
    | none => .error .unknownLevel

/-- What follows the description of a span: a level or nothing. -/
def spanRule (target : Option Text) : Text → Except LogFilterError LogRule
  | [] => .ok ⟨target, finest, true⟩
  | '=' :: level => (limitOf level).map (⟨target, ·, true⟩)
  | _ => .error .malformed

/-- A description of a span behind its opening bracket: a name, and a field in braces. -/
def span (target : Option Text) (t : Text) : Except LogFilterError LogRule :=
  let isStop := fun c : Char => c = ']' || c = Json.openBrace
  match t.dropWhile (!isStop ·) with
  | [] => .error .malformed
  | c :: rest =>
    if c = ']' then spanRule target rest
    else
      match rest.dropWhile (· != Json.closeBrace) with
      | _ :: ']' :: after =>
        if rest.head? = some Json.closeBrace then .error .malformed else spanRule target after
      | _ => .error .malformed

/-- The character may begin a target. -/
def beginsTarget (c : Char) : Bool := c.isAlphanum || c = '-' || c = ':' || c = '_'

/-- A rule from its text. -/
def ofText (t : Text) : Except LogFilterError LogRule :=
  match t with
  | [] => .error .malformed
  | '[' :: rest => span none rest
  | c :: _ =>
    if !beginsTarget c then .error .malformed
    else
      let target := t.takeWhile fun c => c != '=' && c != '['
      match t.drop target.length with
      | '[' :: rest => span (some target) rest
      | _ :: level => (limitOf level).map (⟨some target, ·, false⟩)
      | [] => match limit? t with
        | some n => .ok ⟨none, n, false⟩
        | none => .ok ⟨some t, finest, false⟩

/-- The rule speaks about the records of a target. -/
def covers (r : LogRule) (target : Text) : Bool :=
  !r.aboutSpans && match r.target with
    | none => true
    | some t => t.isPrefixOf target

/-- How specific a rule is. -/
def weight (r : LogRule) : Nat :=
  match r.target with
  | none => 0
  | some t => t.length + 1

end LogRule

/-- The rules that decide which log records are printed. -/
structure LogFilter where
  /-- The rules. -/
  rules : List LogRule

namespace LogFilter

/-- The stretches between commas. -/
def pieces : Text → List Text
  | [] => [[]]
  | c :: cs =>
    if c = ',' then [] :: pieces cs
    else match pieces cs with
      | [] => [[c]]
      | s :: ss => (c :: s) :: ss

/-- A text without blanks at its ends. -/
def trimmed (t : Text) : Text :=
  ((t.dropWhile Char.isWhitespace).reverse.dropWhile Char.isWhitespace).reverse

/-- The rule of a filter without any. -/
def fallback : LogRule := ⟨none, LogLevel.error.number, false⟩

/-- A filter from its text, rules separated by commas. -/
def ofText (t : Text) : Except LogFilterError LogFilter := do
  let rules ← ((pieces t).filter (!·.isEmpty)).mapM fun piece => LogRule.ofText (trimmed piece)
  return ⟨if rules.isEmpty then [fallback] else rules⟩

/-- The rule that decides about a target: the most specific one, and of several the last. -/
def rule? (f : LogFilter) (target : Text) : Option LogRule :=
  (f.rules.filter (·.covers target)).foldl (fun best r => match best with
    | none => some r
    | some b => if b.weight ≤ r.weight then some r else some b) none

/-- The filter lets a record through. -/
def admits (f : LogFilter) (r : LogRecord) : Bool :=
  (f.rule? r.target.toList).any (r.level.number ≤ ·.limit)

end LogFilter

end ScriptStyle.Command
