import ScriptStyle.Source.Model
import ScriptStyle.Settings.Basic
import ScriptStyle.Pattern.Read
import ScriptStyle.Lint.Diagnostic

/-!
# Names

The names of variables, constants, functions and classes have to match patterns. A pattern has to
match the whole of a name, so it is read between the two assertions that only the whole text
satisfies. Declarations by the word `var` are reported whatever their names are.
-/

namespace ScriptStyle

/-- The kinds of names that have patterns of their own. -/
inductive NameKind where
  | variableName | constantName | functionName | className
deriving DecidableEq, Repr

namespace NameKind

/-- All kinds, in the order in which their patterns are read. -/
def all : List NameKind := [variableName, constantName, functionName, className]

/-- What messages call a name of the kind. -/
def label : NameKind → String
  | variableName => "variable"
  | constantName => "const"
  | functionName => "function"
  | className => "class"

/-- The kind of the names that a declaration binds. -/
def ofDeclaration : DeclarationKind → NameKind
  | .const => constantName
  | .let_ | .var => variableName

/-- The pattern that the settings give for the kind. -/
def setting (k : NameKind) (s : NamingPatterns) : Option Text :=
  match k with
  | variableName => s.variableNames
  | constantName => s.constantNames
  | functionName => s.functionNames
  | className => s.classNames

end NameKind

/-- A pattern that could not be read. -/
structure PatternError where
  /-- The kind of names that it is for. -/
  kind : NameKind
  /-- The pattern as it was written. -/
  pattern : Text
deriving DecidableEq, Repr

namespace PatternError

/-- What is said about the pattern. -/
def message (e : PatternError) : Text :=
  "invalid ".toList ++ e.kind.label.toList ++ " naming pattern '".toList ++ e.pattern ++ ['\'']

end PatternError

/-- A pattern for names together with the way it was written. -/
structure NamePattern where
  /-- The pattern as it was written. -/
  written : Text
  /-- The pattern for the whole of a name. -/
  whole : Pattern

namespace NamePattern

/-- A pattern between the assertions that it begins and ends with the text. -/
def wrap (written : Text) : Text := "^(?:".toList ++ written ++ ")$".toList

/-- The pattern that a text spells. -/
def ofText? (written : Text) : Option NamePattern :=
  (Pattern.ofText? (wrap written)).map (⟨written, ·⟩)

/-- The name is as the pattern wants it. -/
def accepts (p : NamePattern) (name : Text) : Bool := p.whole.isMatch name

end NamePattern

/-- The patterns for all kinds of names. A kind without a pattern admits every name. -/
structure NameRules where
  variableNames : Option NamePattern := none
  constantNames : Option NamePattern := none
  functionNames : Option NamePattern := none
  classNames : Option NamePattern := none

namespace NameRules

/-- The pattern for a kind of names. -/
def pattern? (r : NameRules) : NameKind → Option NamePattern
  | .variableName => r.variableNames
  | .constantName => r.constantNames
  | .functionName => r.functionNames
  | .className => r.classNames

/-- The pattern that the settings give for a kind of names, read. -/
def compile (s : NamingPatterns) (k : NameKind) : Except PatternError (Option NamePattern) :=
  match k.setting s with
  | none => .ok none
  | some written => match NamePattern.ofText? written with
    | some p => .ok (some p)
    | none => .error ⟨k, written⟩

/-- The patterns that the settings give, or the first that cannot be read. -/
def ofSettings (s : NamingPatterns) : Except PatternError NameRules := do
  let variableNames ← compile s .variableName
  let constantNames ← compile s .constantName
  let functionNames ← compile s .functionName
  let classNames ← compile s .className
  return { variableNames, constantNames, functionNames, classNames }

end NameRules

namespace Naming

/-- What is said about a declaration by `var`. -/
def varMessage : Text := "shouldn't use Var".toList

/-- What is said about a name that is not as its pattern wants it. -/
def nameMessage (k : NameKind) (name : Text) (p : NamePattern) : Text :=
  k.label.toList ++ " name ".toList ++ name ++ " not in pattern ".toList ++ p.written

/-- What is said about a name. -/
def nameMessages (r : NameRules) (k : NameKind) (i : Identifier) : List Text :=
  match r.pattern? k with
  | none => []
  | some p => if p.accepts i.name then [] else [nameMessage k i.name p]

/-- What is said about a statement, whatever stands in its body. -/
def messages (r : NameRules) : Statement → List Text
  | .simple (.declaration kind names) _ =>
    (if kind = .var then [varMessage] else []) ++
      names.flatMap (nameMessages r (.ofDeclaration kind))
  | .compound (.function name) _ _ => name.toList.flatMap (nameMessages r .functionName)
  | .compound (.classBody name) _ _ => name.toList.flatMap (nameMessages r .className)
  | _ => []

/-- The warnings about a source, in the order of its statements. -/
def check (r : NameRules) (m : Model) : List Diagnostic :=
  (Statement.preorderAll m.program).flatMap fun s =>
    (messages r s).map (.warning .correctNaming · m.filename s.span.start.line)

end Naming

end ScriptStyle
