import ScriptStyle.Json.Value
import ScriptStyle.Lint.Diagnostic

/-!
# Diagnostics in JSON

A diagnostic is written with the line as its check counted it, and says how that was.
-/

namespace ScriptStyle.Diagnostic

/-- A diagnostic as an object. -/
def value (d : Diagnostic) : Json.Value :=
  .object [
    ("severity".toList, .word d.severity.name),
    ("check".toList, .word d.check.name),
    ("message".toList, .text d.message),
    ("filename".toList, .text d.filename),
    ("line".toList, .number d.line),
    ("line_base".toList, .word d.lineBase.name)]

end ScriptStyle.Diagnostic
