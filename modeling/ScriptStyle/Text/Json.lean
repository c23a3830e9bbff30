import ScriptStyle.Json.Value
import ScriptStyle.Text.Position

/-!
# Positions and spans in JSON
-/

namespace ScriptStyle

/-- A position as an object. -/
def Position.value (p : Position) : Json.Value :=
  .object [("line".toList, .number p.line), ("column".toList, .number p.column)]

/-- A span as an object of its two ends. -/
def Span.value (s : Span) : Json.Value :=
  .object [("start".toList, s.start.value), ("end".toList, s.stop.value)]

end ScriptStyle
