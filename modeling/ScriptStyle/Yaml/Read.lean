import ScriptStyle.Yaml.Scalar

/-!
# Reading YAML

Block collections are told from their context by columns: an entry belongs to the collection that
began in its column. A block collection begins on a line of its own, or behind the sign of an entry,
but never behind a key on the same line. Flow collections do not look at columns as long as they
stay right of what contains them.
-/

namespace ScriptStyle.Yaml

/-- What has been read of a document. -/
structure State where
  /-- The column of what follows. -/
  column : Nat
  /-- A tab stands somewhere before it on its line. -/
  tabbed : Bool
  /-- What follows. -/
  rest : Text
  /-- The nodes that have a name so far. -/
  anchors : List (Text × Node)

/-- A reading that may fail. -/
abbrev Read := StateT State Option

namespace Read

/-- The reading fails. -/
def fail {α : Type} : Read α := fun _ => none

/-- The state after one character. -/
def State.after (s : State) (c : Char) (cs : Text) : State :=
  if c = '\n' then { s with column := 0, tabbed := false, rest := cs }
  else { s with column := s.column + 1, tabbed := s.tabbed || c = '\t', rest := cs }

/-- The text that follows. -/
def rest : Read Text := do return (← get).rest

/-- The next character. -/
def next? : Read (Option Char) := do return (← get).rest.head?

/-- The next characters are taken, up to the text `r` that follows them. -/
def moveTo (r : Text) : Read Unit :=
  modify fun s =>
    (s.rest.take (s.rest.length - r.length)).foldl (fun s c => State.after s c (s.rest.drop 1)) s

/-- One character is taken. -/
def skip : Read Unit := do moveTo ((← rest).drop 1)

/-- The text behind blanks, line breaks and comments. -/
def gapEnd (comment spaced : Bool) : Text → Text
  | [] => []
  | c :: cs =>
    if comment then gapEnd (c != '\n') true cs
    else if isBlank c || c = '\n' then gapEnd false true cs
    else if c = '#' && spaced then gapEnd true true cs
    else c :: cs

/-- Blanks, line breaks and comments are taken. The answer is whether a line break was among
them. A comment has to be set apart from what stands before it. -/
def separate : Read Bool := do
  let t ← rest
  let r := gapEnd false ((← get).column = 0) t
  moveTo r
  return (t.take (t.length - r.length)).contains '\n'

/-- The document is over: nothing follows, or a mark that ends it. -/
def atEnd : Read Bool := do
  let s ← get
  return s.rest.isEmpty || (s.column = 0 && isMarker s.rest)

/-- A scalar is taken. -/
def scalar (style : Style) (f : Text → Option (Text × Text)) : Read Node := do
  match f (← rest) with
  | some (value, r) =>
    moveTo r
    return .scalar style [] value
  | none => fail

/-- The characters of a name. -/
def name : Read Text := do
  let t := (← rest).takeWhile fun c => !isBlank c && c != '\n' && !isFlowSign c
  moveTo ((← rest).drop t.length)
  if t.isEmpty then fail else return t

/-- The node that an alias refers to. -/
def referent : Read Node := do
  skip
  let n ← name
  match (← get).anchors.find? (·.1 = n) with
  | some (_, v) => return v
  | none => fail

/-- The tag and the name in front of a node, either of which may be missing, and whether a line
break stood behind them. -/
def properties : Nat → Text → Option Text → Bool → Read (Text × Option Text × Bool)
  | 0, tag, anchor, crossed => return (tag, anchor, crossed)
  | fuel + 1, tag, anchor, crossed => do
    match ← next? with
    | some '&' =>
      if anchor.isSome then fail
      skip
      let n ← name
      let c ← separate
      properties fuel tag (some n) (crossed || c)
    | some '!' =>
      if !tag.isEmpty then fail
      let t := (← rest).takeWhile fun c => !isBlank c && c != '\n' && !isFlowSign c
      moveTo ((← rest).drop t.length)
      let c ← separate
      properties fuel t anchor (crossed || c)
    | _ => return (tag, anchor, crossed)

/-- A node with what stood in front of it. -/
def finish (tag : Text) (anchor : Option Text) (n : Node) : Read Node := do
  let n := if tag.isEmpty then n else n.withTag tag
  match anchor with
  | some a => modify fun s => { s with anchors := (a, n) :: s.anchors }
  | none => pure ()
  return n

/-- Blanks and line breaks inside a flow collection. -/
def flowGap (indent : Int) : Read Unit := do
  let crossed ← separate
  let s ← get
  if s.rest.isEmpty || (crossed && (s.column : Int) ≤ indent) || (s.column = 0 && isMarker s.rest)
    then fail

mutual

/-- A node inside a flow collection. -/
def flowNode (indent : Int) : Nat → Read Node
  | 0 => fail
  | fuel + 1 => do
    let (tag, anchor, _) ← properties 3 [] none false
    match ← next? with
    | some '[' =>
      skip
      let items ← flowItems indent fuel
      finish tag anchor (.sequence items)
    | some '*' => if tag.isEmpty && anchor.isNone then referent else fail
    | some '"' | some '\'' => do
      let n ← scalar .quoted (quoted indent)
      finish tag anchor n
    | some c =>
      if c.toNat = 123 then
        skip
        let members ← flowMembers indent fuel
        finish tag anchor (.mapping members)
      else if !startsPlain true (← rest) && (!tag.isEmpty || anchor.isSome) then
        finish tag anchor .nothing
      else
        let n ← scalar .plain (plain true indent)
        finish tag anchor n
    | none => fail

/-- The value behind a colon inside a flow collection. -/
def flowValue (indent : Int) : Nat → Read Node
  | 0 => fail
  | fuel + 1 => do
    skip
    flowGap indent
    match ← next? with
    | some c =>
      if c = ',' || c = ']' || c.toNat = 125 then return .nothing else flowNode indent fuel
    | none => fail

/-- The items of a flow sequence up to its closing bracket. -/
def flowItems (indent : Int) : Nat → Read (List Node)
  | 0 => fail
  | fuel + 1 => do
    flowGap indent
    if (← next?) = some ']' then
      skip
      return []
    let n ← flowNode indent fuel
    flowGap indent
    let n ← if (← next?) = some ':' then do
        let v ← flowValue indent fuel
        flowGap indent
        pure (.mapping [(n, v)])
      else pure n
    match ← next? with
    | some ',' =>
      skip
      let ns ← flowItems indent fuel
      return n :: ns
    | some ']' =>
      skip
      return [n]
    | _ => fail

/-- The members of a flow mapping up to its closing brace. -/
def flowMembers (indent : Int) : Nat → Read (List (Node × Node))
  | 0 => fail
  | fuel + 1 => do
    flowGap indent
    if (← next?).any (·.toNat = 125) then
      skip
      return []
    if (← next?) = some '?' && startsBlank ((← rest).drop 1) then
      skip
      flowGap indent
    let k ← if (← next?) = some ':' && !startsPlain true (← rest) then pure .nothing
      else flowNode indent fuel
    flowGap indent
    let v ← if (← next?) = some ':' then do
        let v ← flowValue indent fuel
        flowGap indent
        pure v
      else pure .nothing
    match ← next? with
    | some ',' =>
      skip
      let ms ← flowMembers indent fuel
      return (k, v) :: ms
    | some c => if c.toNat = 125 then skip; return [(k, v)] else fail
    | none => fail

end

/-- A node that can be a key without a sign in front of it, because it stays on its line and a colon
follows. The colon is taken. -/
def implicitKey (fuel : Nat) : Read Node := do
  let before ← rest
  let (tag, anchor, crossed) ← properties 3 [] none false
  if crossed then fail
  let n ← match ← next? with
    | some '*' => referent
    | some '"' | some '\'' => scalar .quoted (quoted (-1))
    | some c =>
      if c = '[' || c.toNat = 123 then flowNode (-1) fuel
      else scalar .plain fun t =>
        if startsPlain false t then
          let (line, r) := plainLine false [] false t
          some (trimEnd line, r)
        else none
    | none => fail
  let n ← finish tag anchor n
  moveTo ((← rest).dropWhile isBlank)
  let after ← rest
  if (before.take (before.length - after.length)).contains '\n' then fail
  match after with
  | ':' :: r => if startsBlank r then skip; return n else fail
  | _ => fail

/-- The sign of an entry, set apart from what follows it. -/
def atSign (c : Char) : Read Bool := do
  match ← rest with
  | d :: r => return d = c && startsBlank r
  | [] => return false

/-- A tab may not stand before the first entry of a block collection. -/
def noTab : Read Unit := do if (← get).tabbed then fail

mutual

/-- A node in a block context. Block collections other than sequences begin right of `indent`,
sequences in the column `sequenceColumn` at the earliest. With `compact` a block collection may
begin on the line at hand. -/
def node (indent : Int) (sequenceColumn : Int) (compact : Bool) : Nat → Read Node
  | 0 => fail
  | fuel + 1 => do
    let crossed ← separate
    let start ← get
    let outside (crossed : Bool) : Read Bool := do
      let column := (← get).column
      if ← atEnd then return true
      if !crossed || indent < column then return false
      return !((← atSign '-') && sequenceColumn ≤ column)
    if ← outside crossed then return .nothing
    let (tag, anchor, crossed') ← properties 3 [] none false
    let collections := compact || crossed || crossed'
    if ← outside (crossed || crossed') then finish tag anchor .nothing
    else if ← atSign '-' then
      if !collections || (!crossed' && (!tag.isEmpty || anchor.isSome)) then fail
      noTab
      let items ← sequence (← get).column fuel
      finish tag anchor (.sequence items)
    else
      -- what stands in front of a key on its line belongs to the key
      let isKey (s : State) : Bool := ((implicitKey fuel).run s).isSome
      let s ← get
      let first := if crossed' then s else start
      if (← atSign '?') || isKey first then
        if !collections then fail
        set { first with anchors := s.anchors }
        noTab
        let members ← mapping first.column fuel
        if crossed' then finish tag anchor (.mapping members) else return .mapping members
      else match ← next? with
        | some '|' | some '>' =>
          let n ← scalar .block (block indent)
          finish tag anchor n
        | some '*' => if tag.isEmpty && anchor.isNone then referent else fail
        | some '"' | some '\'' =>
          let n ← scalar .quoted (quoted indent)
          finish tag anchor n
        | some c =>
          if c = '[' || c.toNat = 123 then
            let n ← flowNode indent fuel
            finish tag anchor n
          else
            let n ← scalar .plain (plain false indent)
            finish tag anchor n
        | none => fail

/-- The entries of a block sequence, from the sign of one of them on. -/
def sequence (column : Nat) : Nat → Read (List Node)
  | 0 => fail
  | fuel + 1 => do
    skip
    let n ← node column (column + 1) true fuel
    let _ ← separate
    if ← atEnd then return [n]
    let here := (← get).column
    if here < column then return [n]
    else if here = column then
      if ← atSign '-' then
        noTab
        let ns ← sequence column fuel
        return n :: ns
      else return [n]
    else fail

/-- The entries of a block mapping, from one of its keys on. -/
def mapping (column : Nat) : Nat → Read (List (Node × Node))
  | 0 => fail
  | fuel + 1 => do
    let (k, v) ← if ← atSign '?' then do
        skip
        let k ← node column (column + 1) true fuel
        let _ ← separate
        if (← get).column = column && (← atSign ':') then
          skip
          let v ← node column column true fuel
          pure (k, v)
        else pure (k, Node.nothing)
      else do
        let k ← implicitKey fuel
        let v ← node column column false fuel
        pure (k, v)
    let _ ← separate
    if ← atEnd then return [(k, v)]
    let here := (← get).column
    if here < column then return [(k, v)]
    else if here = column then
      noTab
      let ms ← mapping column fuel
      return (k, v) :: ms
    else fail

end

/-- The lines of directives in front of a document, and whether there are any. -/
def directives : Nat → Bool → Read Bool
  | 0, any => return any
  | fuel + 1, any => do
    let _ ← separate
    if (← next?) = some '%' && (← get).column = 0 then
      moveTo ((← rest).dropWhile (· != '\n'))
      directives fuel true
    else return any

/-- A whole text with one document in it. -/
def document (fuel : Nat) : Read Node := do
  let any ← directives fuel false
  let marked := ((← rest).take 3 = ['-', '-', '-']) && (← atEnd)
  if marked then moveTo ((← rest).drop 3)
  else if any then fail
  let n ← node (-1) 0 (!marked) fuel
  let _ ← separate
  if !(← atEnd) then fail
  match ← rest with
  | '.' :: _ =>
    moveTo ((← rest).drop 3)
    let _ ← separate
    return n
  | [] => return n
  | _ => fail

end Read

/-- A text whose lines end in line feeds alone. -/
def normalLines : Text → Text
  | '\r' :: '\n' :: cs => '\n' :: normalLines cs
  | c :: cs => (if c = '\r' then '\n' else c) :: normalLines cs
  | [] => []

/-- The node that a text holds. A mark of the byte order at its beginning does not count. -/
def Node.ofText? (t : Text) : Option Node :=
  let t := normalLines (match t with
    | c :: cs => if c.toNat = 0xFEFF then cs else c :: cs
    | [] => [])
  ((Read.document (4 * t.length + 8)).run ⟨0, false, t, []⟩).map (·.1)

end ScriptStyle.Yaml
