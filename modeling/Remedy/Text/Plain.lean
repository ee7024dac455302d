namespace Remedy.Text.Plain

inductive Mode where
  | ground
  | escape
  | escapeMiddle
  /-- In a control sequence: at its beginning, in its parameters, behind them, or in a wrong one. -/
  | control
  | parameters
  | controlMiddle
  | ignored
  | command
  | data
deriving DecidableEq, Repr

def step (mode : Mode) (c : Char) : Option Mode × Bool :=
  let isWithin (low high : Char) : Bool := low ≤ c && c ≤ high
  if c == '\x18' || c == '\x1a' then (some .ground, false)
  else if c == '\x1b' then (some .escape, false)
  else if c < ' ' then
    match mode with
    | .command => (if c == '\x07' then some .ground else none, false)
    | .data => (none, false)
    | _ => (none, c == '\t' || c == '\n' || c == '\x0c' || c == '\r')
  else if c ≥ '\x7f' then (none, mode == .ground && c != '\x7f')
  else
    match mode with
    | .ground => (none, true)
    | .escape =>
      if isWithin ' ' '/' then (some .escapeMiddle, false)
      else if c == '[' then (some .control, false)
      else if c == ']' then (some .command, false)
      else if c == 'P' || c == 'X' || c == '^' || c == '_' then (some .data, false)
      else (some .ground, false)
    | .escapeMiddle => (if isWithin '0' '~' then some .ground else none, false)
    | .control =>
      if isWithin ' ' '/' then (some .controlMiddle, false)
      else if isWithin '0' '?' then (some .parameters, false)
      else (some .ground, false)
    | .parameters =>
      if isWithin '0' ';' then (none, false)
      else if isWithin '<' '?' then (some .ignored, false)
      else if isWithin ' ' '/' then (some .controlMiddle, false)
      else (some .ground, false)
    | .controlMiddle =>
      if isWithin ' ' '/' then (none, false)
      else if isWithin '0' '?' then (some .ignored, false)
      else (some .ground, false)
    | .ignored => (if isWithin '@' '~' then some .ground else none, false)
    | .command | .data => (none, false)

/-- What is shown of a text. While a stretch is shown it is read as if no sequence had begun; the mode
of before comes back behind it. -/
def shown : Mode → Bool → List Char → List Char
  | _, _, [] => []
  | mode, isShowing, c :: rest =>
    let (next, isShown) := step (if isShowing then .ground else mode) c
    let mode := next.getD mode
    if isShown then c :: shown mode true rest
    else if isShowing then
      -- the character that ends a stretch is read again in its mode
      let (next, isShown) := step mode c
      let mode := next.getD mode
      if isShown then c :: shown mode true rest else shown mode false rest
    else shown mode false rest

def ofText (s : String) : String := String.ofList (shown .ground false s.toList)

end Remedy.Text.Plain
