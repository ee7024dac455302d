import Remedy.Tool.Input

namespace Remedy.Tool.Shuffling

open Unix Files

/-- Where lots are drawn from: octets that were not used yet, and what is left of the last draw, a
number and the greatest one it could have been. -/
structure Urn where
  octets : List UInt8
  number : Nat := 0
  most : Nat := 0

def Urn.draw (bound : Nat) : Nat → Urn → Option (Nat × Urn)
  | 0, _ => none
  | n + 1, u =>
    if u.most < bound then
      match u.octets with
      | [] => none
      | b :: rest =>
        draw bound n { octets := rest, number := u.number * 256 + b.toNat,
                       most := u.most * 256 + 255 }
    else if u.most = bound then some (u.number, { u with number := 0, most := 0 })
    else
      let choices := bound + 1
      let excess := u.most - bound
      let unusable := excess % choices
      if u.number ≤ u.most - unusable then
        some (u.number % choices,
          { u with number := u.number / choices, most := excess / choices })
      else draw bound n { u with number := u.number % choices, most := unusable - 1 }

/-- The first of some things in an order drawn by lot. -/
def permuted (xs : Array α) (count : Nat) (u : Urn) : Option (List α) :=
  let rec go : Nat → Nat → Array α → Urn → Option (List α)
    | 0, _, _, _ => some []
    | k + 1, i, xs, u => do
      let (n, u) ← if xs.size - i ≤ 1 then some (0, u) else u.draw (xs.size - 1 - i) 10000
      let x ← xs[i + n]?
      let y ← xs[i]?
      let rest ← go k (i + 1) (xs.setIfInBounds (i + n) y) u
      return x :: rest
  go (min count xs.size) 0 xs u

def repeated (xs : Array α) (count : Nat) (u : Urn) : Option (List α) :=
  let rec go : Nat → Urn → Option (List α)
    | 0, _ => some []
    | k + 1, u => do
      let (n, u) ← if xs.size ≤ 1 then some (0, u) else u.draw (xs.size - 1) 10000
      let x ← xs[n]?
      return x :: (← go k u)
  go count u

def urn (source : String) (count : Nat) : Tool Urn := do
  match ← sys (.open source .input) with
  | .error e => fail 1 (quoted source ++ ": " ++ e.message)
  | .ok fd =>
    let data ← act (Act.repeatUntil (fun (got : ByteArray) => do
      match ← Act.ask (.read fd (count - got.size)) with
      | .error _ => return .inr got
      | .ok data =>
        let got := got ++ data
        return if data.isEmpty || got.size ≥ count then .inr got else .inl got)
      (fun got => got) Act.limit .empty)
    let _ ← sys (.close fd)
    return { octets := data.toList }

def rangeOf (text : String) : Tool (List String) := do
  let bad : Tool (List String) := fail 1 ("invalid input range: " ++ marked text)
  match text.splitOn "-" with
  | [low, high] =>
    match natural? low, natural? high with
    | some m, some n =>
      if m ≤ n + 1 then return (List.range (n + 1 - m)).map fun i => toString (m + i)
      else bad
    | _, _ => bad
  | _ => bad

def shuf (words : List String) : Tool Unit := do
  let g ← given [opt 'n' "head-count" .argument, opt 'e' "echo", opt 'i' "input-range" .argument,
    opt 'r' "repeat", opt 'o' "output" .argument, opt 'z' "zero-terminated",
    long "random-source" .argument] words
  if (g.argumentsOf "i").length > 1 then fail 1 "multiple -i options specified"
  let range ← match g.argument? "i" with
    | some text => some <$> rangeOf text
    | none => pure none
  let counts ← (g.argumentsOf "n").mapM fun text =>
    match sized "" text with
    | .ok n => pure n
    | .error .tooGreat => pure (twoTo 63)
    | .error _ => fail 1 ("invalid line count: " ++ marked text)
  let count := counts.foldl (fun least n => some (min n (least.getD n))) none
  let outputs := g.argumentsOf "o"
  if outputs.any (· != outputs.headD "") then fail 1 "multiple output files specified"
  if g.has "e" && range.isSome then refuse 1 "cannot combine -e and -i options"
  if !g.has "e" then bound g (if range.isSome then 0 else 1)
  let ending := if g.has "z" then '\x00' else '\n'
  let lines ← match range with
    | some lines => pure lines
    | none =>
      if g.has "e" then pure g.operands
      else
        match ← readAll (g.operands.headD "-") with
        | .ok text => pure (linesOf text ending).1
        | .error e =>
          fail 1 ((if e = .isDirectory then "read error" else quoted (g.operands.headD "-")) ++
            ": " ++ e.message)
  let wanted := count.getD (if g.has "r" then 100000 else lines.length)
  if g.has "r" && lines.isEmpty && wanted > 0 then fail 1 "no lines to repeat"
  let source := (g.argument? "random-source").getD "/dev/urandom"
  let drawn ←
    if lines.length ≤ 1 && !g.has "r" then pure (some (lines.take wanted))
    else do
      let u ← urn source (8 * (min wanted 100000 + 1))
      pure (if g.has "r" then repeated lines.toArray (min wanted 100000) u
        else permuted lines.toArray wanted u)
  match drawn with
  | none => fail 1 (quotedAlways source ++ ": end of file")
  | some drawn =>
    let text := unlines drawn true (String.singleton ending)
    match outputs.head? with
    | none => put text
    | some path =>
      match ← sys (.open path .output) with
      | .ok fd =>
        let _ ← act (Act.writeTo fd text)
        let _ ← sys (.close fd)
      | .error e => fail 1 (quoted path ++ ": " ++ e.message)

def catalogue : List (String × (List String → Tool Unit)) := [("shuf", shuf)]

end Remedy.Tool.Shuffling
