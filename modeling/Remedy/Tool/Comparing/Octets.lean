import Remedy.Tool.Comparing.Basic

namespace Remedy.Tool.Comparing

open Unix Files Text.Difference

def shownByte (n : Nat) : String :=
  let (front, n) := if n ≥ 128 then ("M-", n - 128) else ("", n)
  if n < 32 then front ++ "^" ++ String.singleton (Char.ofNat (n + 64))
  else if n = 127 then front ++ "^?"
  else front ++ String.singleton (Char.ofNat n)

def octal (n : Nat) : String := padLeft (String.ofList (Nat.toDigits 8 n)) 3

def cmp (words : List String) : Tool Unit := do
  let g ← given [opt 'b' "print-bytes", opt 'c' "", opt 'i' "ignore-initial" .argument,
    opt 'l' "verbose", opt 'n' "bytes" .argument, opt 's' "silent", long "quiet"] words
  let isSilent := g.has "s" || g.has "quiet"
  let showsBytes := g.has "b" || g.has "c"
  let number (kind s : String) : Tool Nat := do
    match sized "kKMGTPEZY0" s with
    | .ok n => return n
    | .error _ => refuse ("invalid --" ++ kind ++ " value " ++ quotedAlways s)
  if g.has "l" && isSilent then refuse "options -l and -s are incompatible"
  let limit ← (g.argument? "n").mapM (number "bytes")
  let skips ← match g.argument? "i" with
    | none => pure (0, 0)
    | some s =>
      match s.splitOn ":" with
      | first :: c :: rest =>
        if (sized "kKMGTPEZY0" first).toOption.isNone then
          refuse ("invalid --ignore-initial value " ++ quotedAlways s)
        pure (← number "ignore-initial" first, ← number "ignore-initial" (":".intercalate (c :: rest)))
      | _ =>
        let n ← number "ignore-initial" s
        pure (n, n)
  match g.operands with
  | [] => refuse ("missing operand after " ++ quotedAlways (← get).name)
  | first :: rest =>
    match rest[3]? with
    | some extra => refuse ("extra operand " ++ quotedAlways extra)
    | none => pure ()
    let second := rest.headD "-"
    let a ← match rest[1]? with
      | some s => number "ignore-initial" s
      | none => pure skips.1
    let b ← match rest[2]? with
      | some s => number "ignore-initial" s
      | none => pure skips.2
    let read (path : String) (skip : Nat) : Tool (List Char) := do
      match ← readAll path with
      | .ok text =>
        let cs := text.toList.drop skip
        return match limit with
          | some n => cs.take n
          | none => cs
      | .error e =>
        unless isSilent do complain (path ++ ": " ++ e.message)
        setStatus 2
        stop
    if first == second then return
    let x ← read first a
    let y ← read second b
    let width := (toString (min x.length y.length)).length
    let common := x.zip y
    let differing := common.zipIdx.filter fun ((c, d), _) => c != d
    if g.has "l" then
      differing.forM fun ((c, d), i) => do
        let place := padLeft (toString (i + 1)) width
        if showsBytes then
          putLine (place ++ " " ++ octal c.toNat ++ " " ++ padRight (shownByte c.toNat) 4 ++ " " ++
            octal d.toNat ++ " " ++ shownByte d.toNat)
        else putLine (place ++ " " ++ octal c.toNat ++ " " ++ octal d.toNat)
      if !differing.isEmpty then note 1
    else
      match differing with
      | ((c, d), i) :: _ =>
        note 1
        unless isSilent do
          let line := ((x.take i).filter (· == '\n')).length + 1
          let unit := if showsBytes then "byte " else "char "
          put (first ++ " " ++ second ++ " differ: " ++ unit ++ toString (i + 1) ++ ", line " ++
            toString line)
          if showsBytes then
            put (" is " ++ octal c.toNat ++ " " ++ shownByte c.toNat ++ " " ++ octal d.toNat ++ " " ++
              shownByte d.toNat)
          put "\n"
      | [] => pure ()
    if (g.has "l" || differing.isEmpty) && x.length ≠ y.length then
      note 1
      unless isSilent do
        let short := if x.length < y.length then x else y
        let path := if x.length < y.length then first else second
        let lines := (short.filter (· == '\n')).length
        let place :=
          if short.isEmpty then " which is empty"
          else " after byte " ++ toString short.length ++
            if g.has "l" then ""
            else if short.getLast? == some '\n' then ", line " ++ toString lines
            else ", in line " ++ toString (lines + 1)
        writeError ((← get).name ++ ": EOF on " ++ path ++ place ++ "\n")

end Remedy.Tool.Comparing
