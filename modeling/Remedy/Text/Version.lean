namespace Remedy.Text.Version

def rank : Option Char → Int
  | none => 0
  | some c =>
    if c.isDigit then 0
    else if c.isAlpha then c.toNat
    else if c == '~' then -1
    else c.toNat + 256

/-- Compares the parts in front of numbers; what follows is left. -/
def compareText : Nat → List Char → List Char → Ordering × List Char × List Char
  | 0, a, b => (.eq, a, b)
  | n + 1, a, b =>
    let inText (cs : List Char) : Bool := cs.head?.any (!·.isDigit)
    if inText a || inText b then
      let x := rank a.head?
      let y := rank b.head?
      if x < y then (.lt, a, b)
      else if y < x then (.gt, a, b)
      else compareText n (a.drop 1) (b.drop 1)
    else (.eq, a, b)

/-- Compares the numbers in front by their lengths without zeros, then digit by digit. -/
def compareNumber (a b : List Char) : Ordering × List Char × List Char :=
  let m := a.takeWhile Char.isDigit
  let n := b.takeWhile Char.isDigit
  let x := m.dropWhile (· == '0')
  let y := n.dropWhile (· == '0')
  let o := match compare x.length y.length with
    | .eq => compareOfLessAndEq (String.ofList x) (String.ofList y)
    | o => o
  (o, a.drop m.length, b.drop n.length)

def compareParts : Nat → List Char → List Char → Ordering
  | 0, _, _ => .eq
  | fuel + 1, a, b =>
    match a, b with
    | [], [] => .eq
    | a, b =>
      match compareText (a.length + b.length + 1) a b with
      | (.eq, a, b) =>
        match compareNumber a b with
        | (.eq, a, b) => compareParts fuel a b
        | (o, _, _) => o
      | (o, _, _) => o

def stem (cs : List Char) : List Char :=
  let rec go : Nat → List Char → List Char
    | 0, reversed => reversed
    | n + 1, reversed =>
      let ending := reversed.takeWhile fun c => c.isAlphanum || c == '~'
      match reversed.drop ending.length with
      | '.' :: rest =>
        if ending.getLast?.any fun c => c.isAlpha || c == '~' then go n rest else reversed
      | _ => reversed
  (go cs.length cs.reverse).reverse

def compareNames (a b : String) : Ordering :=
  let x := a.toList
  let y := b.toList
  if x = y then .eq
  else
    let special (cs : List Char) : Nat :=
      if cs = [] then 0 else if cs = ['.'] then 1 else if cs = ['.', '.'] then 2
      else if cs.head? = some '.' then 3 else 4
    match compare (special x) (special y) with
    | .eq =>
      let bare (cs : List Char) : List Char := if cs.head? = some '.' then cs.drop 1 else cs
      let x := bare x
      let y := bare y
      match compareParts (x.length + y.length + 1) (stem x) (stem y) with
      | .eq =>
        match compareParts (x.length + y.length + 1) x y with
        | .eq => compareOfLessAndEq a b
        | o => o
      | o => o
    | o => o

end Remedy.Text.Version
