import Remedy.Text.Digest
import Remedy.Tool.Input

namespace Remedy.Tool.Checksums

open Unix Text

structure Kind where
  name : String
  tag : String
  size : Nat
  digest : ByteArray → List UInt8

def kinds : List Kind := [
  ⟨"md5sum", "MD5", 16, Digest.md5⟩,
  ⟨"sha1sum", "SHA1", 20, Digest.sha1⟩,
  ⟨"sha224sum", "SHA224", 28, Digest.sha224⟩,
  ⟨"sha256sum", "SHA256", 32, Digest.sha256⟩,
  ⟨"sha384sum", "SHA384", 48, Digest.sha384⟩,
  ⟨"sha512sum", "SHA512", 64, Digest.sha512⟩]

def Kind.ofText (k : Kind) (text : String) : String :=
  Digest.hexadecimal (k.digest (Octets.toBytes text))

def escaped (name : String) : String × Bool :=
  if name.toList.any fun c => c == '\\' || c == '\n' || c == '\r' then
    (String.join (name.toList.map fun
      | '\\' => "\\\\"
      | '\n' => "\\n"
      | '\r' => "\\r"
      | c => String.singleton c), true)
  else (name, false)

def listed? (k : Kind) (line : String) : Option (String × String) :=
  let cs := line.toList.dropWhile fun c => c == ' ' || c == '\t'
  let tag := (k.tag ++ " (").toList
  if tag.isPrefixOf cs then
    let body := String.ofList (cs.drop tag.length)
    match body.splitOn ") = " with
    | [] | [_] => none
    | pieces =>
      let digest := pieces.getLastD ""
      if digest.length = 2 * k.size then some (digest, ") = ".intercalate pieces.dropLast) else none
  else
    let digits := cs.takeWhile fun c => c.isDigit || ('a' ≤ c.toLower && c.toLower ≤ 'f')
    match cs.drop digits.length with
    | ' ' :: mark :: name =>
      if digits.length = 2 * k.size && (mark == ' ' || mark == '*') && !name.isEmpty then
        some (String.ofList (digits.map Char.toLower), String.ofList name)
      else none
    | _ => none

structure Found where
  read : Nat := 0
  malformed : Nat := 0
  unreadable : Nat := 0
  wrong : Nat := 0
  right : Nat := 0

def plural (n : Nat) (one many : String) : String := if n = 1 then one else many

def check (k : Kind) (g : Given) (path : String) : Tool Unit := do
  let shown := if path == "-" then "'standard input'" else quoted path
  match ← readAll path with
  | .error e =>
    complain (shown ++ ": " ++ e.message)
    note 1
  | .ok text =>
    let quiet := g.has "quiet" || g.has "status"
    let mut f : Found := {}
    for (line, i) in (linesOf text).1.zipIdx do
      if line == "" || line.startsWith "#" then continue
      match listed? k line with
      | none =>
        f := { f with malformed := f.malformed + 1 }
        if g.has "w" then
          complain (shown ++ ": " ++ toString (i + 1) ++ ": improperly formatted " ++ k.tag ++
            " checksum line")
      | some (digest, name) =>
        f := { f with read := f.read + 1 }
        match ← readAll name with
        | .error e =>
          if !(e == .missing && g.has "ignore-missing") then
            complain (quoted name ++ ": " ++ e.message)
            unless g.has "status" do putLine (name ++ ": FAILED open or read")
            f := { f with unreadable := f.unreadable + 1 }
        | .ok text =>
          if k.ofText text == digest then
            f := { f with right := f.right + 1 }
            unless quiet do putLine (name ++ ": OK")
          else
            f := { f with wrong := f.wrong + 1 }
            unless g.has "status" do putLine (name ++ ": FAILED")
    if f.read = 0 then
      complain (shown ++ ": no properly formatted checksum lines found")
      note 1
    else
      unless g.has "status" do
        if f.malformed > 0 then
          complain ("WARNING: " ++ toString f.malformed ++
            plural f.malformed " line is improperly formatted" " lines are improperly formatted")
        if f.unreadable > 0 then
          complain ("WARNING: " ++ toString f.unreadable ++
            plural f.unreadable " listed file could not be read" " listed files could not be read")
        if f.wrong > 0 then
          complain ("WARNING: " ++ toString f.wrong ++
            plural f.wrong " computed checksum did NOT match" " computed checksums did NOT match")
        if f.right = 0 && g.has "ignore-missing" then complain (shown ++ ": no file was verified")
      if f.unreadable > 0 || f.wrong > 0 || (f.malformed > 0 && g.has "strict") ||
        (f.right = 0 && g.has "ignore-missing") then note 1

def digests (k : Kind) (words : List String) : Tool Unit := do
  let g ← given [opt 'b' "binary", opt 'c' "check", opt 't' "text", opt 'w' "warn", opt 'z' "zero",
    long "ignore-missing", long "quiet", long "status", long "strict", long "tag"] words
  let isText := g.last? ["b", "t", "tag"] == some "t"
  if g.has "tag" && isText then refuse 1 "--tag does not support --text mode"
  if g.has "c" then
    if g.has "z" then refuse 1 "the --zero option is not supported when verifying checksums"
    if g.has "tag" then refuse 1 "the --tag option is meaningless when verifying checksums"
    if g.has "b" || g.has "t" then
      refuse 1 "the --binary and --text options are meaningless when verifying checksums"
  else
    let loudness := (g.last? ["status", "w", "quiet"]).map fun key =>
      if key == "w" then "warn" else key
    let useless := (if g.has "ignore-missing" then ["ignore-missing"] else []) ++
      loudness.toList ++ (if g.has "strict" then ["strict"] else [])
    match useless with
    | name :: _ =>
      refuse 1 ("the --" ++ name ++ " option is meaningful only when verifying checksums")
    | [] => pure ()
  if g.has "c" then
    (if g.operands.isEmpty then ["-"] else g.operands).forM (check k g)
  else
    forFiles g.operands fun path text => do
      let digest := k.ofText text
      let (name, isEscaped) := if g.has "z" then (path, false) else escaped path
      let finish := if g.has "z" then "\x00" else "\n"
      let mark := if isEscaped then "\\" else ""
      if g.has "tag" then put (mark ++ k.tag ++ " (" ++ name ++ ") = " ++ digest ++ finish)
      else put (mark ++ digest ++ (if g.last? ["b", "t"] == some "b" then " *" else "  ") ++ name ++
        finish)

def cksum (words : List String) : Tool Unit := do
  let g ← given [opt 'a' "algorithm" .argument, long "untagged", long "tag", opt 'z' "zero"] words
  forFiles g.operands fun path text => do
    let data := Octets.toBytes text
    put (toString (Digest.cyclic data) ++ " " ++ toString data.size ++
      (if g.operands.isEmpty then "" else " " ++ path) ++ "\n")

def sum (words : List String) : Tool Unit := do
  let g ← given [opt 'r' "", opt 's' "sysv"] words
  let showsName := !g.operands.isEmpty
  forFiles g.operands fun path text => do
    let data := Octets.toBytes text
    let blocks (size : Nat) : Nat := (data.size + size - 1) / size
    if g.last? ["r", "s"] == some "s" then
      put (toString (Digest.plain data) ++ " " ++ toString (blocks 512) ++
        (if showsName then " " ++ path else "") ++ "\n")
    else
      let n := toString (Digest.turning data)
      put ("".pushn '0' (5 - n.length) ++ n ++ " " ++ padLeft (toString (blocks 1024)) 5 ++
        (if showsName then " " ++ path else "") ++ "\n")

/-- Digits for so many bits each; `group` of them hold whole octets. -/
structure Code where
  digits : Array Char
  bits : Nat
  group : Nat

def base64Code : Code where
  digits := "ABCDEFGHIJKLMNOPQRSTUVWXYZabcdefghijklmnopqrstuvwxyz0123456789+/".toList.toArray
  bits := 6
  group := 4

def base32Code : Code where
  digits := "ABCDEFGHIJKLMNOPQRSTUVWXYZ234567".toList.toArray
  bits := 5
  group := 8

namespace Code

def encodeGroup (c : Code) (bytes : List UInt8) : List Char :=
  let size := c.group * c.bits / 8
  let n := Digest.bigEndian (bytes ++ List.replicate (size - bytes.length) 0)
  let used := (8 * bytes.length + c.bits - 1) / c.bits
  (List.range c.group).map fun i =>
    if i < used then c.digits.getD (n / twoTo (c.bits * (c.group - 1 - i)) % twoTo c.bits) '='
    else '='

def encode (c : Code) (data : ByteArray) : List Char :=
  let size := c.group * c.bits / 8
  (List.range ((data.size + size - 1) / size)).flatMap fun i =>
    c.encodeGroup (data.extract (i * size) ((i + 1) * size)).toList

/-- The octets of the digits of a group, of which the last may be missing; `none` if they hold no
whole octets. -/
def decodeGroup (c : Code) (digits : List Char) : Option (List UInt8) :=
  let values := digits.filterMap fun d => c.digits.findIdx? (· == d)
  let n := values.foldl (fun n v => n * twoTo c.bits + v) 0 *
    twoTo (c.bits * (c.group - values.length))
  let count := values.length * c.bits / 8
  if values.length * c.bits - 8 * count ≥ c.bits then none
  else some ((Digest.toBigEndian (c.group * c.bits / 8) n).take count)

/-- Decodes groups of digits; `false` says that something was wrong behind what was decoded. -/
def decode (c : Code) : Nat → List Char → List UInt8 → List UInt8 × Bool
  | 0, _, done => (done.reverse, true)
  | _, [], done => (done.reverse, true)
  | fuel + 1, cs, done =>
    let group := cs.take c.group
    let digits := group.takeWhile c.digits.contains
    let marks := group.drop digits.length
    match c.decodeGroup digits with
    | none => (done.reverse, false)
    | some bytes =>
      let done := bytes.reverse ++ done
      if group.length = c.group && marks.all (· == '=') then
        decode c fuel (cs.drop c.group) done
      else (done.reverse, false)

end Code

/-- Lines of so many characters; all in one where the width is zero. -/
def wrapped (width : Nat) : Nat → List Char → List Char → List Char
  | 0, _, done => done.reverse
  | _, [], done => done.reverse
  | fuel + 1, cs, done =>
    wrapped width fuel (cs.drop width) ('\n' :: (cs.take width).reverse ++ done)

def encoding (c : Code) (words : List String) : Tool Unit := do
  let g ← given [opt 'd' "decode", opt 'i' "ignore-garbage", opt 'w' "wrap" .argument] words
  bound g 1
  let width ← match g.argument? "w" with
    | none => pure 76
    | some s =>
      match natural? s with
      | some n => pure n
      | none => fail 1 ("invalid wrap size: " ++ quotedAlways s)
  let path := g.operands.headD "-"
  match ← readAll path with
  | .error e => fail 1 (quoted path ++ ": " ++ e.message)
  | .ok text =>
    if g.has "d" then
      let isDigit (d : Char) : Bool := c.digits.contains d || d == '='
      let digits := text.toList.filter fun d => d != '\n' && (!g.has "i" || isDigit d)
      let (bytes, isRight) := c.decode (digits.length + 1) digits []
      put (Octets.ofBytes ⟨bytes.toArray⟩)
      unless isRight do fail 1 "invalid input"
    else
      let digits := c.encode (Octets.toBytes text)
      if width = 0 then put (String.ofList digits)
      else put (String.ofList (wrapped width (digits.length + 1) digits []))

def catalogue : List (String × (List String → Tool Unit)) :=
  kinds.map (fun k => (k.name, digests k)) ++
    [("cksum", cksum), ("sum", sum), ("base64", encoding base64Code),
      ("base32", encoding base32Code)]

end Remedy.Tool.Checksums
