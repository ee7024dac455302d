import Remedy.Text.Utf8

namespace Remedy.Text.Percent

/-- The characters that a component keeps: ASCII letters and digits and `- _ . ~`. -/
def isUnreserved (c : Char) : Bool :=
  c.isAlphanum || c == '-' || c == '_' || c == '.' || c == '~'

def hexDigit (n : Nat) : Char :=
  "0123456789ABCDEF".toList.getD n '0'

def hexValue? (c : Char) : Option Nat :=
  if '0' ≤ c ∧ c ≤ '9' then some (c.toNat - 48)
  else if 'A' ≤ c ∧ c ≤ 'F' then some (c.toNat - 55)
  else if 'a' ≤ c ∧ c ≤ 'f' then some (c.toNat - 87)
  else none

def encodeOctet (b : UInt8) : List Char :=
  let c := Char.ofNat b.toNat
  if isUnreserved c then [c]
  else ['%', hexDigit (b.toNat / 16), hexDigit (b.toNat % 16)]

/-- Every octet of the UTF-8 form that is no unreserved character becomes `%` and two upper-case
hexadecimal digits. -/
def encode (s : String) : String :=
  String.ofList ((Utf8.encode s.toList).flatMap encodeOctet)

/-- The octets that an encoded component stands for; `none` if an escape is incomplete or a
character that has to be escaped is not. -/
def decode? : List Char → Option (List UInt8)
  | [] => some []
  | '%' :: h :: l :: rest => do
    let h ← hexValue? h
    let l ← hexValue? l
    return UInt8.ofNat (16 * h + l) :: (← decode? rest)
  | c :: rest => do
    guard (isUnreserved c)
    return UInt8.ofNat c.toNat :: (← decode? rest)

end Remedy.Text.Percent
