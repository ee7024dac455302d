namespace Remedy.Text.Utf8

def encode (cs : List Char) : List UInt8 :=
  cs.flatMap String.utf8EncodeChar

/-- A character begun: its value so far, the octets owed after the next one, and the range in which
the next one lies. -/
structure Begun where
  value : Nat
  owed : Nat
  low : Nat
  high : Nat
deriving DecidableEq, Repr

def first (b : Nat) : Option Char ⊕ Begun :=
  if b ≤ 0x7F then .inl (some (Char.ofNat b))
  else if 0xC2 ≤ b ∧ b ≤ 0xDF then .inr ⟨b % 32, 0, 0x80, 0xBF⟩
  else if b = 0xE0 then .inr ⟨0, 1, 0xA0, 0xBF⟩
  else if b = 0xED then .inr ⟨13, 1, 0x80, 0x9F⟩
  else if 0xE1 ≤ b ∧ b ≤ 0xEF then .inr ⟨b % 16, 1, 0x80, 0xBF⟩
  else if b = 0xF0 then .inr ⟨0, 2, 0x90, 0xBF⟩
  else if 0xF1 ≤ b ∧ b ≤ 0xF3 then .inr ⟨b % 8, 2, 0x80, 0xBF⟩
  else if b = 0xF4 then .inr ⟨4, 2, 0x80, 0x8F⟩
  else .inl none

mutual

def decode : List UInt8 → List (Option Char)
  | [] => []
  | b :: rest =>
    match first b.toNat with
    | .inl c => c :: decode rest
    | .inr begun => resume begun rest

/-- Reads after the beginning of a character; an octet that cannot continue it is read anew. -/
def resume (begun : Begun) : List UInt8 → List (Option Char)
  | [] => [none]
  | b :: rest =>
    if begun.low ≤ b.toNat ∧ b.toNat ≤ begun.high then
      let value := begun.value * 64 + b.toNat % 64
      match begun.owed with
      | 0 => some (Char.ofNat value) :: decode rest
      | owed + 1 => resume ⟨value, owed, 0x80, 0xBF⟩ rest
    else
      none :: match first b.toNat with
        | .inl c => c :: decode rest
        | .inr begun => resume begun rest

end

def decodeLossy (bytes : List UInt8) : String :=
  String.ofList ((decode bytes).map (·.getD '\uFFFD'))

end Remedy.Text.Utf8

namespace Remedy.Text.Octets

def ofBytes (bytes : ByteArray) : String :=
  bytes.foldl (fun s b => s.push (Char.ofNat b.toNat)) ""

def toBytes (s : String) : ByteArray :=
  s.foldl (fun bytes c => bytes.push c.toUInt8) .empty

def toList (s : String) : List UInt8 := s.toList.map Char.toUInt8

def ofList (bytes : List UInt8) : String :=
  String.ofList (bytes.map fun b => Char.ofNat b.toNat)

def ofText (s : String) : String :=
  if s.toList.all fun c => c.toNat < 128 then s else ofList (Utf8.encode s.toList)

def display (s : String) : String :=
  if s.toList.all fun c => c.toNat < 128 then s else Utf8.decodeLossy (toList s)

end Remedy.Text.Octets
