import Remedy.Power

namespace Remedy.Text.Digest

def bigEndian (bytes : List UInt8) : Nat := bytes.foldl (fun n b => 256 * n + b.toNat) 0

def littleEndian (bytes : List UInt8) : Nat := bigEndian bytes.reverse

def toBigEndian : Nat → Nat → List UInt8
  | 0, _ => []
  | k + 1, n => toBigEndian k (n / 256) ++ [UInt8.ofNat (n % 256)]

def padded (block : Nat) (isBigEndian : Bool) (data : ByteArray) : ByteArray :=
  let lengthSize := block / 8
  let used := data.size + 1 + lengthSize
  let zeros := (block - used % block) % block
  let length := toBigEndian lengthSize (8 * data.size)
  let tail := (0x80 :: List.replicate zeros 0) ++ if isBigEndian then length else length.reverse
  tail.foldl ByteArray.push data

def absorb (block : Nat) (data : ByteArray) (step : σ → List UInt8 → σ) (s : σ) : σ :=
  (List.range (data.size / block)).foldl (fun s i =>
    step s (data.extract (i * block) ((i + 1) * block)).toList) s

def wordsOf (size : Nat) (read : List UInt8 → Nat) (block : List UInt8) : Array Nat :=
  ((List.range (block.length / size)).map fun i => read ((block.drop (i * size)).take size)).toArray

def hexadecimal (bytes : List UInt8) : String :=
  String.ofList (bytes.flatMap fun b =>
    let digits := Nat.toDigits 16 b.toNat
    if digits.length = 1 then '0' :: digits else digits)

def rotateLeft (x n : UInt32) : UInt32 := (x <<< n) ||| (x >>> (32 - n))

def rotateRight (x n : UInt32) : UInt32 := (x >>> n) ||| (x <<< (32 - n))

def rotateRight64 (x n : UInt64) : UInt64 := (x >>> n) ||| (x <<< (64 - n))

def root (power bound : Nat) : Nat → Nat → Nat → Nat
  | 0, low, _ => low
  | fuel + 1, low, high =>
    if high ≤ low + 1 then low
    else
      let middle := (low + high) / 2
      if Nat.pow middle power ≤ bound then root power bound fuel middle high
      else root power bound fuel low middle

def isPrime (n : Nat) : Bool := n ≥ 2 && (List.range n).all fun d => d < 2 || n % d ≠ 0

/-- The first bits behind the point of the roots of the first primes. -/
def rootBits (power bits count : Nat) : List Nat :=
  (((List.range 420).filter isPrime).take count).map fun p =>
    root power (p * twoTo (power * bits)) (2 * bits) 0 (twoTo (bits + 6)) % twoTo bits

def md5Constants : Array UInt32 :=
  ((List.range 64).map fun i =>
    let sine := Float.sin (Float.ofNat (i + 1))
    ((if sine < 0 then -sine else sine) * 4294967296).toUInt32).toArray

def md5Rotations : Array UInt32 :=
  ([[7, 12, 17, 22], [5, 9, 14, 20], [4, 11, 16, 23], [6, 10, 15, 21]].flatMap fun four =>
    four ++ four ++ four ++ four).toArray

def md5Step (s : Array UInt32) (block : List UInt8) : Array UInt32 :=
  let words := wordsOf 4 littleEndian block
  let at' (s : Array UInt32) (i : Nat) := s.getD i 0
  let after := (List.range 64).foldl (fun t i =>
    let b := at' t 1
    let c := at' t 2
    let d := at' t 3
    let (f, g) : UInt32 × Nat :=
      if i < 16 then ((b &&& c) ||| (~~~b &&& d), i)
      else if i < 32 then ((d &&& b) ||| (~~~d &&& c), (5 * i + 1) % 16)
      else if i < 48 then (b ^^^ c ^^^ d, (3 * i + 5) % 16)
      else (c ^^^ (b ||| ~~~d), 7 * i % 16)
    let sum := at' t 0 + f + md5Constants.getD i 0 + UInt32.ofNat (words.getD g 0)
    #[d, b + rotateLeft sum (md5Rotations.getD i 0), b, c]) s
  (Array.range 4).map fun i => at' s i + at' after i

def md5 (data : ByteArray) : List UInt8 :=
  let s := absorb 64 (padded 64 false data) md5Step #[0x67452301, 0xefcdab89, 0x98badcfe, 0x10325476]
  s.toList.flatMap fun w => (toBigEndian 4 w.toNat).reverse

def sha1Step (s : Array UInt32) (block : List UInt8) : Array UInt32 :=
  let first := (wordsOf 4 bigEndian block).map UInt32.ofNat
  let words := (List.range 64).foldl (fun (w : Array UInt32) i =>
    let at' (k : Nat) := w.getD (i + 16 - k) 0
    w.push (rotateLeft (at' 3 ^^^ at' 8 ^^^ at' 14 ^^^ at' 16) 1)) first
  let at' (s : Array UInt32) (i : Nat) := s.getD i 0
  let after := (List.range 80).foldl (fun t i =>
    let b := at' t 1
    let c := at' t 2
    let d := at' t 3
    let (f, k) : UInt32 × UInt32 :=
      if i < 20 then ((b &&& c) ||| (~~~b &&& d), 0x5a827999)
      else if i < 40 then (b ^^^ c ^^^ d, 0x6ed9eba1)
      else if i < 60 then ((b &&& c) ||| (b &&& d) ||| (c &&& d), 0x8f1bbcdc)
      else (b ^^^ c ^^^ d, 0xca62c1d6)
    let sum := rotateLeft (at' t 0) 5 + f + at' t 4 + k + words.getD i 0
    #[sum, at' t 0, rotateLeft b 30, c, d]) s
  (Array.range 5).map fun i => at' s i + at' after i

def sha1 (data : ByteArray) : List UInt8 :=
  let s := absorb 64 (padded 64 true data) sha1Step
    #[0x67452301, 0xefcdab89, 0x98badcfe, 0x10325476, 0xc3d2e1f0]
  s.toList.flatMap fun w => toBigEndian 4 w.toNat

def sha256Constants : Array UInt32 := ((rootBits 3 32 64).map UInt32.ofNat).toArray

def sha256Step (k : Array UInt32) (s : Array UInt32) (block : List UInt8) : Array UInt32 :=
  let first := (wordsOf 4 bigEndian block).map UInt32.ofNat
  let words := (List.range 48).foldl (fun (w : Array UInt32) i =>
    let at' (k : Nat) := w.getD (i + 16 - k) 0
    let a := at' 15
    let b := at' 2
    let x := rotateRight a 7 ^^^ rotateRight a 18 ^^^ (a >>> 3)
    let y := rotateRight b 17 ^^^ rotateRight b 19 ^^^ (b >>> 10)
    w.push (at' 16 + x + at' 7 + y)) first
  let at' (s : Array UInt32) (i : Nat) := s.getD i 0
  let after := (List.range 64).foldl (fun t i =>
    let a := at' t 0
    let e := at' t 4
    let x := rotateRight e 6 ^^^ rotateRight e 11 ^^^ rotateRight e 25
    let chosen := (e &&& at' t 5) ^^^ (~~~e &&& at' t 6)
    let p := at' t 7 + x + chosen + k.getD i 0 + words.getD i 0
    let y := rotateRight a 2 ^^^ rotateRight a 13 ^^^ rotateRight a 22
    let most := (a &&& at' t 1) ^^^ (a &&& at' t 2) ^^^ (at' t 1 &&& at' t 2)
    #[p + y + most, a, at' t 1, at' t 2, at' t 3 + p, e, at' t 5, at' t 6]) s
  (Array.range 8).map fun i => at' s i + at' after i

def sha256From (start : List Nat) (size : Nat) (data : ByteArray) : List UInt8 :=
  let s := absorb 64 (padded 64 true data) (sha256Step sha256Constants)
    (start.map UInt32.ofNat).toArray
  (s.toList.flatMap fun w => toBigEndian 4 w.toNat).take size

def sha256 : ByteArray → List UInt8 := sha256From (rootBits 2 32 8) 32

def sha224 : ByteArray → List UInt8 :=
  sha256From (((rootBits 2 64 16).drop 8).map (· % twoTo 32)) 28

def sha512Step (k : Array UInt64) (s : Array UInt64) (block : List UInt8) : Array UInt64 :=
  let first := (wordsOf 8 bigEndian block).map UInt64.ofNat
  let words := (List.range 64).foldl (fun (w : Array UInt64) i =>
    let at' (k : Nat) := w.getD (i + 16 - k) 0
    let a := at' 15
    let b := at' 2
    let x := rotateRight64 a 1 ^^^ rotateRight64 a 8 ^^^ (a >>> 7)
    let y := rotateRight64 b 19 ^^^ rotateRight64 b 61 ^^^ (b >>> 6)
    w.push (at' 16 + x + at' 7 + y)) first
  let at' (s : Array UInt64) (i : Nat) := s.getD i 0
  let after := (List.range 80).foldl (fun t i =>
    let a := at' t 0
    let e := at' t 4
    let x := rotateRight64 e 14 ^^^ rotateRight64 e 18 ^^^ rotateRight64 e 41
    let chosen := (e &&& at' t 5) ^^^ (~~~e &&& at' t 6)
    let p := at' t 7 + x + chosen + k.getD i 0 + words.getD i 0
    let y := rotateRight64 a 28 ^^^ rotateRight64 a 34 ^^^ rotateRight64 a 39
    let most := (a &&& at' t 1) ^^^ (a &&& at' t 2) ^^^ (at' t 1 &&& at' t 2)
    #[p + y + most, a, at' t 1, at' t 2, at' t 3 + p, e, at' t 5, at' t 6]) s
  (Array.range 8).map fun i => at' s i + at' after i

def sha512From (start : List Nat) (size : Nat) (data : ByteArray) : List UInt8 :=
  let k := ((rootBits 3 64 80).map UInt64.ofNat).toArray
  let s := absorb 128 (padded 128 true data) (sha512Step k) (start.map UInt64.ofNat).toArray
  (s.toList.flatMap fun w => toBigEndian 8 w.toNat).take size

def sha512 : ByteArray → List UInt8 := sha512From (rootBits 2 64 8) 64

def sha384 : ByteArray → List UInt8 := sha512From ((rootBits 2 64 16).drop 8) 48

def cyclic (data : ByteArray) : Nat :=
  let take (crc : UInt32) (b : UInt8) : UInt32 :=
    (List.range 8).foldl (fun (c : UInt32) _ =>
      if c &&& 0x80000000 != 0 then (c <<< 1) ^^^ 0x04c11db7 else c <<< 1)
      (crc ^^^ (b.toUInt32 <<< 24))
  let octets (n : Nat) : List UInt8 :=
    ((toBigEndian 8 n).dropWhile (· == 0)).reverse
  (~~~((octets data.size).foldl take (data.foldl take 0))).toNat

/-- The sum of sixteen bits that turns by one bit before each octet. -/
def turning (data : ByteArray) : Nat :=
  data.foldl (fun n b => (n / 2 + n % 2 * 32768 + b.toNat) % 65536) 0

def plain (data : ByteArray) : Nat :=
  let n := data.foldl (fun n b => n + b.toNat) 0 % twoTo 32
  let r := n % 65536 + n / 65536
  r % 65536 + r / 65536

end Remedy.Text.Digest
