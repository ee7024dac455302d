namespace Remedy.Text

def isBlank (c : Char) : Bool :=
  let n := c.toNat
  (9 ≤ n && n ≤ 13) || n == 0x20 || n == 0x85 || n == 0xA0 || n == 0x1680 ||
    (0x2000 ≤ n && n ≤ 0x200A) || n == 0x2028 || n == 0x2029 || n == 0x202F ||
    n == 0x205F || n == 0x3000

/-- The characters of the Unicode property White_Space. -/
def whiteSpace : List Char :=
  ['\t', '\n', '\u000B', '\u000C', '\r', ' ', '\u0085', '\u00A0', '\u1680', '\u2000', '\u2001',
    '\u2002', '\u2003', '\u2004', '\u2005', '\u2006', '\u2007', '\u2008', '\u2009', '\u200A',
    '\u2028', '\u2029', '\u202F', '\u205F', '\u3000']

theorem isBlank_iff_mem {c : Char} : isBlank c = true ↔ c ∈ whiteSpace := by
  constructor
  · intro h
    have hnumber : c.toNat ∈ whiteSpace.map Char.toNat := by
      have hnumbers : whiteSpace.map Char.toNat =
          [9, 10, 11, 12, 13, 0x20, 0x85, 0xA0, 0x1680, 0x2000, 0x2001, 0x2002, 0x2003, 0x2004,
            0x2005, 0x2006, 0x2007, 0x2008, 0x2009, 0x200A, 0x2028, 0x2029, 0x202F, 0x205F,
            0x3000] := by decide
      simp only [isBlank, Bool.or_eq_true, Bool.and_eq_true, decide_eq_true_eq, beq_iff_eq] at h
      simp only [hnumbers, List.mem_cons, List.not_mem_nil, or_false]
      omega
    obtain ⟨d, hd, hdc⟩ := List.mem_map.1 hnumber
    exact Char.toNat_inj.1 hdc ▸ hd
  · have hall : whiteSpace.all isBlank = true := by decide
    exact List.all_eq_true.1 hall c

def allBlank (s : String) : Bool :=
  s.toList.all isBlank

theorem allBlank_iff {s : String} : allBlank s = true ↔ ∀ c ∈ s.toList, c ∈ whiteSpace := by
  simp only [allBlank, List.all_eq_true, isBlank_iff_mem]

def dropEnd (p : α → Bool) (xs : List α) : List α :=
  (xs.reverse.dropWhile p).reverse

def trim (s : String) : String :=
  String.ofList (dropEnd isBlank (s.toList.dropWhile isBlank))

end Remedy.Text
