import Remedy.Proofs.Text.Segments
import Remedy.Text.Utf8

namespace Remedy.Text.Utf8

theorem first_ascii (h : b ≤ 0x7F) : first b = .inl (some (Char.ofNat b)) := if_pos h

theorem first_two (h : 0xC2 ≤ b) (h' : b ≤ 0xDF) : first b = .inr ⟨b % 32, 0, 0x80, 0xBF⟩ := by
  rw [first, if_neg (by omega), if_pos ⟨h, h'⟩]

theorem first_three (h : 0xE0 ≤ b) (h' : b ≤ 0xEF) : first b = .inr ⟨b % 16, 1,
    if b = 0xE0 then 0xA0 else 0x80, if b = 0xED then 0x9F else 0xBF⟩ := by
  rw [first, if_neg (by omega), if_neg (by omega)]
  by_cases h0 : b = 0xE0
  · subst h0
    rfl
  · by_cases hd : b = 0xED
    · subst hd
      rfl
    · rw [if_neg h0, if_neg hd, if_pos (by omega), if_neg h0, if_neg hd]

theorem first_four (h : 0xF0 ≤ b) (h' : b ≤ 0xF4) : first b = .inr ⟨b % 8, 2,
    if b = 0xF0 then 0x90 else 0x80, if b = 0xF4 then 0x8F else 0xBF⟩ := by
  rw [first, if_neg (by omega), if_neg (by omega), if_neg (by omega), if_neg (by omega),
    if_neg (by omega)]
  by_cases h0 : b = 0xF0
  · subst h0
    rfl
  · by_cases h4 : b = 0xF4
    · subst h4
      rfl
    · rw [if_neg h0, if_pos (by omega), if_neg h0, if_neg h4]

theorem decode_cons_inr {b : UInt8} (h : first b.toNat = .inr begun) (rest : List UInt8) :
    decode (b :: rest) = resume begun rest := by
  rw [decode, h]

theorem resume_last {b : UInt8} (hl : low ≤ b.toNat) (hh : b.toNat ≤ high) (rest : List UInt8) :
    resume ⟨value, 0, low, high⟩ (b :: rest) =
      some (Char.ofNat (value * 64 + b.toNat % 64)) :: decode rest := by
  rw [resume, if_pos ⟨hl, hh⟩]

theorem resume_next {b : UInt8} (hl : low ≤ b.toNat) (hh : b.toNat ≤ high) (rest : List UInt8) :
    resume ⟨value, owed + 1, low, high⟩ (b :: rest) =
      resume ⟨value * 64 + b.toNat % 64, owed, 0x80, 0xBF⟩ rest := by
  rw [resume, if_pos ⟨hl, hh⟩]

theorem toNat_ofNat_octet (h : n < 256) : (UInt8.ofNat n).toNat = n :=
  UInt8.toNat_ofNat_of_lt' h

theorem decode_two (h : 0x80 ≤ v) (h' : v ≤ 0x7FF) (rest : List UInt8) :
    decode (.ofNat (v / 64 % 0x20 + 0xC0) :: .ofNat (v % 0x40 + 0x80) :: rest) =
      some (Char.ofNat v) :: decode rest := by
  have h₁ := toNat_ofNat_octet (n := v / 64 % 0x20 + 0xC0) (by omega)
  have h₂ := toNat_ofNat_octet (n := v % 0x40 + 0x80) (by omega)
  rw [decode_cons_inr (first_two (by omega) (by omega)), resume_last (by omega) (by omega), h₁, h₂]
  congr 3
  omega

theorem decode_three (h : 0x800 ≤ v) (h' : v ≤ 0xFFFF) (hv : v < 0xD800 ∨ 0xDFFF < v)
    (rest : List UInt8) :
    decode (.ofNat (v / 4096 % 0x10 + 0xE0) :: .ofNat (v / 64 % 0x40 + 0x80) ::
      .ofNat (v % 0x40 + 0x80) :: rest) = some (Char.ofNat v) :: decode rest := by
  have h₁ := toNat_ofNat_octet (n := v / 4096 % 0x10 + 0xE0) (by omega)
  have h₂ := toNat_ofNat_octet (n := v / 64 % 0x40 + 0x80) (by omega)
  have h₃ := toNat_ofNat_octet (n := v % 0x40 + 0x80) (by omega)
  rw [decode_cons_inr (first_three (by omega) (by omega)), resume_next,
    resume_last (by omega) (by omega), h₁, h₂, h₃]
  · congr 3
    omega
  · split <;> omega
  · split <;> omega

theorem decode_four (h : 0x10000 ≤ v) (h' : v < 0x110000) (rest : List UInt8) :
    decode (.ofNat (v / 262144 % 0x08 + 0xF0) :: .ofNat (v / 4096 % 0x40 + 0x80) ::
      .ofNat (v / 64 % 0x40 + 0x80) :: .ofNat (v % 0x40 + 0x80) :: rest) =
      some (Char.ofNat v) :: decode rest := by
  have h₁ := toNat_ofNat_octet (n := v / 262144 % 0x08 + 0xF0) (by omega)
  have h₂ := toNat_ofNat_octet (n := v / 4096 % 0x40 + 0x80) (by omega)
  have h₃ := toNat_ofNat_octet (n := v / 64 % 0x40 + 0x80) (by omega)
  have h₄ := toNat_ofNat_octet (n := v % 0x40 + 0x80) (by omega)
  rw [decode_cons_inr (first_four (by omega) (by omega)), resume_next,
    resume_next (by omega) (by omega), resume_last (by omega) (by omega), h₁, h₂, h₃, h₄]
  · congr 3
    omega
  · split <;> omega
  · split <;> omega

theorem decode_encodeChar_append (c : Char) (rest : List UInt8) :
    decode (String.utf8EncodeChar c ++ rest) = some c :: decode rest := by
  have hv : c.val.toNat < 0xD800 ∨ 0xDFFF < c.val.toNat ∧ c.val.toNat < 0x110000 := c.valid
  have hc : Char.ofNat c.val.toNat = c := Char.ofNat_toNat c
  simp only [String.utf8EncodeChar]
  split
  · next h₁ =>
    rw [List.singleton_append, decode, toNat_ofNat_octet (by omega), first_ascii h₁, hc]
  · split
    · exact (decode_two (by omega) (by omega) rest).trans (by rw [hc])
    · split
      · exact (decode_three (by omega) (by omega) (by omega) rest).trans (by rw [hc])
      · exact (decode_four (by omega) (by omega) rest).trans (by rw [hc])

theorem decode_encode (cs : List Char) : decode (encode cs) = cs.map some := by
  induction cs with
  | nil => rfl
  | cons c cs ih =>
    rw [encode, List.flatMap_cons, decode_encodeChar_append, List.map_cons]
    exact congrArg _ ih

theorem decodeLossy_encode (s : String) : decodeLossy (encode s.toList) = s := by
  have hmap : (s.toList.map some).map (·.getD '\uFFFD') = s.toList :=
    (List.map_map ..).trans (List.map_id _)
  rw [decodeLossy, decode_encode, hmap, String.ofList_toList]

theorem encode_injective {cs ds : List Char} (h : encode cs = encode ds) : cs = ds := by
  have hmap := congrArg decode h
  rw [decode_encode, decode_encode] at hmap
  exact (List.map_inj_right fun _ _ => Option.some.inj).1 hmap

@[simp] theorem encode_append (cs ds : List Char) : encode (cs ++ ds) = encode cs ++ encode ds :=
  List.flatMap_append

theorem encode_cons (c : Char) (cs : List Char) :
    encode (c :: cs) = String.utf8EncodeChar c ++ encode cs := List.flatMap_cons

theorem encodeChar_of_lt {c : Char} (h : c.toNat < 128) :
    String.utf8EncodeChar c = [UInt8.ofNat c.toNat] := by
  simp only [String.utf8EncodeChar]
  exact if_pos (Nat.le_of_lt_succ h)

theorem le_of_mem_encodeChar {c : Char} (h : 128 ≤ c.toNat) :
    ∀ b ∈ String.utf8EncodeChar c, 128 ≤ b.toNat := by
  have hle (n : Nat) (hn : 128 ≤ n) (hn' : n < 256) : 128 ≤ (UInt8.ofNat n).toNat := by
    rwa [toNat_ofNat_octet hn']
  have hv : ¬c.val.toNat ≤ 127 := Nat.not_le_of_gt h
  simp only [String.utf8EncodeChar, if_neg hv]
  split
  · simp only [List.forall_mem_cons]
    exact ⟨hle _ (by omega) (by omega), hle _ (by omega) (by omega), nofun⟩
  · split
    · simp only [List.forall_mem_cons]
      exact ⟨hle _ (by omega) (by omega), hle _ (by omega) (by omega),
        hle _ (by omega) (by omega), nofun⟩
    · simp only [List.forall_mem_cons]
      exact ⟨hle _ (by omega) (by omega), hle _ (by omega) (by omega),
        hle _ (by omega) (by omega), hle _ (by omega) (by omega), nofun⟩

theorem mem_encodeChar_iff {a c : Char} (ha : a.toNat < 128) :
    UInt8.ofNat a.toNat ∈ String.utf8EncodeChar c ↔ c = a := by
  have hoctet : (UInt8.ofNat a.toNat).toNat = a.toNat := toNat_ofNat_octet (by omega)
  constructor
  · intro h
    have hc : c.toNat < 128 := by
      by_cases hc : c.toNat < 128
      · exact hc
      · have hle := le_of_mem_encodeChar (Nat.le_of_not_lt hc) _ h
        omega
    rw [encodeChar_of_lt hc] at h
    have hn := congrArg UInt8.toNat (List.mem_singleton.1 h)
    rw [hoctet, toNat_ofNat_octet (by omega)] at hn
    exact (Char.toNat_inj.1 hn).symm
  · rintro rfl
    rw [encodeChar_of_lt ha]
    exact List.mem_singleton_self _

theorem mem_encode_iff {a : Char} (ha : a.toNat < 128) {cs : List Char} :
    UInt8.ofNat a.toNat ∈ encode cs ↔ a ∈ cs := by
  rw [encode, List.mem_flatMap]
  constructor
  · rintro ⟨c, hc, h⟩
    exact (mem_encodeChar_iff ha).1 h ▸ hc
  · intro h
    exact ⟨a, h, (mem_encodeChar_iff ha).2 rfl⟩

theorem head?_encode_iff {a : Char} (ha : a.toNat < 128) {cs : List Char} :
    (encode cs).head? = some (UInt8.ofNat a.toNat) ↔ cs.head? = some a := by
  cases cs with
  | nil => exact iff_of_false nofun nofun
  | cons c cs =>
    have hhead : (encode (c :: cs)).head? = (String.utf8EncodeChar c).head? := by
      obtain ⟨b, bs, hb⟩ := List.exists_cons_of_ne_nil (@String.utf8EncodeChar_ne_nil c)
      rw [encode_cons, hb]
      rfl
    rw [hhead, List.head?_cons, Option.some.injEq]
    refine ⟨fun h => (mem_encodeChar_iff ha).1 (List.mem_of_head? h), ?_⟩
    rintro rfl
    rw [encodeChar_of_lt ha]
    rfl

theorem getLast?_encode_iff {a : Char} (ha : a.toNat < 128) {cs : List Char} :
    (encode cs).getLast? = some (UInt8.ofNat a.toNat) ↔ cs.getLast? = some a := by
  by_cases hcs : cs = []
  · subst hcs
    exact iff_of_false nofun nofun
  · obtain ⟨front, c, rfl⟩ : ∃ front c, cs = front ++ [c] :=
      ⟨_, _, (List.dropLast_concat_getLast hcs).symm⟩
    have hlast : (encode (front ++ [c])).getLast? = (String.utf8EncodeChar c).getLast? := by
      have hnil : encode [] = [] := rfl
      rw [encode_append, encode_cons, hnil, List.append_nil, List.getLast?_append,
        List.getLast?_eq_some_getLast String.utf8EncodeChar_ne_nil]
      rfl
    rw [hlast, List.getLast?_concat, Option.some.injEq]
    refine ⟨fun h => (mem_encodeChar_iff ha).1 (List.mem_of_getLast? h), ?_⟩
    rintro rfl
    rw [encodeChar_of_lt ha]
    rfl

theorem segments_encode {a : Char} (ha : a.toNat < 128) (cs : List Char) :
    segments (UInt8.ofNat a.toNat) (encode cs) = (segments a cs).map encode := by
  induction cs with
  | nil => rfl
  | cons c cs ih =>
    obtain ⟨part, parts, hs⟩ := List.exists_cons_of_ne_nil (segments_ne_nil a cs)
    rw [hs, List.map_cons] at ih
    by_cases hc : c = a
    · subst hc
      rw [segments_cons_sep, encode_cons, encodeChar_of_lt ha, List.singleton_append,
        segments_cons_sep, ih, hs]
      rfl
    · have hnot := mt (mem_encodeChar_iff ha).1 hc
      rw [segments_cons_of_ne hc hs, encode_cons, segments_append_of_notMem hnot ih]
      rfl

/-- No octet of the ASCII range continues `begun`, and no character of it is completed. -/
def Begun.IsWide (begun : Begun) : Prop :=
  0x80 ≤ begun.low ∧ (2 ≤ begun.value ∨
    0 < begun.owed ∧ (0 < begun.value ∨ 0x82 ≤ begun.low ∧ begun.high ≤ 0xBF))

theorem isWide_of_first (h : first b = .inr begun) : begun.IsWide := by
  simp only [first] at h
  repeat' split at h
  all_goals
    cases h
  all_goals
    simp only [Begun.IsWide]
    omega

theorem toNat_of_first (h : first b = .inl (some c)) : c.toNat = b := by
  simp only [first] at h
  repeat' split at h
  all_goals
    cases h
  next hb =>
    have hvalid : b.isValidChar := .inl (by omega)
    rw [Char.ofNat, dif_pos hvalid]
    rfl

theorem resume_of_not_between {b : UInt8} (h : ¬(begun.low ≤ b.toNat ∧ b.toNat ≤ begun.high))
    (rest : List UInt8) : resume begun (b :: rest) = none :: decode (b :: rest) := by
  rw [resume, if_neg h, decode]

theorem ofNat_ne_of_le {a : Char} (ha : a.toNat < 128) (h0 : a ≠ '\x00') (hv : 128 ≤ v) :
    Char.ofNat v ≠ a := by
  rintro rfl
  by_cases hvalid : v.isValidChar
  · rw [Char.ofNat, dif_pos hvalid] at ha
    change v < 128 at ha
    omega
  · rw [Char.ofNat, dif_neg hvalid] at h0
    exact h0 rfl

theorem isWide_next (h : Begun.IsWide ⟨value, owed + 1, low, high⟩) {b : UInt8}
    (hl : low ≤ b.toNat) (hh : b.toNat ≤ high) :
    Begun.IsWide ⟨value * 64 + b.toNat % 64, owed, 0x80, 0xBF⟩ := by
  simp only [Begun.IsWide] at h ⊢
  omega

theorem le_value_of_isWide (h : Begun.IsWide ⟨value, 0, low, high⟩) (n : Nat) :
    128 ≤ value * 64 + n := by
  simp only [Begun.IsWide] at h
  omega

section Ascii

variable {a : Char} (ha : a.toNat < 128)
include ha

theorem mem_of_mem_decode (h0 : a ≠ '\x00') (bytes : List UInt8) :
    (some a ∈ decode bytes → UInt8.ofNat a.toNat ∈ bytes) ∧
      ∀ begun : Begun, begun.IsWide → some a ∈ resume begun bytes →
        UInt8.ofNat a.toNat ∈ bytes := by
  induction bytes with
  | nil => simp [decode, resume]
  | cons b rest ih =>
    obtain ⟨ihd, ihr⟩ := ih
    have hdecode : some a ∈ decode (b :: rest) → UInt8.ofNat a.toNat ∈ b :: rest := by
      intro h
      rw [decode] at h
      cases hb : first b.toNat with
      | inl c =>
        rw [hb] at h
        obtain rfl | h := List.mem_cons.1 h
        · rw [toNat_of_first hb, UInt8.ofNat_toNat]
          exact List.mem_cons_self
        · exact List.mem_cons_of_mem b (ihd h)
      | inr begun =>
        rw [hb] at h
        exact List.mem_cons_of_mem b (ihr begun (isWide_of_first hb) h)
    refine ⟨hdecode, fun begun hw h => ?_⟩
    by_cases hbetween : begun.low ≤ b.toNat ∧ b.toNat ≤ begun.high
    · obtain ⟨value, owed, low, high⟩ := begun
      obtain ⟨hl, hh⟩ := hbetween
      cases owed with
      | zero =>
        rw [resume_last hl hh] at h
        obtain h | h := List.mem_cons.1 h
        · exact absurd (Option.some.inj h).symm (ofNat_ne_of_le ha h0 (le_value_of_isWide hw _))
        · exact List.mem_cons_of_mem b (ihd h)
      | succ owed =>
        rw [resume_next hl hh] at h
        exact List.mem_cons_of_mem b (ihr _ (isWide_next hw hl hh) h)
    · rw [resume_of_not_between hbetween] at h
      exact hdecode ((List.mem_cons.1 h).resolve_left (Option.some_ne_none a))

theorem mem_decode_of_mem (bytes : List UInt8) :
    (UInt8.ofNat a.toNat ∈ bytes → some a ∈ decode bytes) ∧
      ∀ begun : Begun, begun.IsWide → UInt8.ofNat a.toNat ∈ bytes →
        some a ∈ resume begun bytes := by
  induction bytes with
  | nil => simp
  | cons b rest ih =>
    obtain ⟨ihd, ihr⟩ := ih
    have hdecode : UInt8.ofNat a.toNat ∈ b :: rest → some a ∈ decode (b :: rest) := by
      intro h
      obtain rfl | h := List.mem_cons.1 h
      · have hb : (UInt8.ofNat a.toNat).toNat = a.toNat := toNat_ofNat_octet (by omega)
        rw [decode, hb, first_ascii (by omega), Char.ofNat_toNat]
        exact List.mem_cons_self
      · rw [decode]
        cases hb : first b.toNat with
        | inl c => exact List.mem_cons_of_mem c (ihd h)
        | inr begun => exact ihr begun (isWide_of_first hb) h
    refine ⟨hdecode, fun begun hw h => ?_⟩
    by_cases hbetween : begun.low ≤ b.toNat ∧ b.toNat ≤ begun.high
    · obtain ⟨value, owed, low, high⟩ := begun
      obtain ⟨hl, hh⟩ := hbetween
      have hrest : UInt8.ofNat a.toNat ∈ rest := by
        refine (List.mem_cons.1 h).resolve_left fun heq => ?_
        have hb : b.toNat = a.toNat := heq ▸ toNat_ofNat_octet (by omega)
        have hlow := hw.1
        dsimp only at hlow hl
        omega
      cases owed with
      | zero =>
        rw [resume_last hl hh]
        exact List.mem_cons_of_mem _ (ihd hrest)
      | succ owed =>
        rw [resume_next hl hh]
        exact ihr _ (isWide_next hw hl hh) hrest
    · rw [resume_of_not_between hbetween]
      exact List.mem_cons_of_mem none (hdecode h)

end Ascii

/-- What begins with an octet beyond the ASCII range is not read as ASCII text. -/
theorem resume_ne_ascii {cs : List Char} (bytes : List UInt8) (begun : Begun) (hw : begun.IsWide)
    (hcs : ∀ c ∈ cs, c.toNat < 128 ∧ c ≠ '\x00') : resume begun bytes ≠ cs.map some := by
  induction bytes generalizing begun with
  | nil => cases cs <;> simp [resume]
  | cons b rest ih =>
    by_cases hbetween : begun.low ≤ b.toNat ∧ b.toNat ≤ begun.high
    · obtain ⟨value, owed, low, high⟩ := begun
      obtain ⟨hl, hh⟩ := hbetween
      cases owed with
      | zero =>
        rw [resume_last hl hh]
        cases cs with
        | nil => exact List.cons_ne_nil _ _
        | cons c cs =>
          obtain ⟨hc, h0⟩ := hcs c List.mem_cons_self
          intro h
          have hhead := Option.some.inj (List.cons.inj h).1
          exact ofNat_ne_of_le hc h0 (le_value_of_isWide hw _) hhead
      | succ owed =>
        rw [resume_next hl hh]
        exact ih _ (isWide_next hw hl hh)
    · rw [resume_of_not_between hbetween]
      cases cs <;> simp

/-- Only its own octets are read as an ASCII text. -/
theorem eq_encode_of_decode {cs : List Char} (hcs : ∀ c ∈ cs, c.toNat < 128 ∧ c ≠ '\x00')
    (h : decode bytes = cs.map some) : bytes = encode cs := by
  induction bytes generalizing cs with
  | nil =>
    obtain rfl := List.map_eq_nil_iff.1 h.symm
    rfl
  | cons b rest ih =>
    rw [decode] at h
    cases hb : first b.toNat with
    | inr begun =>
      rw [hb] at h
      exact absurd h (resume_ne_ascii rest begun (isWide_of_first hb) hcs)
    | inl found =>
      rw [hb] at h
      cases cs with
      | nil => cases h
      | cons c cs =>
        obtain ⟨rfl, hrest⟩ := List.cons.inj h
        obtain ⟨⟨hc, -⟩, hcs'⟩ := List.forall_mem_cons.1 hcs
        rw [ih hcs' hrest, encode_cons, encodeChar_of_lt hc, toNat_of_first hb,
          UInt8.ofNat_toNat, List.singleton_append]

/-- A text without a replacement character is read only from octets that have no gap. -/
theorem decode_of_decodeLossy (h : '\uFFFD' ∉ (decodeLossy bytes).toList) :
    decode bytes = (decodeLossy bytes).toList.map some := by
  rw [decodeLossy, String.toList_ofList] at h ⊢
  rw [List.map_map]
  refine (List.map_id _).symm.trans (List.map_congr_left fun c hc => ?_)
  cases c with
  | some c => rfl
  | none => exact absurd (List.mem_map.2 ⟨none, hc, rfl⟩) h

end Remedy.Text.Utf8

namespace Remedy.Text.Octets

/-- The octets of a text, each as a character. -/
def spell (cs : List Char) : List Char := (Utf8.encode cs).map fun b => Char.ofNat b.toNat

theorem toNat_ofOctet (b : UInt8) : (Char.ofNat b.toNat).toNat = b.toNat := by
  have hvalid : b.toNat.isValidChar := .inl (Nat.lt_of_lt_of_le b.toNat_lt (by decide))
  rw [Char.ofNat, dif_pos hvalid]
  rfl

@[simp] theorem spell_nil : spell [] = [] := rfl

@[simp] theorem spell_append (cs ds : List Char) : spell (cs ++ ds) = spell cs ++ spell ds := by
  rw [spell, Utf8.encode_append, List.map_append, spell, spell]

theorem spell_cons (c : Char) (cs : List Char) : spell (c :: cs) = spell [c] ++ spell cs :=
  spell_append [c] cs

theorem spell_singleton_of_lt {c : Char} (h : c.toNat < 128) : spell [c] = [c] := by
  have hc : (UInt8.ofNat c.toNat).toNat = c.toNat := Utf8.toNat_ofNat_octet (by omega)
  rw [spell, Utf8.encode_cons, Utf8.encodeChar_of_lt h, List.singleton_append, List.map_cons, hc,
    Char.ofNat_toNat]
  rfl

theorem spell_of_lt {cs : List Char} (h : ∀ c ∈ cs, c.toNat < 128) : spell cs = cs := by
  induction cs with
  | nil => rfl
  | cons c cs ih =>
    rw [List.forall_mem_cons] at h
    rw [spell_cons, spell_singleton_of_lt h.1, ih h.2, List.singleton_append]

/-- The octets of a character beyond the ASCII range are beyond it too. -/
theorem exists_spell_of_le {c : Char} (h : 128 ≤ c.toNat) :
    ∃ d ds, spell [c] = d :: ds ∧ 128 ≤ d.toNat ∧ ∀ e ∈ ds, 128 ≤ e.toNat := by
  obtain ⟨b, bs, hb⟩ := List.exists_cons_of_ne_nil (@String.utf8EncodeChar_ne_nil c)
  have hle := Utf8.le_of_mem_encodeChar h
  rw [hb, List.forall_mem_cons] at hle
  refine ⟨_, _, by rw [spell, Utf8.encode_cons, hb]; rfl, ?_, fun e he => ?_⟩
  · rw [toNat_ofOctet]
    exact hle.1
  · obtain ⟨octet, hoctet, rfl⟩ := List.mem_map.1 he
    rw [List.append_eq, Utf8.encode, List.flatMap_nil, List.append_nil] at hoctet
    rw [toNat_ofOctet]
    exact hle.2 octet hoctet

theorem ofText_eq (s : String) : ofText s = String.ofList (spell s.toList) := by
  rw [ofText]
  split
  · next hall =>
    have hascii : ∀ c ∈ s.toList, c.toNat < 128 := by simpa using hall
    rw [spell_of_lt hascii, String.ofList_toList]
  · rw [ofList, spell]

end Remedy.Text.Octets
