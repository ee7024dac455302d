import Remedy.Proofs.Text.Utf8
import Remedy.Text.Percent
import Mathlib.Data.Option.Basic

namespace Remedy.Text.Percent

/-- A hexadecimal digit, the letters in upper case. -/
def IsUpperHex (c : Char) : Prop := '0' ≤ c ∧ c ≤ '9' ∨ 'A' ≤ c ∧ c ≤ 'F'

instance : DecidablePred IsUpperHex := fun _ => inferInstanceAs (Decidable (_ ∨ _))

/-- Unreserved characters and complete escapes. -/
inductive IsEncoded : List Char → Prop
  | nil : IsEncoded []
  | unreserved : isUnreserved c = true → IsEncoded cs → IsEncoded (c :: cs)
  | escape : IsUpperHex h → IsUpperHex l → IsEncoded cs → IsEncoded ('%' :: h :: l :: cs)

theorem isUpperHex_hexDigit : ∀ n < 16, IsUpperHex (hexDigit n) := by decide

theorem hexValue?_hexDigit : ∀ n < 16, hexValue? (hexDigit n) = some n := by decide

theorem isUnreserved_of_isUpperHex (h : IsUpperHex c) : isUnreserved c = true := by
  have halnum : c.isAlphanum = true := by
    obtain ⟨h0, h9⟩ | ⟨hA, hF⟩ := h
    · have hdigit : c.isDigit = true :=
        Bool.and_eq_true_iff.2 ⟨decide_eq_true h0, decide_eq_true h9⟩
      exact Bool.or_eq_true_iff.2 (.inr hdigit)
    · have hZ : c ≤ 'Z' := Char.le_trans hF (by decide)
      have hupper : c.isUpper = true := decide_eq_true ⟨hA, hZ⟩
      exact Bool.or_eq_true_iff.2 (.inl (Bool.or_eq_true_iff.2 (.inl hupper)))
  rw [isUnreserved, halnum]
  rfl

def isReserved (c : Char) : Bool := c != '%' && !isUnreserved c

theorem IsEncoded.notMem (h : IsEncoded cs) (hc : isReserved c = true) : c ∉ cs := by
  obtain ⟨hpercent, hkept⟩ := Bool.and_eq_true_iff.1 hc
  have hne {other : Char} (hother : isUnreserved other = true) : c ≠ other := by
    rintro rfl
    rw [hother] at hkept
    cases hkept
  induction h with
  | nil => exact List.not_mem_nil
  | unreserved hother _ ih => exact List.not_mem_cons_of_ne_of_not_mem (hne hother) ih
  | escape hh hl _ ih =>
    have hlow := List.not_mem_cons_of_ne_of_not_mem (hne (isUnreserved_of_isUpperHex hl)) ih
    have hhigh := List.not_mem_cons_of_ne_of_not_mem (hne (isUnreserved_of_isUpperHex hh)) hlow
    exact List.not_mem_cons_of_ne_of_not_mem (bne_iff_ne.1 hpercent) hhigh

section Octet

variable (b : UInt8)

theorem encodeOctet_cases :
    (∃ c, isUnreserved c = true ∧ b = UInt8.ofNat c.toNat ∧ encodeOctet b = [c]) ∨
      encodeOctet b = ['%', hexDigit (b.toNat / 16), hexDigit (b.toNat % 16)] := by
  have hb : b.toNat < 256 := b.toNat_lt
  by_cases h : isUnreserved (Char.ofNat b.toNat) = true
  · refine .inl ⟨Char.ofNat b.toNat, h, ?_, if_pos h⟩
    have hvalid : b.toNat.isValidChar := .inl (by omega)
    have hchar : (Char.ofNat b.toNat).toNat = b.toNat := by
      rw [Char.ofNat, dif_pos hvalid]
      rfl
    rw [hchar, UInt8.ofNat_toNat]
  · exact .inr (if_neg h)

theorem decode?_unreserved (h : isUnreserved c = true) (cs : List Char) :
    decode? (c :: cs) = (decode? cs).map (UInt8.ofNat c.toNat :: ·) := by
  have hne : c ≠ '%' := by
    rintro rfl
    cases h
  have hg : (guard (isUnreserved c = true) : Option Unit) = some () := if_pos h
  rw [decode?]
  · rw [hg, Option.map_eq_bind]
    rfl
  · intro _ _ _ heq
    exact absurd heq hne

theorem decode?_escape (cs : List Char) :
    decode? ('%' :: hexDigit (b.toNat / 16) :: hexDigit (b.toNat % 16) :: cs) =
      (decode? cs).map (b :: ·) := by
  have hb : b.toNat < 256 := b.toNat_lt
  have hvalue : UInt8.ofNat (16 * (b.toNat / 16) + b.toNat % 16) = b := by
    rw [Nat.div_add_mod, UInt8.ofNat_toNat]
  rw [decode?, hexValue?_hexDigit _ (by omega), hexValue?_hexDigit _ (by omega), Option.map_eq_bind]
  simp only [Option.bind_eq_bind, Option.bind_some, Option.pure_def, hvalue, Function.comp_def]

theorem decode?_encodeOctet_append (cs : List Char) :
    decode? (encodeOctet b ++ cs) = (decode? cs).map (b :: ·) := by
  obtain ⟨c, hc, rfl, he⟩ | he := encodeOctet_cases b
  · rw [he, List.singleton_append, decode?_unreserved hc]
  · rw [he]
    exact decode?_escape b cs

theorem isEncoded_encodeOctet_append (h : IsEncoded cs) : IsEncoded (encodeOctet b ++ cs) := by
  have hb : b.toNat < 256 := b.toNat_lt
  obtain ⟨c, hc, -, he⟩ | he := encodeOctet_cases b
  · rw [he]
    exact .unreserved hc h
  · rw [he]
    exact .escape (isUpperHex_hexDigit _ (by omega)) (isUpperHex_hexDigit _ (by omega)) h

end Octet

theorem decode?_flatMap_encodeOctet (bytes : List UInt8) :
    decode? (bytes.flatMap encodeOctet) = some bytes := by
  induction bytes with
  | nil => rfl
  | cons b bytes ih => rw [List.flatMap_cons, decode?_encodeOctet_append, ih, Option.map_some]

theorem isEncoded_flatMap_encodeOctet (bytes : List UInt8) :
    IsEncoded (bytes.flatMap encodeOctet) := by
  induction bytes with
  | nil => exact .nil
  | cons b bytes ih => exact isEncoded_encodeOctet_append b ih

theorem isEncoded_encode (s : String) : IsEncoded (encode s).toList := by
  rw [encode, String.toList_ofList]
  exact isEncoded_flatMap_encodeOctet _

theorem decode?_encode (s : String) : decode? (encode s).toList = some (Utf8.encode s.toList) := by
  rw [encode, String.toList_ofList, decode?_flatMap_encodeOctet]

theorem encode_inj {s t : String} (h : encode s = encode t) : s = t := by
  have hoctets := decode?_encode s
  rw [h, decode?_encode t, Option.some.injEq] at hoctets
  exact String.toList_inj.1 (Utf8.encode_injective hoctets).symm

end Remedy.Text.Percent
