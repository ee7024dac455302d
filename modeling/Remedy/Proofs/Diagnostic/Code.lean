import Remedy.Diagnostic.Code
import Remedy.Proofs.Json.NormalForm

namespace Remedy

def IsNumeral (text : String) : Prop :=
  ∃ c ∈ text.toList.head?, c.isDigit = true ∨ c = '-'

theorem IsNumeral.append (h : IsNumeral text) (rest : String) : IsNumeral (text ++ rest) := by
  obtain ⟨c, hc, hnumeral⟩ := h
  refine ⟨c, ?_, hnumeral⟩
  rw [String.toList_append, List.head?_append, Option.mem_def.1 hc]
  rfl

theorem isNumeral_minus (text : String) : IsNumeral ("-" ++ text) :=
  IsNumeral.append ⟨'-', rfl, .inr rfl⟩ text

theorem isNumeral_of_zero (text : String) : IsNumeral ("0." ++ text) :=
  IsNumeral.append ⟨'0', rfl, .inl rfl⟩ text

theorem isNumeral_take (h : IsNumeral text) (n : Nat) :
    IsNumeral (String.ofList (text.toList.take (n + 1))) := by
  obtain ⟨c, hc, hnumeral⟩ := h
  refine ⟨c, ?_, hnumeral⟩
  rw [String.toList_ofList, List.head?_take, if_neg (Nat.succ_ne_zero n)]
  exact hc

theorem isNumeral_toString (n : Nat) : IsNumeral (toString n) := by
  have hdigits : (toString n).toList = Nat.toDigits 10 n := Nat.toList_repr
  obtain ⟨c, hc⟩ := Option.isSome_iff_exists.1 (List.isSome_head?.2 (Nat.toDigits_ne_nil (n := n)))
  refine ⟨c, by rw [hdigits, hc]; rfl, .inl ?_⟩
  exact Nat.isDigit_of_mem_toDigits (by decide) (by decide) (List.mem_of_head? hc)

theorem isNumeral_toString_int (i : Int) : IsNumeral (toString i) := by
  cases i with
  | ofNat n => exact isNumeral_toString n
  | negSucc n => exact isNumeral_minus _

theorem isBlank_eq_false_of_isNumeral (h : c.isDigit = true ∨ c = '-') :
    Text.isBlank c = false := by
  obtain h | rfl := h
  · have hdigit : 48 ≤ c.toNat ∧ c.toNat ≤ 57 := Char.isDigit_iff_toNat.1 h
    simp only [Text.isBlank, Bool.or_eq_false_iff, Bool.and_eq_false_iff, decide_eq_false_iff_not,
      beq_eq_false_iff_ne]
    omega
  · decide

namespace Decimal.Layout

theorem isNumeral_positional (h : IsNumeral digits) (exponent : Int) :
    IsNumeral (positional digits exponent) := by
  rw [positional]
  split
  · exact ((isNumeral_of_zero "").append _).append _
  · exact (((isNumeral_take h _).append _).append _).append _

theorem isNumeral_scientific (h : IsNumeral digits) (exponent : Int) :
    IsNumeral (scientific digits exponent) :=
  ((((isNumeral_take h 0).append _).append _).append _).append _

theorem isNumeral_write (layout : Layout) (x : Binary64) : IsNumeral (layout.write x) := by
  have hsigned {text : String} (h : IsNumeral text) :
      IsNumeral ((if x.negative then "-" else "") ++ text) := by
    split
    · exact isNumeral_minus text
    · rwa [String.empty_append]
  rw [write]
  split
  · exact hsigned (isNumeral_of_zero "0")
  · have hdigits := isNumeral_toString x.shortest.digits
    refine hsigned ?_
    split
    · exact isNumeral_positional hdigits _
    · exact isNumeral_scientific hdigits _

end Decimal.Layout

theorem Json.Number.isNumeral_text (number : Json.Number) : IsNumeral number.text := by
  cases number with
  | integer i => exact isNumeral_toString_int i
  | real x => exact Decimal.Layout.isNumeral_write _ x

namespace Diagnostic.Code

/-- The text of another code is neither blank nor that of the unresolved one. -/
def IsProper (code : Code) : Prop :=
  ∀ text, code = .other text → Text.allBlank text = false ∧ text ≠ unresolvedText

theorem isProper_parse (text : String) : (parse text).IsProper := by
  intro text' h
  rw [parse] at h
  split at h
  · cases h
  · next hblank =>
    split at h
    · cases h
    · next hne =>
      cases h
      exact ⟨eq_false_of_ne_true hblank, hne⟩

theorem isProper_of_isNumeral (h : IsNumeral text) : (other text).IsProper := by
  obtain ⟨c, hc, hnumeral⟩ := h
  rintro _ ⟨⟩
  refine ⟨?_, ?_⟩
  · have hmem := List.mem_of_head? hc
    refine eq_false_of_ne_true fun hblank => ?_
    have hc := List.all_eq_true.1 hblank c hmem
    rw [isBlank_eq_false_of_isNumeral hnumeral] at hc
    cases hc
  · rintro rfl
    cases hc
    revert hnumeral
    decide

mutual

theorem isProper_ofJson : ∀ j : Json, (ofJson j).IsProper
  | .string text => isProper_parse text
  | .number number => isProper_of_isNumeral number.isNumeral_text
  | .object members => isProper_ofMembers members .absent nofun
  | .null | .bool _ | .array _ | .unreadable => nofun

theorem isProper_ofMembers : ∀ (members : List (String × Json)) (found : Code),
    found.IsProper → (ofMembers members found).IsProper
  | [], _, h => h
  | (name, j) :: members, found, h => by
    refine isProper_ofMembers members _ ?_
    split
    · exact isProper_ofJson j
    · exact h

end

theorem ofJson_toJson {code : Code} (h : code.IsProper) : ofJson code.toJson = code := by
  cases code with
  | unresolved => rfl
  | absent => rfl
  | other text =>
    obtain ⟨hblank, hne⟩ := h text rfl
    have hparse : parse text = .other text := by
      rw [parse, hblank, if_neg Bool.false_ne_true, if_neg hne]
    exact hparse

theorem isKept_toJson (code : Code) : code.toJson.IsKept := by
  cases code <;> exact rfl

theorem isNormalForm : Json.IsNormalForm ofJson? toJson := by
  refine .of (fun {_ code} _ => code.isKept_toJson) fun {j code} h => ?_
  obtain ⟨v, -, rfl⟩ := Option.map_eq_some_iff.1 h
  rw [ofJson?, (ofJson v).isKept_toJson, Option.map_some, ofJson_toJson (isProper_ofJson v)]

end Diagnostic.Code

end Remedy
