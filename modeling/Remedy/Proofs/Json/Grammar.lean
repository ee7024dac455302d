import Remedy.Json.Reader

namespace Remedy.Json

open Reader

/-- Space between tokens. -/
def IsBlank (cs : Input) : Prop := ∀ c ∈ cs, isSpace c = true

def AreDigits (cs : Input) (ds : List Nat) : Prop := ds ≠ [] ∧ cs.map digit? = ds.map some

inductive IsFraction : Input → Option (List Nat) → Prop
  | absent : IsFraction [] none
  | present : AreDigits cs ds → IsFraction (some '.' :: cs) (some ds)

inductive IsExponent : Input → Option (Bool × List Nat) → Prop
  | absent : IsExponent [] none
  | plain : e = 'e' ∨ e = 'E' → AreDigits cs ds → IsExponent (some e :: cs) (some (false, ds))
  | plus : e = 'e' ∨ e = 'E' → AreDigits cs ds →
      IsExponent (some e :: some '+' :: cs) (some (false, ds))
  | minus : e = 'e' ∨ e = 'E' → AreDigits cs ds →
      IsExponent (some e :: some '-' :: cs) (some (true, ds))

def signText (negative : Bool) : Input := if negative then [some '-'] else []

inductive IsNumber : Input → NumberLiteral → Prop
  | mk (negative : Bool) : AreDigits w whole → whole.length = 1 ∨ whole.head? ≠ some 0 →
      IsFraction f fraction → IsExponent e exponent →
      IsNumber (signText negative ++ (w ++ (f ++ e))) ⟨negative, whole, fraction, exponent⟩

inductive IsPiece : Input → Piece → Prop
  | char : c ≠ some '"' → c ≠ some '\\' → c.all (' ' ≤ ·) = true → IsPiece [c] (.char c)
  | escape : simpleEscape? e = some c → IsPiece [some '\\', e] (.char (some c))
  | unit : hexDigit? a = some p → hexDigit? b = some q → hexDigit? c = some r →
      hexDigit? d = some s →
      IsPiece [some '\\', some 'u', a, b, c, d] (.unit (4096 * p + 256 * q + 16 * r + s))

inductive ArePieces : Input → List Piece → Prop
  | nil : ArePieces [] []
  | cons : IsPiece c p → ArePieces cs ps → ArePieces (c ++ cs) (p :: ps)

inductive IsKeyword : Input → Json → Prop
  | null : IsKeyword (Reader.ofString "null") .null
  | isTrue : IsKeyword (Reader.ofString "true") (.bool true)
  | isFalse : IsKeyword (Reader.ofString "false") (.bool false)

theorem arePieces_map_char {cs : List Char} (h : ∀ c ∈ cs, c ≠ '"' ∧ c ≠ '\\' ∧ ' ' ≤ c) :
    ArePieces (cs.map some) (cs.map fun c => .char (some c)) := by
  induction cs with
  | nil => exact .nil
  | cons c cs ih =>
    obtain ⟨⟨hquote, hbackslash, hspace⟩, hcs⟩ := List.forall_mem_cons.1 h
    refine .cons (.char ?_ ?_ (by simpa using hspace)) (ih hcs)
    · exact fun heq => hquote (Option.some.inj heq)
    · exact fun heq => hbackslash (Option.some.inj heq)

/-- A value in an array or of a member, with the space around it. -/
structure Slot where
  before : Input
  core : Input
  after : Input
  value : Json

namespace Slot

def text (s : Slot) : Input := s.before ++ (s.core ++ s.after)

theorem length_core_le (s : Slot) : s.core.length ≤ s.text.length := by
  rw [text, List.length_append, List.length_append]
  omega

def IsSpaced (s : Slot) : Prop := IsBlank s.before ∧ IsBlank s.after

end Slot

/-- A member of an object, with the space around its name. -/
structure Entry where
  before : Input
  core : Input
  pieces : List Piece
  after : Input
  slot : Slot

namespace Entry

def text (e : Entry) : Input :=
  e.before ++ (some '"' :: (e.core ++ (some '"' :: (e.after ++ (some ':' :: e.slot.text)))))

theorem text_append (e : Entry) (cs : Input) :
    e.text ++ cs = e.before ++ some '"' :: (e.core ++ some '"' ::
      (e.after ++ some ':' :: (e.slot.text ++ cs))) := by
  simp [text]

theorem length_slot_le (e : Entry) : e.slot.text.length ≤ e.text.length := by
  simp only [text, List.length_append, List.length_cons]
  omega

def member (e : Entry) : Option String × Json := ((spell? e.pieces).map String.ofList, e.slot.value)

structure IsSpelled (e : Entry) : Prop where
  before : IsBlank e.before
  name : ArePieces e.core e.pieces
  after : IsBlank e.after
  slot : e.slot.IsSpaced

end Entry

def commaSeparated (parts : List Input) : Input := [some ','].intercalate parts

theorem commaSeparated_singleton (part : Input) : commaSeparated [part] = part :=
  List.intercalate_singleton

theorem commaSeparated_cons_cons (part part' : Input) (parts : List Input) :
    commaSeparated (part :: part' :: parts) =
      part ++ some ',' :: commaSeparated (part' :: parts) := by
  rw [commaSeparated, List.intercalate_cons_cons, List.append_assoc]
  rfl

/-- A value in `depth` containers, and what it says. -/
inductive IsValue : Nat → Input → Json → Prop
  | keyword : IsKeyword cs j → IsValue depth cs j
  | number : IsNumber cs l → IsValue depth cs (l.number?.elim .unreadable .number)
  | string : ArePieces cs ps → IsValue depth (some '"' :: (cs ++ [some '"']))
      (((spell? ps).map String.ofList).elim .unreadable .string)
  | emptyArray : IsBlank space →
      IsValue depth (some '[' :: (space ++ [some ']'])) (within depth (.array []))
  | array (slots : List Slot) : slots ≠ [] → (∀ s ∈ slots, s.IsSpaced) →
      (∀ s ∈ slots, IsValue (depth + 1) s.core s.value) →
      IsValue depth (some '[' :: (commaSeparated (slots.map Slot.text) ++ [some ']']))
        (within depth (.array (slots.map Slot.value)))
  | emptyObject : IsBlank space →
      IsValue depth (some '{' :: (space ++ [some '}'])) (within depth (.object []))
  | object (entries : List Entry) : entries ≠ [] → (∀ e ∈ entries, e.IsSpelled) →
      (∀ e ∈ entries, IsValue (depth + 1) e.slot.core e.slot.value) →
      IsValue depth (some '{' :: (commaSeparated (entries.map Entry.text) ++ [some '}']))
        (within depth (objectOf (entries.map Entry.member)))

/-- A JSON text, and what it says. -/
def IsText (body : Input) (j : Json) : Prop :=
  ∃ before core after, body = before ++ (core ++ after) ∧ IsBlank before ∧ IsBlank after ∧
    IsValue 0 core j

/-- What may follow a value. -/
def IsBoundary (cs : Input) : Prop :=
  ∀ c ∈ cs.head?, isSpace c = true ∨ c = some ',' ∨ c = some ']' ∨ c = some '}'

theorem IsBlank.isBoundary (h : IsBlank space) (hcs : IsBoundary cs) :
    IsBoundary (space ++ cs) := by
  cases space with
  | nil => exact hcs
  | cons c space =>
    intro c' hc
    cases hc
    exact .inl (h c List.mem_cons_self)

theorem IsBoundary.stops (h : IsBoundary cs) (hc : c ∈ cs.head?) :
    digit? c = none ∧ c ≠ some '.' ∧ c ≠ some 'e' ∧ c ≠ some 'E' := by
  have hc := h c hc
  simp only [isSpace, Bool.or_eq_true, beq_iff_eq] at hc
  rcases hc with (((rfl | rfl) | rfl) | rfl) | rfl | rfl | rfl <;> decide

theorem AreDigits.exists_cons (h : AreDigits cs ds) :
    ∃ c cs', cs = c :: cs' ∧ ∃ d, digit? c = some d := by
  obtain ⟨hne, hcs⟩ := h
  cases ds with
  | nil => exact absurd rfl hne
  | cons d ds =>
    cases cs with
    | nil => cases hcs
    | cons c cs => exact ⟨c, cs, rfl, d, (List.cons.inj hcs).1⟩

theorem IsFraction.head?_append (h : IsFraction cs fraction) (rest : Input) :
    (cs ++ rest).head? = rest.head? ∨ (cs ++ rest).head? = some (some '.') := by
  cases h with
  | absent => exact .inl rfl
  | present => exact .inr rfl

theorem IsExponent.head?_append (h : IsExponent cs exponent) (rest : Input) :
    (cs ++ rest).head? = rest.head? ∨ (cs ++ rest).head? = some (some 'e') ∨
      (cs ++ rest).head? = some (some 'E') := by
  cases h with
  | absent => exact .inl rfl
  | plain he | plus he | minus he =>
    obtain rfl | rfl := he
    · exact .inr (.inl rfl)
    · exact .inr (.inr rfl)

theorem IsNumber.exists_cons (h : IsNumber cs l) :
    ∃ c cs', cs = c :: cs' ∧ (c = some '-' ∨ ∃ d, digit? c = some d) := by
  obtain ⟨negative, hw, -, -, -⟩ := h
  cases negative with
  | true => exact ⟨some '-', _, rfl, .inl rfl⟩
  | false =>
    obtain ⟨c, cs, rfl, hc⟩ := hw.exists_cons
    exact ⟨c, _, rfl, .inr hc⟩

theorem isSpace_eq_false_of_digit? (h : digit? c = some d) : isSpace c = false := by
  cases hc : isSpace c with
  | false => rfl
  | true =>
    simp only [isSpace, Bool.or_eq_true, beq_iff_eq] at hc
    rcases hc with ((rfl | rfl) | rfl) | rfl <;> cases h

theorem IsValue.exists_cons (h : IsValue depth cs j) :
    ∃ c cs', cs = c :: cs' ∧ isSpace c = false ∧ c ≠ some ']' := by
  cases h with
  | keyword h => cases h <;> exact ⟨_, _, rfl, by decide⟩
  | number h =>
    obtain ⟨c, cs', rfl, rfl | ⟨d, hd⟩⟩ := h.exists_cons
    · exact ⟨_, _, rfl, by decide⟩
    · refine ⟨_, _, rfl, isSpace_eq_false_of_digit? hd, ?_⟩
      rintro rfl
      cases hd
  | string => exact ⟨some '"', _, rfl, by decide⟩
  | emptyArray | array => exact ⟨some '[', _, rfl, by decide⟩
  | emptyObject | object => exact ⟨some '{', _, rfl, by decide⟩

end Remedy.Json
