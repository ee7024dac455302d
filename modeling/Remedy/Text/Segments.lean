namespace Remedy.Text

/-- The parts between the separators; there is one part more than there are separators. -/
def segments [DecidableEq α] (sep : α) : List α → List (List α)
  | [] => [[]]
  | c :: cs =>
    if c = sep then [] :: segments sep cs
    else
      match segments sep cs with
      | [] => [[c]]
      | part :: parts => (c :: part) :: parts

theorem segments_ne_nil [DecidableEq α] (sep : α) (cs : List α) : segments sep cs ≠ [] := by
  cases cs with
  | nil => simp [segments]
  | cons c cs =>
    rw [segments]
    split
    · simp
    · split <;> simp

end Remedy.Text
