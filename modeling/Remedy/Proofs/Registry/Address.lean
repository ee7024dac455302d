import Remedy.Proofs.Text.Percent
import Remedy.Registry.Settings
import Mathlib.Data.List.DropRight

namespace Remedy.Registry

open Text (dropEnd)

def slashes (n : Nat) : String := String.ofList (List.replicate n '/')

/-- The address without the slashes at its end, however many there are. -/
def IsBase (base url : String) : Prop :=
  base.toList.getLast? ≠ some '/' ∧ ∃ n, url = base ++ slashes n

theorem dropEnd_append_replicate (stem : List Char) (n : Nat) :
    dropEnd (· == '/') (stem ++ List.replicate n '/') = dropEnd (· == '/') stem := by
  induction n with
  | zero => rw [List.replicate_zero, List.append_nil]
  | succ n ih =>
    rw [List.replicate_succ', ← List.append_assoc]
    exact (List.rdropWhile_concat_pos _ _ _ rfl).trans ih

theorem getLast?_dropEnd (p : α → Bool) (cs : List α) :
    ∀ c ∈ (dropEnd p cs).getLast?, p c = false := by
  intro c hc
  obtain ⟨hne, rfl⟩ := List.mem_getLast?_eq_getLast hc
  exact eq_false_of_ne_true (List.rdropWhile_last_not p cs hne)

theorem exists_dropEnd_append (cs : List Char) :
    ∃ n, cs = dropEnd (· == '/') cs ++ List.replicate n '/' := by
  refine ⟨(cs.rtakeWhile (· == '/')).length, ?_⟩
  have hslash : ∀ c ∈ cs.rtakeWhile (· == '/'), c = '/' := fun c hc => by
    have hc := List.mem_rtakeWhile_imp hc
    exact eq_of_beq hc
  rw [← List.eq_replicate_of_mem hslash]
  exact List.rdropWhile_append_rtakeWhile.symm

namespace Settings

theorem isBase_base (s : Settings) : IsBase s.base s.registryUrl := by
  obtain ⟨n, hn⟩ := exists_dropEnd_append s.registryUrl.toList
  refine ⟨fun hlast => ?_, n, ?_⟩
  · rw [base, String.toList_ofList] at hlast
    exact absurd (getLast?_dropEnd (· == '/') _ '/' hlast) (by decide)
  · rw [base, slashes, ← String.ofList_append, ← hn, String.ofList_toList]

theorem base_append_slashes {s : Settings} (h : s.registryUrl = stem ++ slashes n) :
    s.base = String.ofList (dropEnd (· == '/') stem.toList) := by
  rw [base, h, String.toList_append, slashes, String.toList_ofList, dropEnd_append_replicate]

theorem queryUrl_inj (s : Settings) {query query' : String}
    (h : s.queryUrl query = s.queryUrl query') : query = query' :=
  Text.Percent.encode_inj (String.append_right_inj _ |>.1 h)

/-- A query is appended to the registry's address, less the slashes at its end, in unreserved
characters and complete escapes that stand for the octets of the query. So no other query has the
same address, and registries that differ in slashes at the end answer at the same addresses. -/
theorem queryUrl_unambiguous (s : Settings) :
    IsBase s.base s.registryUrl ∧
      (∀ query, ∃ encoded, s.queryUrl query = s.base ++ "/query?q=" ++ encoded ∧
        Text.Percent.IsEncoded encoded.toList ∧
        (∀ c ∈ ['&', '#', '?', '/', '+', ' '], c ∉ encoded.toList) ∧
        Text.Percent.decode? encoded.toList = some (Text.Utf8.encode query.toList)) ∧
      (∀ query query', query ≠ query' → s.queryUrl query ≠ s.queryUrl query') ∧
      ∀ (s' : Settings) stem n n', s.registryUrl = stem ++ slashes n →
        s'.registryUrl = stem ++ slashes n' → ∀ query, s.queryUrl query = s'.queryUrl query := by
  refine ⟨s.isBase_base, fun query => ?_, fun _ _ => mt s.queryUrl_inj, ?_⟩
  · have hencoded := Text.Percent.isEncoded_encode query
    have hreserved : ['&', '#', '?', '/', '+', ' '].all Text.Percent.isReserved = true := by decide
    refine ⟨_, rfl, hencoded, fun c hc => ?_, Text.Percent.decode?_encode query⟩
    exact hencoded.notMem (List.all_eq_true.1 hreserved c hc)
  · intro s' stem n n' hs hs' query
    rw [queryUrl, queryUrl, base_append_slashes hs, base_append_slashes hs']

end Settings

end Remedy.Registry
