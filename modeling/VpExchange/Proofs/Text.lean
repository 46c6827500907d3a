import Mathlib.Data.List.DropRight
import VpExchange.Text.Blank

set_option autoImplicit false

namespace VpExchange.Text

theorem dropEndWhile_eq_rdropWhile (p : Char → Bool) (cs : List Char) :
    dropEndWhile p cs = cs.rdropWhile p := rfl

theorem dropWhile_of_prefix {p : Char → Bool} {cs ds : List Char} (h : cs <+: ds)
    (front : ds.dropWhile p = ds) : cs.dropWhile p = cs := by
  cases cs with
  | nil => rfl
  | cons c cs =>
    obtain ⟨rest, rfl⟩ := h
    cases hc : p c with
    | false => simp [hc]
    | true =>
      -- A front that is dropped would be dropped from the longer text as well.
      have shorter := List.Sublist.length_le (List.dropWhile_sublist p (l := cs ++ rest))
      have same := congrArg List.length front
      simp [hc] at same
      simp at shorter
      omega

theorem trimChars_trimChars (cs : List Char) : trimChars (trimChars cs) = trimChars cs := by
  have front : (trimChars cs).dropWhile isBlank = trimChars cs :=
    dropWhile_of_prefix (List.rdropWhile_prefix isBlank _) (List.dropWhile_idempotent isBlank cs)
  rw [trimChars, front, trimChars, dropEndWhile_eq_rdropWhile, dropEndWhile_eq_rdropWhile]
  exact List.rdropWhile_idempotent isBlank _

theorem trimChars_of_not_blank {cs : List Char} (h : ∀ c ∈ cs, isBlank c = false) :
    trimChars cs = cs := by
  have front : cs.dropWhile isBlank = cs := by
    cases cs with
    | nil => rfl
    | cons c cs => simp [h c]
  rw [trimChars, front, dropEndWhile_eq_rdropWhile]
  apply List.rdropWhile_eq_self_iff.mpr
  intro nonempty
  simp [h _ (List.getLast_mem nonempty)]

theorem trimChars_of_blank {cs : List Char} (h : ∀ c ∈ cs, isBlank c = true) : trimChars cs = [] := by
  rw [trimChars, List.dropWhile_eq_nil_iff.mpr h]
  rfl

theorem trim_of_not_blank {s : String} (h : ∀ c ∈ s.toList, isBlank c = false) : trim s = s := by
  rw [trim, trimChars_of_not_blank h, String.ofList_toList]

end VpExchange.Text
