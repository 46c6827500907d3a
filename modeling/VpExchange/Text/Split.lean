set_option autoImplicit false

namespace VpExchange.Text

def splitChars (p : Char → Bool) : List Char → List (List Char)
  | [] => [[]]
  | c :: rest =>
    match splitChars p rest with
    | [] => [[c]]
    | piece :: pieces => if p c then [] :: piece :: pieces else (c :: piece) :: pieces

def splitAt (separator : Char) (cs : List Char) : List (List Char) := splitChars (· == separator) cs

theorem splitChars_ne_nil (p : Char → Bool) (cs : List Char) : splitChars p cs ≠ [] := by
  cases cs with
  | nil => simp [splitChars]
  | cons c rest =>
    rw [splitChars]
    split
    · simp
    · split <;> simp

theorem intercalate_splitAt (separator : Char) (cs : List Char) :
    List.intercalate [separator] (splitAt separator cs) = cs := by
  induction cs with
  | nil => rfl
  | cons c rest ih =>
    rw [splitAt, splitChars]
    rw [splitAt] at ih
    match h : splitChars (· == separator) rest with
    | [] => exact absurd h (splitChars_ne_nil _ rest)
    | piece :: pieces =>
      rw [h] at ih
      by_cases hc : c = separator
      · subst hc
        simp [← ih, List.intercalate]
      · cases pieces <;> simp_all [List.intercalate]

theorem notMem_of_mem_splitAt {separator : Char} {cs piece : List Char}
    (h : piece ∈ splitAt separator cs) : separator ∉ piece := by
  induction cs generalizing piece with
  | nil => simp_all [splitAt, splitChars]
  | cons c rest ih =>
    rw [splitAt, splitChars] at h
    match hs : splitChars (· == separator) rest with
    | [] => exact absurd hs (splitChars_ne_nil _ rest)
    | first :: pieces =>
      have hi : ∀ p ∈ first :: pieces, separator ∉ p := fun p hp => ih (by rw [splitAt, hs]; exact hp)
      rw [hs] at h
      by_cases hc : c = separator <;> grind

theorem splitChars_of_forall {p : Char → Bool} {piece : List Char} (h : ∀ c ∈ piece, p c = false) :
    splitChars p piece = [piece] := by
  induction piece with
  | nil => rfl
  | cons c rest ih => grind [splitChars]

theorem splitAt_of_notMem {separator : Char} {piece : List Char} (h : separator ∉ piece) :
    splitAt separator piece = [piece] :=
  splitChars_of_forall (by grind)

theorem splitChars_append_cons {p : Char → Bool} {c : Char} (h : p c = true) (cs rest : List Char) :
    splitChars p (cs ++ c :: rest) = splitChars p cs ++ splitChars p rest := by
  induction cs with
  | nil =>
    have := splitChars_ne_nil p rest
    grind [splitChars]
  | cons d cs ih =>
    have := splitChars_ne_nil p cs
    grind [splitChars]

theorem splitAt_append_cons (separator : Char) (cs rest : List Char) :
    splitAt separator (cs ++ separator :: rest) = splitAt separator cs ++ splitAt separator rest :=
  splitChars_append_cons (by simp) cs rest

theorem splitAt_append {separator : Char} {piece : List Char} (h : separator ∉ piece)
    (rest : List Char) :
    splitAt separator (piece ++ separator :: rest) = piece :: splitAt separator rest := by
  rw [splitAt_append_cons, splitAt_of_notMem h, List.singleton_append]

theorem splitAt_intercalate {separator : Char} {pieces : List (List Char)} (some : pieces ≠ [])
    (h : ∀ piece ∈ pieces, separator ∉ piece) :
    splitAt separator (List.intercalate [separator] pieces) = pieces := by
  induction pieces with
  | nil => exact absurd rfl some
  | cons piece pieces ih =>
    obtain ⟨first, rest⟩ := List.forall_mem_cons.mp h
    cases pieces with
    | nil => rw [List.intercalate_singleton, splitAt_of_notMem first]
    | cons next pieces =>
      rw [List.intercalate_cons_cons, List.append_assoc, List.singleton_append, splitAt_append first,
        ih (by simp) rest]

end VpExchange.Text
