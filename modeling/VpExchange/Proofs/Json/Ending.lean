import VpExchange.Proofs.Json.Yields
import VpExchange.Proofs.Refusal

set_option autoImplicit false

namespace VpExchange.Json

namespace Reader

variable {α β σ ρ : Type} {kind : UInt8 → Prop}

/-- What is left is all that there was, or it follows a byte of this kind. -/
def Past (kind : UInt8 → Prop) (input rest : Bytes) : Prop :=
  rest = input ∨ ∃ b, kind b ∧ (b :: rest) <:+ input

namespace Past

variable {input left rest : Bytes}

theorem suffix (h : Past kind input rest) : rest <:+ input := by
  rcases h with rfl | ⟨b, -, behind⟩
  · exact List.suffix_rfl
  · exact (List.suffix_cons b rest).trans behind

theorem trans (h : Past kind input left) (h' : Past kind left rest) : Past kind input rest := by
  rcases h' with rfl | ⟨b, good, behind⟩
  · exact h
  · exact .inr ⟨b, good, behind.trans h.suffix⟩

theorem of_cons {b : UInt8} (good : kind b) (rest : Bytes) : Past kind (b :: rest) rest :=
  .inr ⟨b, good, List.suffix_rfl⟩

theorem of_dropWhile {q : UInt8 → Bool} (good : ∀ b, q b = true → kind b) (input : Bytes) :
    Past kind input (input.dropWhile q) := by
  induction input with
  | nil => exact .inl rfl
  | cons b input ih =>
    rw [List.dropWhile_cons]
    split_ifs with taken
    · exact (of_cons (good b taken) input).trans ih
    · exact .inl rfl

end Past

def LandsOn (kind : UInt8 → Prop) (x : Reader α) (input : Bytes) : Prop :=
  ∀ a rest, x.run input = .ok (a, rest) → Past kind input rest

/-- Whenever it takes anything, what it takes ends in a byte of this kind. -/
structure Lands (kind : UInt8 → Prop) (x : Reader α) : Prop where
  on : ∀ input, LandsOn kind x input

section Lands

variable {x : Reader α}

theorem lands_pure (a : α) : Lands kind (pure a : Reader α) := by
  constructor
  rintro input _ _ ⟨⟩
  exact .inl rfl

theorem lands_throw (e : Fault) : Lands kind (throw e : Reader α) := ⟨nofun⟩

theorem lands_peek : Lands kind peek := by
  constructor
  rintro input _ _ ⟨⟩
  exact .inl rfl

theorem lands_takeWhile {q : UInt8 → Bool} (good : ∀ b, q b = true → kind b) : Lands kind (takeWhile q) := by
  constructor
  rintro input _ _ ⟨⟩
  exact Past.of_dropWhile good input

theorem lands_bind {f : α → Reader β} (hx : Lands kind x) (hf : ∀ a, Lands kind (f a)) :
    Lands kind (x >>= f) := by
  constructor
  intro input b rest run
  obtain ⟨a, left, first, later⟩ := of_run_bind run
  exact (hx.on input a left first).trans ((hf a).on left b rest later)

theorem lands_loop {step : σ → Reader (σ ⊕ ρ)} (h : ∀ s, Lands kind (step s)) (s : σ) :
    Lands kind (loop step s) := by
  suffices ∀ n s, Lands kind (loopFor step n s) from ⟨fun input => (this (input.length + 1) s).on input⟩
  intro n
  induction n with
  | zero => exact fun s => lands_throw _
  | succ n ih =>
    intro s
    rw [loopFor]
    apply lands_bind (h s)
    rintro (s' | r)
    · exact ih s'
    · exact lands_pure r

theorem landsOn_drop {f : Unit → Reader β} {b : UInt8} (good : kind b) (h : Lands kind (f ())) (rest : Bytes) :
    LandsOn kind (drop >>= f) (b :: rest) := by
  intro a left run
  rw [run_bind_drop] at run
  exact (Past.of_cons good rest).trans (h.on rest a left run)

theorem lands_bind_peek {f : Option UInt8 → Reader β} (none : Lands kind (f none))
    (some : ∀ b rest, LandsOn kind (f (some b)) (b :: rest)) : Lands kind (peek >>= f) := by
  constructor
  rintro (_ | ⟨b, rest⟩)
  · exact none.on []
  · exact some b rest

theorem lands_bind_next {f : Option UInt8 → Reader β} (space : ∀ b, isSpace b = true → kind b)
    (none : Lands kind (f none)) (some : ∀ b rest, LandsOn kind (f (some b)) (b :: rest)) :
    Lands kind (next >>= f) := by
  constructor
  intro input a left run
  have begins : ((peek >>= f).run (input.dropWhile isSpace)) = .ok (a, left) := run
  exact (Past.of_dropWhile space input).trans ((lands_bind_peek none some).on _ a left begins)

end Lands

theorem lands_word {cs : List Char} (good : ∀ c ∈ cs, kind (byte c)) : Lands kind (word cs) := by
  induction cs with
  | nil => exact lands_pure ()
  | cons c cs ih =>
    rw [List.forall_mem_cons] at good
    refine lands_bind_peek (lands_throw _) fun b rest a left run => ?_
    change (drop >>= _).run _ = _ at run
    rw [run_bind_drop] at run
    split_ifs at run with same
    · exact (Past.of_cons (same ▸ good.1) rest).trans ((ih good.2).on rest a left run)
    · cases run

theorem lands_hexQuad : Lands (fun _ => True) hexQuad := by
  constructor
  intro input n rest run
  change hexQuad input = _ at run
  unfold hexQuad at run
  split at run
  next a b c d rest' =>
    dsimp only at run
    split at run
    · cases run
      exact .inr ⟨d, trivial, [a, b, c], rfl⟩
    · cases run
  next => cases run

theorem lands_escapedCodePoint : Lands (fun _ => True) escapedCodePoint := by
  refine lands_bind lands_hexQuad fun n => ?_
  split_ifs
  · exact lands_throw _
  · exact lands_pure _
  · refine lands_bind (lands_word fun _ _ => trivial) fun _ => lands_bind lands_hexQuad fun low => ?_
    split_ifs
    · exact lands_throw _
    · exact lands_pure _

theorem lands_stringStep (before : Bytes) : Lands (fun _ => True) (stringStep before) := by
  refine lands_bind_peek (lands_throw _) fun b rest => landsOn_drop trivial ?_ rest
  split_ifs
  · exact lands_pure _
  · refine lands_bind_peek (lands_throw _) fun e rest => landsOn_drop trivial ?_ rest
    split_ifs
    · exact lands_bind lands_escapedCodePoint fun _ => lands_pure _
    · split
      · exact lands_pure _
      · exact lands_throw _
  · exact lands_throw _
  · exact lands_pure _

theorem run_ne_inr {x : Reader (σ ⊕ ρ)} (goesOn : Yields x fun t => ∃ s, t = .inl s) (input rest : Bytes)
    (r : ρ) : x.run input ≠ .ok (.inr r, rest) := by
  intro run
  obtain ⟨s, no⟩ := goesOn.of_run run
  cases no

-- An escape goes on, and so does a character, so only a quote ends a string.
theorem run_stringStep_inr {before input result rest : Bytes}
    (run : (stringStep before).run input = .ok (.inr result, rest)) : input = byte '"' :: rest := by
  rw [stringStep, run_bind_peek] at run
  cases input with
  | nil => cases run
  | cons b input =>
    change (drop >>= _).run _ = _ at run
    rw [run_bind_drop] at run
    split_ifs at run with quote backslash control
    · cases run
      rw [quote]
    · refine absurd run (run_ne_inr ?_ _ _ _)
      refine yields_after _ fun e => ?_
      split
      · exact yields_throw _
      · refine yields_after _ fun _ => ?_
        split_ifs
        · exact yields_after _ fun _ => yields_pure ⟨_, rfl⟩
        · split
          · exact yields_pure ⟨_, rfl⟩
          · exact yields_throw _
    · cases run
    · cases run

theorem suffix_of_run_string {n : Nat} {before input result rest : Bytes}
    (run : (loopFor stringStep n before).run input = .ok (result, rest)) : (byte '"' :: rest) <:+ input := by
  induction n generalizing before input with
  | zero => cases run
  | succ n ih =>
    obtain ⟨next, left, step, later⟩ := of_run_bind run
    cases next with
    | inl more => exact (ih later).trans ((lands_stringStep before).on input _ left step).suffix
    | inr result' =>
      cases later
      obtain rfl := run_stringStep_inr step
      exact List.suffix_rfl

theorem lands_string (quote : kind (byte '"')) : Lands kind string := by
  have closed : Lands kind (loop stringStep []) :=
    ⟨fun input result rest run => .inr ⟨_, quote, suffix_of_run_string run⟩⟩
  refine lands_bind closed fun bs => ?_
  split
  · exact lands_pure _
  · exact lands_throw _

abbrev IsAscii (b : UInt8) : Prop := b < 128

theorem isAscii_of_isDigit {b : UInt8} (h : isDigit b = true) : IsAscii b := by
  simp only [isDigit, Bool.and_eq_true, decide_eq_true_eq] at h
  exact UInt8.lt_of_le_of_lt h.2 (by decide)

theorem isAscii_of_isSpace {b : UInt8} (h : isSpace b = true) : IsAscii b := by
  simp only [isSpace, Bool.or_eq_true, beq_iff_eq] at h
  rcases h with ((rfl | rfl) | rfl) | rfl <;> decide

theorem lands_someDigits (atEnd : Fault) : Lands IsAscii (someDigits atEnd) := by
  have digits : Lands IsAscii digits :=
    lands_bind (lands_takeWhile fun _ => isAscii_of_isDigit) fun _ => lands_pure _
  refine lands_bind digits fun ds => ?_
  split
  · refine lands_bind lands_peek fun b => ?_
    split <;> exact lands_throw _
  · exact lands_pure _

theorem lands_wholePart (atEnd : Fault) : Lands IsAscii (wholePart atEnd) := by
  refine lands_bind (lands_someDigits atEnd) fun ds => ?_
  split
  · exact lands_throw _
  · exact lands_pure _

theorem lands_fractionPart (atEnd : Fault) : Lands IsAscii (fractionPart atEnd) := by
  refine lands_bind_peek ?_ fun b rest => ?_
  · rw [if_neg (by simp)]
    exact lands_pure _
  · split_ifs with point
    · cases point
      exact landsOn_drop (by decide) (lands_bind (lands_someDigits atEnd) fun _ => lands_pure _) rest
    · exact (lands_pure _).on _

theorem lands_exponentPart (atEnd : Fault) : Lands IsAscii (exponentPart atEnd) := by
  have digits (f : List Nat → Option Int) : Lands IsAscii (do return f (← someDigits atEnd)) :=
    lands_bind (lands_someDigits atEnd) fun _ => lands_pure _
  refine lands_bind_peek ?_ fun b rest => ?_
  · rw [if_neg (by simp)]
    exact lands_pure _
  by_cases letter : some b = some (byte 'e') ∨ some b = some (byte 'E')
  · have ascii : IsAscii b := by rcases letter with ⟨⟨⟩⟩ | ⟨⟨⟩⟩ <;> decide
    rw [if_pos letter]
    refine landsOn_drop ascii (lands_bind_peek (digits _) fun sign rest => ?_) rest
    dsimp only
    by_cases signed : some sign = some (byte '+') ∨ some sign = some (byte '-')
    · have ascii : IsAscii sign := by rcases signed with ⟨⟨⟩⟩ | ⟨⟨⟩⟩ <;> decide
      rw [if_pos signed]
      exact landsOn_drop ascii (digits _) rest
    · rw [if_neg signed]
      exact (digits _).on _
  · rw [if_neg letter]
    exact (lands_pure _).on _

theorem lands_number (negative : Bool) : Lands IsAscii (number negative) := by
  have numeral : Lands IsAscii (numeral .truncated negative) :=
    lands_bind (lands_wholePart _) fun _ => lands_bind (lands_fractionPart _) fun _ =>
      lands_bind (lands_exponentPart _) fun _ => lands_pure _
  refine lands_bind numeral fun n => ?_
  split
  · exact lands_pure _
  · exact lands_throw _

theorem lands_next {f : UInt8 → Reader β} (h : ∀ b rest, LandsOn IsAscii (f b) (b :: rest)) :
    Lands IsAscii (do
      match ← next with
      | none => throw .truncated
      | some b => f b) :=
  lands_bind_next (fun _ => isAscii_of_isSpace) (lands_throw _) h

theorem lands_hasItem (first : Bool) : Lands IsAscii (hasItem first) := by
  refine lands_next fun b rest => ?_
  split_ifs with close begin comma
  · exact (lands_pure _).on _
  · exact (lands_pure _).on _
  · subst comma
    refine landsOn_drop (by decide) (lands_next fun b rest => ?_) rest
    split_ifs
    · exact (lands_throw _).on _
    · exact (lands_pure _).on _
  · exact (lands_throw _).on _

theorem lands_foldItems {item : σ → Reader σ} (h : ∀ s, Lands IsAscii (item s)) (s : σ) :
    Lands IsAscii (foldItems item s) := by
  have close : Lands IsAscii endItems := by
    refine lands_next fun b rest => ?_
    split_ifs with close
    · subst close
      exact landsOn_drop (f := pure) (by decide) (lands_pure ()) rest
    · exact (lands_throw _).on _
  have step (t : Bool × σ) : Lands IsAscii (itemStep item t) := by
    refine lands_bind (lands_hasItem t.1) fun more => ?_
    cases more with
    | false => exact lands_bind close fun _ => lands_pure _
    | true => exact lands_bind (h t.2) fun _ => lands_pure _
  exact lands_loop step (true, s)

theorem lands_hasMember (first : Bool) : Lands IsAscii (hasMember first) := by
  have quote : Lands IsAscii (do
      match ← next with
      | none => throw .truncated
      | some b => if b = byte '"' then drop; return true else throw .malformed) := by
    refine lands_next fun b rest => ?_
    split_ifs with quote
    · subst quote
      exact landsOn_drop (by decide) (lands_pure true) rest
    · exact (lands_throw _).on _
  refine lands_next fun b rest => ?_
  split_ifs with close begin comma
  · subst close
    exact landsOn_drop (by decide) (lands_pure false) rest
  · exact quote.on _
  · subst comma
    exact landsOn_drop (by decide) quote rest
  · exact (lands_throw _).on _

theorem lands_colon : Lands IsAscii colon := by
  refine lands_next fun b rest => ?_
  split_ifs with colon
  · subst colon
    exact landsOn_drop (f := pure) (by decide) (lands_pure ()) rest
  · exact (lands_throw _).on _

theorem lands_foldMembers {member : String → σ → Reader σ} (h : ∀ k s, Lands IsAscii (member k s)) (s : σ) :
    Lands IsAscii (foldMembers string member s) := by
  have step (t : Bool × σ) : Lands IsAscii (memberStep string member t) := by
    refine lands_bind (lands_hasMember t.1) fun more => ?_
    cases more with
    | false => exact lands_pure _
    | true =>
      exact lands_bind (lands_string (by decide)) fun k => lands_bind (h k t.2) fun _ => lands_pure _
  exact lands_loop step (true, s)

theorem lands_valueWith {array object : Reader Json} (ha : Lands IsAscii array) (ho : Lands IsAscii object) :
    Lands IsAscii (valueWith array object) := by
  have letters {cs : List Char} (ascii : cs.all (byte · < 128) = true) (j : Json) : Lands IsAscii (do
      word cs
      return j) := by
    refine lands_bind (lands_word fun c inside => ?_) fun _ => lands_pure j
    exact of_decide_eq_true (List.all_eq_true.mp ascii c inside)
  refine lands_next fun b rest => ?_
  split_ifs with null true false minus digit quote bracket brace
  · exact landsOn_drop (null ▸ by decide) (letters (by decide) _) rest
  · exact landsOn_drop (true ▸ by decide) (letters (by decide) _) rest
  · exact landsOn_drop (false ▸ by decide) (letters (by decide) _) rest
  · exact landsOn_drop (minus ▸ by decide) (lands_number _) rest
  · exact (lands_number _).on _
  · exact landsOn_drop (quote ▸ by decide) (lands_bind (lands_string (by decide)) fun _ => lands_pure _) rest
  · exact landsOn_drop (bracket ▸ by decide) ha rest
  · exact landsOn_drop (brace ▸ by decide) ho rest
  · exact (lands_throw _).on _

theorem lands_tree (limit : Nat) : Lands IsAscii (tree limit) := by
  induction limit with
  | zero => exact lands_valueWith (lands_throw _) (lands_throw _)
  | succ limit ih =>
    have items : Lands IsAscii (items (tree limit)) :=
      lands_bind (lands_foldItems (fun _ => lands_bind ih fun _ => lands_pure _) _) fun _ => lands_pure _
    have members : Lands IsAscii (members (tree limit)) := by
      refine lands_bind (lands_foldMembers (fun k acc => ?_) _) fun _ => lands_pure _
      exact lands_bind lands_colon fun _ => lands_bind ih fun _ => lands_pure _
    exact lands_valueWith (lands_bind items fun _ => lands_pure _) (lands_bind members fun _ => lands_pure _)

end Reader

theorem exists_run_of_read {input : Bytes} {j : Json} (h : read input = .ok j) : ∃ j' rest,
    (Reader.tree maxDepth).run input = .ok (j', rest) ∧ rest.all Reader.isSpace = true ∧ j'.canonical = j := by
  rw [read, map_eq_ok_iff] at h
  obtain ⟨j', whole, same⟩ := h
  rw [Reader.whole, bind_eq_ok_iff] at whole
  obtain ⟨⟨_, rest⟩, run, only⟩ := whole
  dsimp only at only
  split_ifs at only with spaces
  cases only
  exact ⟨j', rest, run, spaces, same⟩

theorem isAscii_of_read {input : Bytes} {last : UInt8} {j : Json} (h : read (input ++ [last]) = .ok j) :
    Reader.IsAscii last := by
  obtain ⟨j', rest, run, spaces, -⟩ := exists_run_of_read h
  have past := (Reader.lands_tree maxDepth).on _ j' rest run
  -- The last byte is white space behind the value, or the last byte of the value.
  rcases List.suffix_concat_iff.mp past.suffix with rfl | ⟨front, rfl, -⟩
  · rcases past with empty | ⟨b, ascii, behind⟩
    · simp at empty
    · rcases List.suffix_concat_iff.mp behind with no | ⟨front, same, -⟩
      · cases no
      · obtain ⟨-, only⟩ := List.append_inj' (show [] ++ [b] = front ++ [last] from same) rfl
        exact List.singleton_inj.mp only ▸ ascii
  · rw [List.all_append, Bool.and_eq_true] at spaces
    exact Reader.isAscii_of_isSpace (by simpa using spaces.2)

end VpExchange.Json
