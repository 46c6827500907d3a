import VpExchange.Proofs.Json.Content
import VpExchange.Proofs.Json.Reader

set_option autoImplicit false

namespace VpExchange.Json.Reader

variable {α β σ ρ : Type}

theorem of_run_bind {x : Reader α} {f : α → Reader β} {input rest : Bytes} {b : β}
    (run : (x >>= f).run input = .ok (b, rest)) :
    ∃ a left, x.run input = .ok (a, left) ∧ (f a).run left = .ok (b, rest) := by
  cases first : x.run input with
  | error e =>
    rw [run_bind_error first] at run
    cases run
  | ok taken =>
    rw [run_bind_ok (show x.run input = .ok (taken.1, taken.2) from first)] at run
    exact ⟨taken.1, taken.2, rfl, run⟩

/-- Whenever it succeeds, it does so with a value of this kind. -/
structure Yields (x : Reader α) (holds : α → Prop) : Prop where
  of_run : ∀ {input : Bytes} {a : α} {rest : Bytes}, x.run input = .ok (a, rest) → holds a

section Yields

variable {x : Reader α} {holds : α → Prop}

theorem yields_pure {a : α} (h : holds a) : Yields (pure a) holds := by
  constructor
  intro input a' rest run
  cases run
  exact h

theorem yields_throw (e : Fault) : Yields (throw e) holds := ⟨nofun⟩

theorem yields_bind {f : α → Reader β} {holds' : β → Prop} (hx : Yields x holds)
    (hf : ∀ a, holds a → Yields (f a) holds') : Yields (x >>= f) holds' := by
  constructor
  intro input b rest run
  obtain ⟨a, left, first, later⟩ := of_run_bind run
  exact (hf a (hx.of_run first)).of_run later

theorem yields_any (x : Reader α) : Yields x fun _ => True := ⟨fun _ => trivial⟩

theorem yields_after (x : Reader α) {f : α → Reader β} {holds : β → Prop} (h : ∀ a, Yields (f a) holds) :
    Yields (x >>= f) holds :=
  yields_bind (yields_any x) fun a _ => h a

theorem Yields.mono (h : Yields x holds) {holds' : α → Prop} (weaker : ∀ a, holds a → holds' a) :
    Yields x holds' :=
  ⟨fun run => weaker _ (h.of_run run)⟩

theorem Yields.map (h : Yields x holds) {f : α → β} {holds' : β → Prop} (kept : ∀ a, holds a → holds' (f a)) :
    Yields (do return f (← x)) holds' :=
  yields_bind h fun a good => yields_pure (kept a good)

end Yields

section Loops

variable {inv : σ → Prop}

theorem yields_loop {step : σ → Reader (σ ⊕ ρ)} {holds : ρ → Prop} {s : σ}
    (h : ∀ s, inv s → Yields (step s) (Sum.elim inv holds)) (begin : inv s) :
    Yields (loop step s) holds := by
  suffices ∀ n s, inv s → Yields (loopFor step n s) holds from
    ⟨fun run => (this _ s begin).of_run run⟩
  intro n
  induction n with
  | zero => exact fun s _ => yields_throw _
  | succ n ih =>
    intro s good
    rw [loopFor]
    apply yields_bind (h s good)
    rintro (s' | r) next
    · exact ih s' next
    · exact yields_pure next

theorem yields_itemStep {item : σ → Reader σ} (h : ∀ s, inv s → Yields (item s) inv) (t : Bool × σ)
    (good : inv t.2) : Yields (itemStep item t) (Sum.elim (fun t => inv t.2) inv) := by
  apply yields_after
  intro more
  cases more with
  | false => exact yields_after _ fun _ => yields_pure good
  | true => exact yields_bind (h t.2 good) fun s' next => yields_pure next

theorem yields_foldItems {item : σ → Reader σ} {s : σ} (h : ∀ s, inv s → Yields (item s) inv)
    (begin : inv s) : Yields (foldItems item s) inv :=
  yields_loop (yields_itemStep h) begin

theorem yields_items {item : Reader α} {holds : α → Prop} (h : Yields item holds) :
    Yields (items item) fun as => ∀ a ∈ as, holds a := by
  have folded : Yields (foldItems (fun acc => do return (← item) :: acc) []) fun as => ∀ a ∈ as, holds a := by
    refine yields_foldItems ?_ nofun
    intro acc good
    exact h.map fun a new => List.forall_mem_cons.mpr ⟨new, good⟩
  exact folded.map fun as good a inside => good a (List.mem_reverse.mp inside)

theorem yields_memberStep {κ : Type} {name : Reader κ} {member : κ → σ → Reader σ}
    (h : ∀ k s, inv s → Yields (member k s) inv) (t : Bool × σ) (good : inv t.2) :
    Yields (memberStep name member t) (Sum.elim (fun t => inv t.2) inv) := by
  apply yields_after
  intro more
  cases more with
  | false => exact yields_pure good
  | true =>
    apply yields_after
    intro k
    exact yields_bind (h k t.2 good) fun s' next => yields_pure next

theorem yields_foldMembers {κ : Type} {name : Reader κ} {member : κ → σ → Reader σ} {s : σ}
    (h : ∀ k s, inv s → Yields (member k s) inv) (begin : inv s) : Yields (foldMembers name member s) inv :=
  yields_loop (yields_memberStep h) begin

theorem yields_members {value : Reader α} {holds : α → Prop} (h : Yields value holds) :
    Yields (members value) fun ms => ∀ m ∈ ms, holds m.2 := by
  have folded : Yields (foldMembers string (fun k acc => do
      colon
      return (k, ← value) :: acc) []) fun ms => ∀ m ∈ ms, holds m.2 := by
    refine yields_foldMembers ?_ nofun
    intro k acc good
    apply yields_after
    intro _
    exact h.map fun a new => List.forall_mem_cons.mpr ⟨new, good⟩
  exact folded.map fun ms good m inside => good m (List.mem_reverse.mp inside)

end Loops

theorem ranged_value? {n : Numeral} {j : Json} (h : n.value? = some j) :
    j.Ranged ∧ j.depth = 0 ∧ j ≠ .null := by
  cases negative : n.negative with
  | true =>
    simp only [Numeral.value?, negative, if_true] at h
    split_ifs at h with int
    · cases h
      simp only [Bool.and_eq_true, decide_eq_true_eq] at int
      have low : decimal n.whole ≤ 2 ^ 63 := int.2.2
      exact ⟨show InRange _ by constructor <;> omega, rfl, by simp⟩
    · obtain ⟨x, -, rfl⟩ := Option.map_eq_some_iff.mp h
      exact ⟨trivial, rfl, by simp⟩
  | false =>
    simp only [Numeral.value?, negative, Bool.false_eq_true, if_false] at h
    split_ifs at h with int
    · cases h
      simp only [Bool.and_eq_true, decide_eq_true_eq] at int
      have high : decimal n.whole < 2 ^ 64 := int.2
      exact ⟨show InRange _ by constructor <;> omega, rfl, by simp⟩
    · obtain ⟨x, -, rfl⟩ := Option.map_eq_some_iff.mp h
      exact ⟨trivial, rfl, by simp⟩

theorem yields_number (negative : Bool) :
    Yields (number negative) fun j => j.Ranged ∧ j.depth = 0 ∧ j ≠ .null := by
  apply yields_after
  intro n
  split
  next j value => exact yields_pure (ranged_value? value)
  next => exact yields_throw _

theorem yields_valueWith {array object : Reader Json} {holds : Json → Prop} (ha : Yields array holds)
    (ho : Yields object holds) (scalar : ∀ j : Json, j.Ranged → j.depth = 0 → holds j) :
    Yields (valueWith array object) holds := by
  have number negative : Yields (number negative) holds :=
    (yields_number negative).mono fun j h => scalar j h.1 h.2.1
  apply yields_after
  intro b
  split
  · exact yields_throw _
  · split_ifs
    · exact yields_after _ fun _ => yields_after _ fun _ => yields_pure (scalar _ trivial rfl)
    · exact yields_after _ fun _ => yields_after _ fun _ => yields_pure (scalar _ trivial rfl)
    · exact yields_after _ fun _ => yields_after _ fun _ => yields_pure (scalar _ trivial rfl)
    · exact yields_after _ fun _ => number true
    · exact number false
    · exact yields_after _ fun _ => yields_after _ fun _ => yields_pure (scalar _ trivial rfl)
    · exact yields_after _ fun _ => ha
    · exact yields_after _ fun _ => ho
    · exact yields_throw _

theorem yields_tree (limit : Nat) : Yields (tree limit) fun j => j.Ranged ∧ j.depth ≤ limit := by
  have scalar limit (j : Json) (ranged : j.Ranged) (flat : j.depth = 0) : j.Ranged ∧ j.depth ≤ limit :=
    ⟨ranged, flat ▸ Nat.zero_le limit⟩
  induction limit with
  | zero => exact yields_valueWith (yields_throw _) (yields_throw _) (scalar 0)
  | succ limit ih =>
    refine yields_valueWith ?_ ?_ (scalar _)
    · apply (yields_items ih).map
      intro js good
      exact ⟨each_arr_iff.mpr fun j inside => (good j inside).1,
        Nat.succ_le_succ (depthItems_le fun j inside => (good j inside).2)⟩
    · apply (yields_members ih).map
      intro ms good
      exact ⟨each_obj_iff.mpr fun m inside => (good m inside).1,
        Nat.succ_le_succ (depthMembers_le fun m inside => (good m inside).2)⟩

theorem valueWith_ne_null {array object : Reader Json} (ha : Yields array (· ≠ .null))
    (ho : Yields object (· ≠ .null)) {b : UInt8} (space : isSpace b = false) (letter : b ≠ byte 'n')
    {input rest : Bytes} {j : Json} (run : (valueWith array object).run (b :: input) = .ok (j, rest)) :
    j ≠ .null := by
  rw [valueWith, run_bind_next space] at run
  have number negative : Yields (number negative) (· ≠ .null) := (yields_number negative).mono fun _ h => h.2.2
  refine Yields.of_run (show Yields (if _ then _ else _) (· ≠ .null) from ?_) run
  rw [if_neg letter]
  split_ifs
  · exact yields_after _ fun _ => yields_after _ fun _ => yields_pure (by simp)
  · exact yields_after _ fun _ => yields_after _ fun _ => yields_pure (by simp)
  · exact yields_after _ fun _ => number true
  · exact number false
  · exact yields_after _ fun _ => yields_after _ fun _ => yields_pure (by simp)
  · exact yields_after _ fun _ => ha
  · exact yields_after _ fun _ => ho
  · exact yields_throw _

theorem tree_ne_null {limit : Nat} {b : UInt8} (space : isSpace b = false) (letter : b ≠ byte 'n')
    {input rest : Bytes} {j : Json} (run : (tree limit).run (b :: input) = .ok (j, rest)) : j ≠ .null := by
  cases limit with
  | zero => exact valueWith_ne_null (yields_throw _) (yields_throw _) space letter run
  | succ limit =>
    refine valueWith_ne_null ?_ ?_ space letter run
    · exact yields_after _ fun _ => yields_pure nofun
    · exact yields_after _ fun _ => yields_pure nofun

end VpExchange.Json.Reader
