import VpExchange.Proofs.Json.Canonical
import VpExchange.Proofs.Json.Numeral
import VpExchange.Proofs.Json.Quoted

set_option autoImplicit false

namespace VpExchange.Json

mutual

def depth : Json → Nat
  | .arr items => depthItems items + 1
  | .obj members => depthMembers members + 1
  | _ => 0

def depthItems : List Json → Nat
  | [] => 0
  | j :: rest => max (depth j) (depthItems rest)

def depthMembers : List (String × Json) → Nat
  | [] => 0
  | (_, j) :: rest => max (depth j) (depthMembers rest)

end

mutual

-- A fraction is printed with rounding of its own, and is left out here.
def IsWhole : Json → Prop
  | .int n => Reader.InRange n
  | .float _ => False
  | .arr items => ItemsWhole items
  | .obj members => MembersWhole members
  | _ => True

def ItemsWhole : List Json → Prop
  | [] => True
  | j :: rest => IsWhole j ∧ ItemsWhole rest

def MembersWhole : List (String × Json) → Prop
  | [] => True
  | (_, j) :: rest => IsWhole j ∧ MembersWhole rest

end

theorem isWhole_arr_iff {js : List Json} : (arr js).IsWhole ↔ ∀ j ∈ js, j.IsWhole := by
  rw [IsWhole]
  induction js with
  | nil => simp [ItemsWhole]
  | cons j js ih => simp [ItemsWhole, ih]

theorem isWhole_obj_iff {ms : Members} : (obj ms).IsWhole ↔ ∀ m ∈ ms, m.2.IsWhole := by
  rw [IsWhole]
  induction ms with
  | nil => simp [MembersWhole]
  | cons m ms ih => simp [MembersWhole, ih]

theorem depth_le_of_mem {ms : Members} {m : String × Json} (h : m ∈ ms) :
    m.2.depth ≤ depthMembers ms := by
  induction ms with
  | nil => cases h
  | cons m' ms ih =>
    rw [depthMembers]
    rcases List.mem_cons.mp h with rfl | later
    · exact Nat.le_max_left _ _
    · exact (ih later).trans (Nat.le_max_right _ _)

def itemsText : List Json → List Char
  | [] => [']']
  | j :: rest => print j ++ printItems rest

def membersText : Members → List Char
  | [] => ['}']
  | (k, j) :: rest => printString k ++ ':' :: (print j ++ printMembers rest)

theorem print_arr (js : List Json) : print (.arr js) = '[' :: itemsText js := by
  cases js <;> rfl

theorem print_obj (ms : Members) : print (.obj ms) = '{' :: membersText ms := by
  cases ms <;> rfl

namespace Reader

open Bytes

variable {σ : Type}

theorem ofChars_cons_ascii {c : Char} (h : c.toNat < 128) (cs : List Char) :
    ofChars (c :: cs) = byte c :: ofChars cs := by
  rw [ofChars_cons, utf8EncodeChar_ascii h]
  rfl

theorem not_space_of_digit {b : UInt8} (h : isDigit b = true) : isSpace b = false := by
  simp only [isDigit, Bool.and_eq_true, decide_eq_true_eq] at h
  simp only [isSpace, Bool.or_eq_false_iff, beq_eq_false_iff_ne]
  refine ⟨⟨⟨?_, ?_⟩, ?_⟩, ?_⟩ <;> rintro rfl <;> revert h <;> decide

theorem print_first {j : Json} (h : j.IsWhole) :
    ∃ b bytes, ofChars (print j) = b :: bytes ∧ isSpace b = false ∧ b ≠ byte ']' ∧
      (j ≠ .null → b ≠ byte 'n') := by
  cases j with
  | null => exact ⟨byte 'n', _, rfl, by decide, by decide, fun other => absurd rfl other⟩
  | bool b => cases b with
    | true => exact ⟨byte 't', _, rfl, by decide, by decide, fun _ => by decide⟩
    | false => exact ⟨byte 'f', _, rfl, by decide, by decide, fun _ => by decide⟩
  | int n =>
    rw [print, printInt]
    split_ifs
    · exact ⟨byte '-', _, ofChars_cons_ascii (by decide) _, by decide, by decide, fun _ => by decide⟩
    · cases digits : Nat.toDigits 10 n.natAbs with
      | nil => exact absurd digits Nat.toDigits_ne_nil
      | cons c cs =>
        have range := digit_toDigits (n := n.natAbs) (c := c) (by simp [digits])
        have digit := isDigit_byte range
        refine ⟨byte c, _, ofChars_cons_ascii (by omega) cs, not_space_of_digit digit, ?_, fun _ => ?_⟩ <;>
          intro same <;> rw [same] at digit <;> exact absurd digit (by decide)
  | float x => exact absurd h (by simp [IsWhole])
  | str s => exact ⟨byte '"', _, ofChars_printString s, by decide, by decide, fun _ => by decide⟩
  | arr js =>
    rw [print_arr]
    exact ⟨byte '[', _, ofChars_cons_ascii (by decide) _, by decide, by decide, fun _ => by decide⟩
  | obj ms =>
    rw [print_obj]
    exact ⟨byte '{', _, ofChars_cons_ascii (by decide) _, by decide, by decide, fun _ => by decide⟩

theorem ends_cons {b : UInt8} (h : b = byte ',' ∨ b = byte ']' ∨ b = byte '}') (rest : Bytes) :
    Ends (b :: rest) := by
  rintro _ ⟨⟩
  rcases h with rfl | rfl | rfl <;> decide

theorem ends_printItems (js : List Json) (rest : Bytes) : Ends (ofChars (printItems js) ++ rest) := by
  cases js with
  | nil => exact ends_cons (b := byte ']') (by simp) rest
  | cons j js =>
    rw [printItems, ofChars_cons_ascii (by decide)]
    exact ends_cons (by simp) _

theorem ends_printMembers (ms : Members) (rest : Bytes) : Ends (ofChars (printMembers ms) ++ rest) := by
  cases ms with
  | nil => exact ends_cons (b := byte '}') (by simp) rest
  | cons m ms =>
    rw [printMembers, ofChars_cons_ascii (by decide)]
    exact ends_cons (by simp) _

theorem run_hasItem_first {b : UInt8} (space : isSpace b = false) (bracket : b ≠ byte ']') (rest : Bytes) :
    (hasItem true).run (b :: rest) = .ok (true, b :: rest) := by
  rw [hasItem, run_bind_next space]
  show (if _ then _ else _ : Reader Bool).run _ = _
  rw [if_neg bracket]
  rfl

theorem run_hasItem_later {b : UInt8} (space : isSpace b = false) (bracket : b ≠ byte ']') (rest : Bytes) :
    (hasItem false).run (byte ',' :: b :: rest) = .ok (true, b :: rest) := by
  rw [hasItem, run_bind_next (by decide)]
  show (drop >>= _).run _ = _
  rw [run_bind_drop, run_bind_next space]
  show (if _ then _ else _ : Reader Bool).run _ = _
  rw [if_neg bracket]
  rfl

-- The reader of an item takes a printed value as `f` says and leaves what follows alone.
def Takes (item : σ → Reader σ) (f : σ → Json → Except Fault σ) (j : Json) : Prop :=
  ∀ s rest, Ends rest → (item s).run (ofChars (print j) ++ rest) = (f s j).map (·, rest)

theorem foldlM_cons_ok {α : Type} {f : σ → α → Except Fault σ} {s t : σ} {a : α} (h : f s a = .ok t)
    (as : List α) : (a :: as).foldlM f s = as.foldlM f t := by
  rw [List.foldlM_cons, h]
  rfl

theorem foldlM_cons_error {α : Type} {f : σ → α → Except Fault σ} {s : σ} {e : Fault} {a : α}
    (h : f s a = .error e) (as : List α) : (a :: as).foldlM f s = .error e := by
  rw [List.foldlM_cons, h]
  rfl

section Items

variable {item : σ → Reader σ} {f : σ → Json → Except Fault σ}

theorem runs_item {first : Bool} {s : σ} {j : Json} {js : List Json} {input rest : Bytes}
    (taken : Takes item f j)
    (follows : (hasItem first).run input =
      .ok (true, ofChars (print j) ++ (ofChars (printItems js) ++ rest)))
    (shorter : (ofChars (printItems js) ++ rest).length < input.length)
    (later : ∀ s, Runs (itemStep item) (false, s) (ofChars (printItems js) ++ rest)
      ((js.foldlM f s).map (·, rest))) :
    Runs (itemStep item) (first, s) input (((j :: js).foldlM f s).map (·, rest)) := by
  have read := taken s _ (ends_printItems js rest)
  cases h : f s j with
  | error e =>
    rw [foldlM_cons_error h]
    apply Runs.fail
    rw [itemStep, run_bind_ok follows]
    exact run_bind_error (by rw [read, h]; rfl)
  | ok s' =>
    rw [foldlM_cons_ok h]
    refine .step (t := (false, s')) ?_ shorter (later s')
    rw [itemStep, run_bind_ok follows]
    exact run_bind_ok (by rw [read, h]; rfl)

theorem runs_items {js : List Json} (whole : ∀ j ∈ js, j.IsWhole) (taken : ∀ j ∈ js, Takes item f j)
    (s : σ) (rest : Bytes) :
    Runs (itemStep item) (false, s) (ofChars (printItems js) ++ rest)
      ((js.foldlM f s).map (·, rest)) := by
  induction js generalizing s with
  | nil => exact .stop rfl
  | cons j js ih =>
    obtain ⟨b, bytes, eq, space, bracket, -⟩ := print_first (whole j (by simp))
    rw [printItems, ofChars_cons_ascii (by decide), ofChars_append, List.cons_append, List.append_assoc]
    refine runs_item (taken j (by simp)) ?_ (by simp only [List.length_cons, List.length_append]; omega)
      (ih (fun i hi => whole i (by simp [hi])) fun i hi => taken i (by simp [hi]))
    rw [eq]
    exact run_hasItem_later space bracket _

theorem run_foldItems {js : List Json} (whole : ∀ j ∈ js, j.IsWhole) (taken : ∀ j ∈ js, Takes item f j)
    (s : σ) (rest : Bytes) :
    (foldItems item s).run (ofChars (itemsText js) ++ rest) = (js.foldlM f s).map (·, rest) := by
  -- The first item has no comma in front, so it is apart from the induction over the others.
  apply run_loop
  cases js with
  | nil => exact .stop rfl
  | cons j js =>
    obtain ⟨b, bytes, eq, space, bracket, -⟩ := print_first (whole j (by simp))
    rw [itemsText, ofChars_append, List.append_assoc]
    apply runs_item (taken j (by simp))
    · rw [eq]
      exact run_hasItem_first space bracket _
    · simp only [eq, List.length_append, List.length_cons]
      omega
    · intro s
      exact runs_items (fun i hi => whole i (by simp [hi])) (fun i hi => taken i (by simp [hi])) s rest

end Items

theorem run_hasMember_first (rest : Bytes) :
    (hasMember true).run (byte '"' :: rest) = .ok (true, rest) := rfl

theorem run_hasMember_later (rest : Bytes) :
    (hasMember false).run (byte ',' :: byte '"' :: rest) = .ok (true, rest) := rfl

theorem run_colon (rest : Bytes) : colon.run (byte ':' :: rest) = .ok ((), rest) := rfl

def TakesMember (member : String → σ → Reader σ) (f : σ → String × Json → Except Fault σ)
    (m : String × Json) : Prop :=
  ∀ s rest, Ends rest →
    (member m.1 s).run (byte ':' :: (ofChars (print m.2) ++ rest)) = (f s m).map (·, rest)

section Members

variable {member : String → σ → Reader σ} {f : σ → String × Json → Except Fault σ}

theorem runs_member {first : Bool} {s : σ} {m : String × Json} {ms : Members} {input rest : Bytes}
    (taken : TakesMember member f m)
    (follows : (hasMember first).run input = .ok (true, ofChars (m.1.toList.flatMap escape) ++
      byte '"' :: byte ':' :: (ofChars (print m.2) ++ (ofChars (printMembers ms) ++ rest))))
    (shorter : (ofChars (printMembers ms) ++ rest).length < input.length)
    (later : ∀ s, Runs (memberStep string member) (false, s) (ofChars (printMembers ms) ++ rest)
      ((ms.foldlM f s).map (·, rest))) :
    Runs (memberStep string member) (first, s) input (((m :: ms).foldlM f s).map (·, rest)) := by
  have read := taken s _ (ends_printMembers ms rest)
  cases h : f s m with
  | error e =>
    rw [foldlM_cons_error h]
    apply Runs.fail
    rw [memberStep, run_bind_ok follows]
    apply (run_bind_ok (run_string m.1 _)).trans
    exact run_bind_error (by rw [read, h]; rfl)
  | ok s' =>
    rw [foldlM_cons_ok h]
    refine .step (t := (false, s')) ?_ shorter (later s')
    rw [memberStep, run_bind_ok follows]
    apply (run_bind_ok (run_string m.1 _)).trans
    exact run_bind_ok (by rw [read, h]; rfl)

theorem ofChars_member (k : String) (j : Json) (more : List Char) (rest : Bytes) :
    ofChars (printString k ++ ':' :: (print j ++ more)) ++ rest =
      byte '"' :: (ofChars (k.toList.flatMap escape) ++
        byte '"' :: byte ':' :: (ofChars (print j) ++ (ofChars more ++ rest))) := by
  rw [ofChars_append, ofChars_printString, ofChars_cons_ascii (by decide), ofChars_append]
  simp

theorem runs_members {ms : Members} (taken : ∀ m ∈ ms, TakesMember member f m) (s : σ) (rest : Bytes) :
    Runs (memberStep string member) (false, s) (ofChars (printMembers ms) ++ rest)
      ((ms.foldlM f s).map (·, rest)) := by
  induction ms generalizing s with
  | nil => exact .stop rfl
  | cons m ms ih =>
    rw [printMembers, ofChars_cons_ascii (by decide), List.cons_append, ofChars_member]
    apply runs_member (taken m (by simp)) (run_hasMember_later _)
      (by simp only [List.length_cons, List.length_append]; omega)
    intro s
    exact ih (fun i hi => taken i (by simp [hi])) s

theorem run_foldMembers {ms : Members} (taken : ∀ m ∈ ms, TakesMember member f m) (s : σ)
    (rest : Bytes) :
    (foldMembers string member s).run (ofChars (membersText ms) ++ rest) =
      (ms.foldlM f s).map (·, rest) := by
  apply run_loop
  cases ms with
  | nil => exact .stop rfl
  | cons m ms =>
    rw [membersText, ofChars_member]
    apply runs_member (taken m (by simp)) (run_hasMember_first _)
      (by simp only [List.length_cons, List.length_append]; omega)
    intro s
    exact runs_members (fun i hi => taken i (by simp [hi])) s rest

end Members

def within {α : Type} (depth limit : Nat) (a : α) : Except Fault α :=
  if depth ≤ limit then .ok a else .error .malformed

theorem foldlM_within {α : Type} {one : α → Nat} {all : List α → Nat} (nil : all [] = 0)
    (cons : ∀ a as, all (a :: as) = max (one a) (all as)) (limit : Nat) (as acc : List α) :
    as.foldlM (fun acc a => within (one a) limit (a :: acc)) acc =
      within (all as) limit (as.reverse ++ acc) := by
  induction as generalizing acc with
  | nil =>
    rw [nil]
    rfl
  | cons a as ih =>
    by_cases h : one a ≤ limit
    · rw [foldlM_cons_ok (t := a :: acc) (if_pos h), ih]
      simp [within, cons, h]
    · rw [foldlM_cons_error (e := .malformed) (if_neg h)]
      simp [within, cons, h]

theorem run_reversed {α : Type} {r : Reader (List α)} {depth limit : Nat} {as : List α}
    {input rest : Bytes} (h : r.run input = (within depth limit (as.reverse ++ [])).map (·, rest)) :
    (do return (← r).reverse : Reader (List α)).run input = (within depth limit as).map (·, rest) := by
  rw [StateT.run_bind, h, List.append_nil]
  by_cases shallow : depth ≤ limit
  · rw [within, if_pos shallow, within, if_pos shallow]
    show Except.ok (as.reverse.reverse, rest) = _
    rw [List.reverse_reverse]
    rfl
  · rw [within, if_neg shallow, within, if_neg shallow]
    rfl

theorem run_items {limit : Nat} {js : List Json} (whole : ∀ j ∈ js, j.IsWhole)
    (taken : ∀ j ∈ js, ∀ rest, Ends rest →
      (tree limit).run (ofChars (print j) ++ rest) = (within j.depth limit j).map (·, rest))
    (rest : Bytes) :
    (items (tree limit)).run (ofChars (itemsText js) ++ rest) =
      (within (depthItems js) limit js).map (·, rest) := by
  have each : ∀ j ∈ js, Takes (fun acc => do return (← tree limit) :: acc)
      (fun acc j => within j.depth limit (j :: acc)) j := by
    intro j hj acc rest ends
    rw [StateT.run_bind, taken j hj rest ends]
    by_cases h : j.depth ≤ limit <;> simp [within, h] <;> rfl
  have folded := run_foldItems whole each [] rest
  rw [@foldlM_within _ _ depthItems rfl fun _ _ => rfl] at folded
  exact run_reversed folded

theorem run_members {limit : Nat} {ms : Members}
    (taken : ∀ m ∈ ms, ∀ rest, Ends rest →
      (tree limit).run (ofChars (print m.2) ++ rest) = (within m.2.depth limit m.2).map (·, rest))
    (rest : Bytes) :
    (members (tree limit)).run (ofChars (membersText ms) ++ rest) =
      (within (depthMembers ms) limit ms).map (·, rest) := by
  have each : ∀ m ∈ ms, TakesMember (fun k acc => do
      colon
      return (k, ← tree limit) :: acc) (fun acc m => within m.2.depth limit (m :: acc)) m := by
    intro m hm acc rest ends
    rw [run_bind_ok (run_colon _), StateT.run_bind, taken m hm rest ends]
    by_cases h : m.2.depth ≤ limit <;> simp [within, h] <;> rfl
  have folded := run_foldMembers each [] rest
  rw [@foldlM_within _ _ depthMembers rfl fun _ _ => rfl] at folded
  exact run_reversed folded

theorem run_digit {array object : Reader Json} {b : UInt8} (h : isDigit b = true) (rest : Bytes) :
    (valueWith array object).run (b :: rest) = (number false).run (b :: rest) := by
  have others : ∀ c ∈ ['n', 't', 'f', '-'], isDigit (byte c) = false := by
    intro c hc
    simp only [List.mem_cons, List.not_mem_nil, or_false] at hc
    rcases hc with rfl | rfl | rfl | rfl <;> rfl
  have letter : ∀ c ∈ ['n', 't', 'f', '-'], b ≠ byte c := by
    intro c hc same
    rw [same, others c hc] at h
    cases h
  rw [valueWith, run_bind_next (not_space_of_digit h)]
  simp only [letter, List.mem_cons, true_or, or_true, if_false, h, if_true]

theorem run_int {array object : Reader Json} {n : Int} (range : InRange n) {rest : Bytes}
    (ends : Ends rest) :
    (valueWith array object).run (ofChars (print (.int n)) ++ rest) = .ok (.int n, rest) := by
  rw [print, printInt]
  obtain ⟨low, high⟩ := range
  split_ifs with negative
  · rw [ofChars_cons_ascii (by decide), List.cons_append, ofChars_toDigits]
    show (number true).run ((Nat.toDigits 10 n.natAbs).map byte ++ rest) = _
    rw [run_number_neg (by omega) (by omega) ends, show -(n.natAbs : Int) = n by omega]
  · have digits := run_number_pos (n := n.natAbs) (by omega) ends
    rw [show (n.natAbs : Int) = n by omega] at digits
    rw [ofChars_toDigits]
    cases h : Nat.toDigits 10 n.natAbs with
    | nil => exact absurd h Nat.toDigits_ne_nil
    | cons c cs =>
      rw [h] at digits
      rw [List.map_cons, List.cons_append, run_digit]
      · exact digits
      · exact isDigit_byte (digit_toDigits (n := n.natAbs) (by simp [h]))

theorem run_scalar {array object : Reader Json} {j : Json} (whole : j.IsWhole) (scalar : j.depth = 0)
    {rest : Bytes} (ends : Ends rest) :
    (valueWith array object).run (ofChars (print j) ++ rest) = .ok (j, rest) := by
  cases j with
  | null =>
    show (word ['u', 'l', 'l'] >>= fun _ => pure Json.null).run (['u', 'l', 'l'].map byte ++ rest) = _
    rw [run_bind_ok (run_word _ _)]
    rfl
  | bool b =>
    cases b with
    | true =>
      show (word ['r', 'u', 'e'] >>= fun _ => pure (Json.bool true)).run
        (['r', 'u', 'e'].map byte ++ rest) = _
      rw [run_bind_ok (run_word _ _)]
      rfl
    | false =>
      show (word ['a', 'l', 's', 'e'] >>= fun _ => pure (Json.bool false)).run
        (['a', 'l', 's', 'e'].map byte ++ rest) = _
      rw [run_bind_ok (run_word _ _)]
      rfl
  | int n => exact run_int whole ends
  | float x => exact absurd whole (by simp [IsWhole])
  | str s =>
    rw [print, ofChars_printString, List.cons_append, List.append_assoc]
    show (string >>= fun s => pure (Json.str s)).run
      (ofChars (s.toList.flatMap escape) ++ byte '"' :: rest) = _
    rw [run_bind_ok (run_string s rest)]
    rfl
  | arr js => simp [depth] at scalar
  | obj ms => simp [depth] at scalar

theorem run_array {array object : Reader Json} (js : List Json) (rest : Bytes) :
    (valueWith array object).run (ofChars (print (.arr js)) ++ rest) =
      array.run (ofChars (itemsText js) ++ rest) := by
  rw [print_arr, ofChars_cons_ascii (by decide), List.cons_append]
  rfl

theorem run_object {array object : Reader Json} (ms : Members) (rest : Bytes) :
    (valueWith array object).run (ofChars (print (.obj ms)) ++ rest) =
      object.run (ofChars (membersText ms) ++ rest) := by
  rw [print_obj, ofChars_cons_ascii (by decide), List.cons_append]
  rfl

/-- A printed value is read as it is, up to the limit of depth; a deeper one is malformed. -/
theorem run_tree {limit : Nat} {j : Json} (whole : j.IsWhole) {rest : Bytes} (ends : Ends rest) :
    (tree limit).run (ofChars (print j) ++ rest) = (within j.depth limit j).map (·, rest) := by
  -- On the limit, which is what the reader recurses on. The values inside are then smaller by themselves.
  induction limit generalizing j rest with
  | zero =>
    cases j with
    | arr js => rw [tree, run_array]; rfl
    | obj ms => rw [tree, run_object]; rfl
    | null | bool | int | float | str => rw [tree, run_scalar whole rfl ends]; rfl
  | succ limit ih =>
    cases j with
    | arr js =>
      have inner := isWhole_arr_iff.mp whole
      rw [tree, run_array, StateT.run_bind, run_items inner fun j hj _ => ih (inner j hj)]
      by_cases h : depthItems js ≤ limit <;> simp [within, depth, h] <;> rfl
    | obj ms =>
      have inner := isWhole_obj_iff.mp whole
      rw [tree, run_object, StateT.run_bind, run_members fun m hm _ => ih (inner m hm)]
      by_cases h : depthMembers ms ≤ limit <;> simp [within, depth, h] <;> rfl
    | null | bool | int | float | str => rw [tree, run_scalar whole rfl ends]; rfl

theorem run_tree_of_shallow {limit : Nat} {j : Json} (whole : j.IsWhole) (shallow : j.depth ≤ limit)
    {rest : Bytes} (ends : Ends rest) : (tree limit).run (ofChars (print j) ++ rest) = .ok (j, rest) := by
  rw [run_tree whole ends, within, if_pos shallow]
  rfl

end Reader

theorem read_text {j : Json} (whole : j.IsWhole) (canonical : j.IsCanonical) :
    read (Bytes.ofText j.text) = Reader.within j.depth maxDepth j := by
  have taken : (Reader.tree maxDepth).run (Bytes.ofChars (print j) ++ []) = _ :=
    Reader.run_tree whole Reader.ends_nil
  rw [List.append_nil] at taken
  rw [read, Reader.whole, text, Bytes.ofText_ofList, taken]
  by_cases h : j.depth ≤ maxDepth
  · rw [Reader.within, if_pos h]
    exact congrArg Except.ok (canonical_of_isCanonical canonical)
  · rw [Reader.within, if_neg h]
    rfl

end VpExchange.Json
