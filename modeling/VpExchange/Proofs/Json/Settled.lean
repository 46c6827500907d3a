import VpExchange.Proofs.Json.Record
import VpExchange.Proofs.Json.Yields
import VpExchange.Proofs.Refusal

set_option autoImplicit false

namespace VpExchange.Json

open Reader

namespace Format

variable {α β : Type}

/-- Is written within the limit and read back, unless there is a fraction in it. -/
def Settled (f : Format α) (limit : Nat) (a : α) : Prop :=
  (f.toJson a).IsFractionless → f.Reads a ∧ (f.toJson a).depth ≤ limit

/-- Whatever is read of a text or taken from a value is settled. What stands in for missing parts nests so deep
of its own. -/
structure Settles (f : Format α) (own : Nat) : Prop where
  read : ∀ {limit : Nat}, own ≤ limit → (f.read limit).Yields (f.Settled limit)
  ofJson : ∀ {limit : Nat} {j : Json} {a : α}, own ≤ limit → j.Ranged → j.depth ≤ limit →
    f.ofJson j = some a → f.Settled limit a

variable {f : Format α} {own : Nat}

theorem Settles.mono (h : f.Settles own) {more : Nat} (le : own ≤ more) : f.Settles more where
  read room := h.read (le.trans room)
  ofJson room := h.ofJson (le.trans room)

theorem Settled.mono {limit more : Nat} {a : α} (h : f.Settled limit a) (le : limit ≤ more) : f.Settled more a :=
  fun fractionless => (h fractionless).imp_right (·.trans le)

theorem Settles.decodeText_encode (h : f.Settles own) (small : own ≤ maxDepth) {t : Bytes} {a : α}
    (decoded : f.decode t = .ok a) (fractionless : (f.toJson a).IsFractionless) :
    f.decodeText (f.encode a) = .ok a := by
  have settled : f.Settled maxDepth a := by
    rw [decode, Reader.whole] at decoded
    cases run : (f.read maxDepth).run t with
    | error e =>
      rw [run] at decoded
      cases decoded
    | ok taken =>
      obtain ⟨b, rest⟩ := taken
      rw [run] at decoded
      change (if _ then _ else _ : Except Fault α) = _ at decoded
      split_ifs at decoded
      · cases decoded
        exact (h.read small).of_run run
  obtain ⟨reads, shallow⟩ := settled fractionless
  exact Format.decodeText_encode reads shallow

theorem settles_of_flat (reads : ∀ a, f.Reads a) (flat : ∀ a, (f.toJson a).depth = 0) : f.Settles 0 where
  read _ := ⟨fun _ _ => ⟨reads _, flat _ ▸ Nat.zero_le _⟩⟩
  ofJson {_ _ a} _ _ _ _ _ := ⟨reads a, flat a ▸ Nat.zero_le _⟩

theorem settles_string : string.Settles 0 := settles_of_flat reads_string fun _ => rfl

theorem reads_bool (b : Bool) : bool.Reads b where
  whole := trivial
  ofJson := rfl
  read _ ends := (run_bind_ok (run_scalar (j := .bool b) trivial rfl ends)).trans rfl

theorem settles_bool : bool.Settles 0 := settles_of_flat reads_bool fun _ => rfl

theorem reads_natBelow {bound n : Nat} (below : n < bound) (small : bound ≤ 2 ^ 64) :
    (natBelow bound).Reads n := by
  have inside : (0 : Int) ≤ n ∧ (n : Int) < bound := by omega
  have range : InRange n := by constructor <;> omega
  refine ⟨range, ?_, fun _ ends => ?_⟩
  · show (if _ then _ else _) = some n
    rw [if_pos inside]
    rfl
  · apply (run_bind_ok (run_scalar (j := .int n) range rfl ends)).trans
    show (if _ then _ else _ : Reader Nat).run _ = _
    rw [if_pos inside]
    rfl

theorem settles_natBelow {bound : Nat} (small : bound ≤ 2 ^ 64) : (natBelow bound).Settles 0 := by
  have settled {limit : Nat} {n : Int} (inside : 0 ≤ n ∧ n < bound) :
      (natBelow bound).Settled limit n.toNat := by
    intro _
    exact ⟨reads_natBelow (by omega) small, Nat.zero_le _⟩
  constructor
  · intro limit _
    apply yields_after
    intro j
    split
    · split_ifs with inside
      · exact yields_pure (settled inside)
      · exact yields_throw _
    · exact yields_throw _
  · intro limit j n _ _ _ taken
    cases j with
    | int m =>
      change (if _ then _ else _) = _ at taken
      split_ifs at taken with inside
      cases taken
      exact settled inside
    | _ => cases taken

theorem reads_buffered {ofJson : Json → Option α} {toJson : α → Json} {a : α} (whole : (toJson a).IsWhole)
    (back : ofJson (toJson a) = some a) : (buffered ofJson toJson).Reads a where
  whole := whole
  ofJson := back
  read {limit rest} shallow ends := by
    apply (run_bind_ok (run_tree_of_shallow whole shallow ends)).trans
    rw [back]
    rfl

theorem settles_buffered {ofJson : Json → Option α} {toJson : α → Json}
    (h : ∀ {j a}, ofJson j = some a → j.Ranged → (toJson a).Ranged ∧ (toJson a).depth ≤ j.depth ∧
      ofJson (toJson a) = some a) : (buffered ofJson toJson).Settles 0 := by
  have settled {limit : Nat} {j : Json} {a : α} (ranged : j.Ranged) (shallow : j.depth ≤ limit)
      (taken : ofJson j = some a) : (buffered ofJson toJson).Settled limit a := by
    intro fractionless
    obtain ⟨ranged', flatter, back⟩ := h taken ranged
    exact ⟨reads_buffered (isWhole_of_ranged ranged' fractionless) back, flatter.trans shallow⟩
  refine ⟨?_, fun _ ranged shallow => settled ranged shallow⟩
  intro limit _
  apply yields_bind (yields_tree limit)
  rintro j ⟨ranged, shallow⟩
  split
  next a taken => exact yields_pure (settled ranged shallow taken)
  next => exact yields_throw _

theorem settles_json : json.Settles 0 := by
  show (buffered (fun j => some j.canonical) id).Settles 0
  apply settles_buffered
  rintro j _ ⟨⟩ ranged
  exact ⟨each_canonical ranged, depth_canonical_le j, congrArg some (canonical_canonical j)⟩

theorem reads_members {ms : Members} (whole : (obj ms).IsWhole) (canonical : (obj ms).IsCanonical) :
    members.Reads ms := by
  have same : Members.ofList (canonicalMembers ms) = ms := Json.obj.inj (canonical_of_isCanonical canonical)
  refine ⟨whole, congrArg some same, ?_⟩
  intro limit rest shallow _
  have inner : depthMembers ms + 1 ≤ limit := shallow
  obtain ⟨limit, rfl⟩ := Nat.exists_eq_add_one_of_ne_zero (Nat.ne_zero_of_lt inner)
  have taken : (Reader.members (tree limit)).run (Bytes.ofChars (membersText ms) ++ rest) = .ok (ms, rest) := by
    rw [run_members fun m inside _ ends => run_tree (isWhole_obj_iff.mp whole m inside) ends, within,
      if_pos (Nat.le_of_succ_le_succ inner)]
    rfl
  show (members.read (limit + 1)).run (Bytes.ofChars (print (.obj ms)) ++ rest) = _
  rw [print_obj, ofChars_cons_ascii (by decide), List.cons_append]
  show (Reader.members (tree limit) >>= fun ms => pure (Members.ofList (canonicalMembers ms))).run
    (Bytes.ofChars (membersText ms) ++ rest) = _
  rw [run_bind_ok taken, same]
  rfl

theorem settles_members : members.Settles 0 := by
  have settled {limit : Nat} {ms : Members} (ranged : (obj ms).Ranged) (shallow : (obj ms).depth ≤ limit) :
      members.Settled limit (Members.ofList (canonicalMembers ms)) := by
    intro fractionless
    exact ⟨reads_members (isWhole_of_ranged (each_canonical ranged) fractionless)
      (isCanonical_canonical (.obj ms)), (depth_canonical_le (.obj ms)).trans shallow⟩
  constructor
  · intro limit _
    apply yields_after
    intro b
    cases b with
    | none => exact yields_throw _
    | some b =>
      show Yields (if _ then _ else _) _
      split_ifs
      · cases limit with
        | zero => exact yields_throw _
        | succ limit =>
          apply yields_after
          intro _
          apply (yields_members (yields_tree limit)).map
          intro ms good
          exact settled (each_obj_iff.mpr fun m inside => (good m inside).1)
            (Nat.succ_le_succ (depthMembers_le fun m inside => (good m inside).2))
      · exact yields_after _ fun _ => yields_throw _
  · intro limit j ms _ ranged shallow taken
    cases j with
    | obj ms =>
      cases taken
      exact settled ranged shallow
    | _ => cases taken

theorem settles_transport {of : α → β} {back : β → α} (h : f.Settles own) (inverse : ∀ a, back (of a) = a) :
    (f.transport of back).Settles own := by
  have settled {limit : Nat} {a : α} (h : f.Settled limit a) : (f.transport of back).Settled limit (of a) := by
    intro fractionless
    rw [transport] at fractionless ⊢
    simp only [inverse] at fractionless ⊢
    obtain ⟨reads, shallow⟩ := h fractionless
    exact ⟨reads_transport ((inverse a).symm ▸ reads) (congrArg of (inverse a)), shallow⟩
  refine ⟨fun room => (h.read room).map fun a => settled, ?_⟩
  intro limit j b room ranged shallow taken
  obtain ⟨a, inner, rfl⟩ := Option.map_eq_some_iff.mp taken
  exact settled (h.ofJson room ranged shallow inner)

theorem settled_option_some {limit : Nat} {a : α} (h : f.Settled limit a) (written : f.toJson a ≠ .null) :
    f.option.Settled limit (some a) :=
  fun fractionless => (h fractionless).imp_left (reads_option_some · written)

theorem settled_option_none (f : Format α) (limit : Nat) : f.option.Settled limit none :=
  fun _ => ⟨reads_option_none f, Nat.zero_le limit⟩

structure KeepsNull (f : Format α) : Prop where
  read : ∀ {limit : Nat} {input rest : Bytes} {a : α},
    (∀ b ∈ input.head?, isSpace b = false ∧ b ≠ byte 'n') →
      (f.read limit).run input = .ok (a, rest) → f.toJson a ≠ .null
  ofJson : ∀ {j : Json} {a : α}, j ≠ .null → f.ofJson j = some a → f.toJson a ≠ .null

theorem keepsNull_of_never (never : ∀ a, f.toJson a ≠ .null) : f.KeepsNull where
  read _ _ := never _
  ofJson _ _ := never _

theorem keepsNull_json : json.KeepsNull := by
  have kept {j : Json} (other : j ≠ .null) : j.canonical ≠ .null := by
    cases j with
    | null => exact absurd rfl other
    | _ => nofun
  constructor
  · intro limit input rest a begins run
    obtain ⟨j, left, taken, same⟩ := of_run_bind run
    cases same
    refine kept ?_
    cases input with
    | nil => cases limit <;> cases taken
    | cons b input => exact tree_ne_null (begins b rfl).1 (begins b rfl).2 taken
  · rintro j _ other ⟨⟩
    exact kept other

theorem settles_option (h : f.Settles own) (keeps : f.KeepsNull) : f.option.Settles own := by
  constructor
  · intro limit room
    constructor
    intro input a rest run
    have space b (first : (input.dropWhile isSpace).head? = some b) : isSpace b = false := by
      have stops := List.head?_dropWhile_not isSpace input
      rw [first] at stops
      exact stops
    change (if _ then _ else _ : Reader (Option α)).run (input.dropWhile isSpace) = _ at run
    split_ifs at run with letter
    · have none : Yields (do
          drop
          word ['u', 'l', 'l']
          return (Option.none : Option α)) (f.option.Settled limit) :=
        yields_after _ fun _ => yields_after _ fun _ => yields_pure (settled_option_none f limit)
      exact none.of_run run
    · obtain ⟨x, left, value, same⟩ := of_run_bind run
      cases same
      refine settled_option_some ((h.read room).of_run value) (keeps.read ?_ value)
      exact fun b first => ⟨space b first, fun same => letter (same ▸ first)⟩
  · intro limit j a room ranged shallow taken
    cases j with
    | null =>
      cases taken
      exact settled_option_none f limit
    | _ =>
      obtain ⟨a, inner, rfl⟩ := Option.map_eq_some_iff.mp taken
      exact settled_option_some (h.ofJson room ranged shallow inner) (keeps.ofJson (by nofun) inner)

theorem mapM_toJson {as : List α} (back : ∀ a ∈ as, f.ofJson (f.toJson a) = some a) :
    (as.map f.toJson).mapM f.ofJson = some as := by
  induction as with
  | nil => rfl
  | cons a as ih =>
    rw [List.map_cons, List.mapM_cons, back a List.mem_cons_self,
      ih fun a inside => back a (List.mem_cons_of_mem _ inside)]
    rfl

def takeItem (f : Format α) (acc : List α) (j : Json) : Except Fault (List α) :=
  (f.ofJson j).elim (.error .mismatch) fun a => .ok (a :: acc)

theorem takeItem_toJson {a : α} (reads : f.Reads a) (acc : List α) :
    f.takeItem acc (f.toJson a) = .ok (a :: acc) := by
  rw [takeItem, reads.ofJson]
  rfl

theorem foldlM_takeItem {as : List α} (reads : ∀ a ∈ as, f.Reads a) (acc : List α) :
    (as.map f.toJson).foldlM f.takeItem acc = .ok (as.reverse ++ acc) := by
  induction as generalizing acc with
  | nil => rfl
  | cons a as ih =>
    rw [List.map_cons, foldlM_cons_ok (takeItem_toJson (reads a List.mem_cons_self) acc),
      ih fun a inside => reads a (List.mem_cons_of_mem _ inside)]
    simp

theorem run_items_toJson {as : List α} (reads : ∀ a ∈ as, f.Reads a) {limit : Nat}
    (shallow : ∀ a ∈ as, (f.toJson a).depth ≤ limit) (rest : Bytes) :
    (items (f.read limit)).run (Bytes.ofChars (itemsText (as.map f.toJson)) ++ rest) = .ok (as, rest) := by
  have whole : ∀ j ∈ as.map f.toJson, j.IsWhole :=
    List.forall_mem_map.mpr fun a inside => (reads a inside).whole
  have taken : ∀ j ∈ as.map f.toJson,
      Takes (fun acc => do return (← f.read limit) :: acc) f.takeItem j := by
    refine List.forall_mem_map.mpr fun a inside acc rest ends => ?_
    rw [run_bind_ok ((reads a inside).read (shallow a inside) ends), takeItem_toJson (reads a inside)]
    rfl
  have folded := run_foldItems whole taken [] rest
  rw [foldlM_takeItem reads, List.append_nil] at folded
  apply (run_bind_ok folded).trans
  rw [List.reverse_reverse]
  rfl

theorem reads_list {as : List α} (reads : ∀ a ∈ as, f.Reads a) : f.list.Reads as where
  whole := isWhole_arr_iff.mpr (List.forall_mem_map.mpr fun a inside => (reads a inside).whole)
  ofJson := mapM_toJson fun a inside => (reads a inside).ofJson
  read {limit rest} shallow _ := by
    have inner : depthItems (as.map f.toJson) + 1 ≤ limit := shallow
    obtain ⟨limit, rfl⟩ := Nat.exists_eq_add_one_of_ne_zero (Nat.ne_zero_of_lt inner)
    have each : ∀ a ∈ as, (f.toJson a).depth ≤ limit := by
      intro a inside
      exact (depth_le_of_mem_items (List.mem_map_of_mem inside)).trans (Nat.le_of_succ_le_succ inner)
    show (f.list.read (limit + 1)).run (Bytes.ofChars (print (.arr (as.map f.toJson))) ++ rest) = _
    rw [print_arr, ofChars_cons_ascii (by decide), List.cons_append]
    exact run_items_toJson reads each rest

theorem settles_list (h : f.Settles own) : f.list.Settles (own + 1) := by
  have settled {limit : Nat} {as : List α} (each : ∀ a ∈ as, f.Settled limit a) :
      f.list.Settled (limit + 1) as := by
    intro fractionless
    have parts a (inside : a ∈ as) : f.Reads a ∧ (f.toJson a).depth ≤ limit :=
      each a inside (each_arr_iff.mp fractionless _ (List.mem_map_of_mem inside))
    exact ⟨reads_list fun a inside => (parts a inside).1,
      Nat.succ_le_succ (depthItems_le (List.forall_mem_map.mpr fun a inside => (parts a inside).2))⟩
  constructor
  · intro limit room
    obtain ⟨limit, rfl⟩ := Nat.exists_eq_add_one_of_ne_zero (Nat.ne_zero_of_lt room)
    apply yields_after
    intro b
    cases b with
    | none => exact yields_throw _
    | some b =>
      show Yields (if _ then _ else _) _
      split_ifs
      · apply yields_after
        intro _
        exact (yields_items (h.read (Nat.le_of_succ_le_succ room))).mono fun as each => settled each
      · exact yields_after _ fun _ => yields_throw _
  · intro limit j as room ranged shallow taken
    obtain ⟨limit, rfl⟩ := Nat.exists_eq_add_one_of_ne_zero (Nat.ne_zero_of_lt room)
    cases j with
    | arr js =>
      apply settled
      intro a inside
      obtain ⟨j, inside, taken⟩ := exists_of_mem_mapM taken a inside
      exact h.ofJson (Nat.le_of_succ_le_succ room) (each_arr_iff.mp ranged j inside)
        ((depth_le_of_mem_items inside).trans (Nat.le_of_succ_le_succ shallow)) taken
    | _ => cases taken

end Format

end VpExchange.Json
