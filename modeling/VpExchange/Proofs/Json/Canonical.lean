import Mathlib.Data.String.Basic
import VpExchange.Json.Basic

set_option autoImplicit false

namespace VpExchange

namespace Members

def Sorted (ms : Members) : Prop := ms.Pairwise fun m m' => m.1 < m'.1

instance (ms : Members) : Decidable ms.Sorted := inferInstanceAs (Decidable (List.Pairwise _ _))

theorem mem_insert {key : String} {value : Json} {ms : Members} {m : String × Json}
    (h : m ∈ ms.insert key value) : m = (key, value) ∨ m ∈ ms := by
  induction ms with
  | nil => exact .inl (List.mem_singleton.mp h)
  | cons head rest ih =>
    rw [insert] at h
    split_ifs at h with before same
    · exact List.mem_cons.mp h
    · rcases List.mem_cons.mp h with rfl | inside
      · exact .inl rfl
      · exact .inr (List.mem_cons_of_mem head inside)
    · rcases List.mem_cons.mp h with rfl | inside
      · exact .inr List.mem_cons_self
      · exact (ih inside).imp_right (List.mem_cons_of_mem head)

theorem sorted_insert {ms : Members} (h : ms.Sorted) (key : String) (value : Json) :
    (ms.insert key value).Sorted := by
  induction ms with
  | nil => exact List.pairwise_singleton _ _
  | cons head rest ih =>
    obtain ⟨first, later⟩ := List.pairwise_cons.mp h
    rw [insert]
    split_ifs with before same
    · refine List.pairwise_cons.mpr ⟨fun m hm => ?_, h⟩
      rcases List.mem_cons.mp hm with rfl | inside
      · exact before
      · exact before.trans (first m inside)
    · exact List.pairwise_cons.mpr ⟨fun m hm => same ▸ first m hm, later⟩
    · refine List.pairwise_cons.mpr ⟨fun m hm => ?_, ih later⟩
      rcases mem_insert hm with rfl | inside
      · exact lt_of_le_of_ne (not_lt.mp before) (Ne.symm same)
      · exact first m inside

theorem insert_of_last {ms : Members} {key : String} (h : ∀ m ∈ ms, m.1 < key) (value : Json) :
    ms.insert key value = ms ++ [(key, value)] := by
  induction ms with
  | nil => rfl
  | cons head rest ih =>
    have before := h head List.mem_cons_self
    rw [insert, if_neg before.not_gt, if_neg before.ne', ih fun m hm => h m (List.mem_cons_of_mem head hm)]
    rfl

theorem mem_ofList {ms : List (String × Json)} {m : String × Json} (h : m ∈ ofList ms) : m ∈ ms := by
  -- The members inserted so far vary, so the induction is about all of them.
  suffices ∀ acc, m ∈ ms.foldl (fun acc m => insert m.1 m.2 acc) acc → m ∈ acc ∨ m ∈ ms from
    (this [] h).resolve_left List.not_mem_nil
  clear h
  intro acc h
  induction ms generalizing acc with
  | nil => exact .inl h
  | cons head rest ih =>
    rcases ih _ h with inside | later
    · rcases mem_insert inside with rfl | before
      · exact .inr List.mem_cons_self
      · exact .inl before
    · exact .inr (List.mem_cons_of_mem head later)

theorem sorted_ofList (ms : List (String × Json)) : (ofList ms).Sorted := by
  suffices ∀ acc : Members, acc.Sorted → (ms.foldl (fun acc m => insert m.1 m.2 acc) acc).Sorted from
    this [] List.Pairwise.nil
  intro acc h
  induction ms generalizing acc with
  | nil => exact h
  | cons m rest ih => exact ih _ (sorted_insert h m.1 m.2)

theorem ofList_of_sorted {ms : Members} (h : ms.Sorted) : ofList ms = ms := by
  suffices ∀ acc : Members, (acc ++ ms).Sorted →
      ms.foldl (fun acc m => insert m.1 m.2 acc) acc = acc ++ ms from this [] h
  clear h
  intro acc h
  induction ms generalizing acc with
  | nil => simp
  | cons m rest ih =>
    have last : ∀ m' ∈ acc, m'.1 < m.1 := fun m' hm' =>
      (List.pairwise_append.mp h).2.2 m' hm' m List.mem_cons_self
    rw [List.append_cons] at h
    rw [List.foldl_cons, insert_of_last last, ih _ h, ← List.append_cons]

theorem mem_of_get? {ms : Members} {key : String} {value : Json} (h : ms.get? key = some value) :
    (key, value) ∈ ms := by
  induction ms with
  | nil => cases h
  | cons head rest ih =>
    obtain ⟨k, v⟩ := head
    rw [get?] at h
    split_ifs at h with same
    · cases h
      exact same ▸ List.mem_cons_self
    · exact List.mem_cons_of_mem (k, v) (ih h)

theorem get?_eq_some_iff_mem {ms : Members} (h : ms.Sorted) {key : String} {value : Json} :
    ms.get? key = some value ↔ (key, value) ∈ ms := by
  refine ⟨mem_of_get?, fun inside => ?_⟩
  induction ms with
  | nil => cases inside
  | cons head rest ih =>
    obtain ⟨first, later⟩ := List.pairwise_cons.mp h
    rw [get?]
    rcases List.mem_cons.mp inside with rfl | inside
    · exact if_pos rfl
    · rw [if_neg (first _ inside).ne, ih later inside]

end Members

namespace Json

mutual

/-- Names are in ascending order, here and in every value inside. An object is made by inserting its
members, so that none is otherwise. -/
def IsCanonical : Json → Prop
  | .arr items => ItemsCanonical items
  | .obj members => Members.Sorted members ∧ MembersCanonical members
  | _ => True

def ItemsCanonical : List Json → Prop
  | [] => True
  | j :: rest => IsCanonical j ∧ ItemsCanonical rest

def MembersCanonical : List (String × Json) → Prop
  | [] => True
  | (_, j) :: rest => IsCanonical j ∧ MembersCanonical rest

end

theorem membersCanonical_iff {ms : Members} : MembersCanonical ms ↔ ∀ m ∈ ms, m.2.IsCanonical := by
  induction ms with
  | nil => simp [MembersCanonical]
  | cons m ms ih => simp [MembersCanonical, ih]

mutual

theorem canonical_of_isCanonical : ∀ {j : Json}, j.IsCanonical → j.canonical = j
  | .null, _ | .bool _, _ | .int _, _ | .float _, _ | .str _, _ => rfl
  | .arr items, h => congrArg arr (canonicalItems_of_canonical (show ItemsCanonical items from h))
  | .obj members, ⟨sorted, inner⟩ => by
    rw [canonical, canonicalMembers_of_canonical inner, Members.ofList_of_sorted sorted]

theorem canonicalItems_of_canonical : ∀ {items : List Json}, ItemsCanonical items →
    canonicalItems items = items
  | [], _ => rfl
  | j :: rest, ⟨first, later⟩ => by
    rw [canonicalItems, canonical_of_isCanonical first, canonicalItems_of_canonical later]

theorem canonicalMembers_of_canonical : ∀ {members : Members}, MembersCanonical members →
    canonicalMembers members = members
  | [], _ => rfl
  | (k, j) :: rest, ⟨first, later⟩ => by
    rw [canonicalMembers, canonical_of_isCanonical first, canonicalMembers_of_canonical later]

end

mutual

theorem isCanonical_canonical : ∀ j : Json, j.canonical.IsCanonical
  | .null | .bool _ | .int _ | .float _ | .str _ => trivial
  | .arr items => itemsCanonical_canonicalItems items
  | .obj members => by
    -- Inserting the members drops repeated names, so that what holds of all of them still holds.
    refine ⟨Members.sorted_ofList _, membersCanonical_iff.mpr fun m hm => ?_⟩
    exact membersCanonical_iff.mp (membersCanonical_canonicalMembers members) m (Members.mem_ofList hm)

theorem itemsCanonical_canonicalItems : ∀ items : List Json, ItemsCanonical (canonicalItems items)
  | [] => trivial
  | j :: rest => ⟨isCanonical_canonical j, itemsCanonical_canonicalItems rest⟩

theorem membersCanonical_canonicalMembers : ∀ members : Members,
    MembersCanonical (canonicalMembers members)
  | [] => trivial
  | (_, j) :: rest => ⟨isCanonical_canonical j, membersCanonical_canonicalMembers rest⟩

end

theorem canonical_canonical (j : Json) : j.canonical.canonical = j.canonical :=
  canonical_of_isCanonical (isCanonical_canonical j)

end Json

end VpExchange
