import VpExchange.Proofs.Json.RoundTrip

set_option autoImplicit false

namespace VpExchange.Json

mutual

def Each (holds : Json → Prop) : Json → Prop
  | .arr items => ItemsEach holds items
  | .obj members => MembersEach holds members
  | j => holds j

def ItemsEach (holds : Json → Prop) : List Json → Prop
  | [] => True
  | j :: rest => Each holds j ∧ ItemsEach holds rest

def MembersEach (holds : Json → Prop) : List (String × Json) → Prop
  | [] => True
  | (_, j) :: rest => Each holds j ∧ MembersEach holds rest

end

variable {holds : Json → Prop}

theorem each_arr_iff {js : List Json} : (arr js).Each holds ↔ ∀ j ∈ js, j.Each holds := by
  rw [Each]
  induction js with
  | nil => simp [ItemsEach]
  | cons j js ih => simp [ItemsEach, ih]

theorem each_obj_iff {ms : Members} : (obj ms).Each holds ↔ ∀ m ∈ ms, m.2.Each holds := by
  rw [Each]
  induction ms with
  | nil => simp [MembersEach]
  | cons m ms ih => simp [MembersEach, ih]

def Ranged : Json → Prop := Each fun
  | .int n => Reader.InRange n
  | _ => True

def IsFractionless : Json → Prop := Each fun
  | .float _ => False
  | _ => True

mutual

theorem isWhole_of_ranged : ∀ {j : Json}, j.Ranged → j.IsFractionless → j.IsWhole
  | .null, _, _ | .bool _, _, _ | .str _, _, _ => trivial
  | .int _, ranged, _ => ranged
  | .arr _, ranged, fractionless => itemsWhole_of_ranged ranged fractionless
  | .obj _, ranged, fractionless => membersWhole_of_ranged ranged fractionless

theorem itemsWhole_of_ranged : ∀ {items : List Json}, (arr items).Ranged → (arr items).IsFractionless →
    ItemsWhole items
  | [], _, _ => trivial
  | _ :: _, ⟨ranged, laterRanged⟩, ⟨fractionless, later⟩ =>
    ⟨isWhole_of_ranged ranged fractionless, itemsWhole_of_ranged laterRanged later⟩

theorem membersWhole_of_ranged : ∀ {members : Members}, (obj members).Ranged →
    (obj members).IsFractionless → MembersWhole members
  | [], _, _ => trivial
  | (_, _) :: _, ⟨ranged, laterRanged⟩, ⟨fractionless, later⟩ =>
    ⟨isWhole_of_ranged ranged fractionless, membersWhole_of_ranged laterRanged later⟩

end

theorem depthMembers_le {ms : Members} {n : Nat} (h : ∀ m ∈ ms, m.2.depth ≤ n) : depthMembers ms ≤ n := by
  induction ms with
  | nil => exact Nat.zero_le n
  | cons m ms ih =>
    rw [depthMembers]
    exact Nat.max_le.mpr ⟨h m (by simp), ih fun m hm => h m (by simp [hm])⟩

theorem depthItems_le {js : List Json} {n : Nat} (h : ∀ j ∈ js, j.depth ≤ n) : depthItems js ≤ n := by
  induction js with
  | nil => exact Nat.zero_le n
  | cons j js ih =>
    rw [depthItems]
    exact Nat.max_le.mpr ⟨h j (by simp), ih fun j hj => h j (by simp [hj])⟩

theorem depth_le_of_mem_items {js : List Json} {j : Json} (h : j ∈ js) : j.depth ≤ depthItems js := by
  induction js with
  | nil => cases h
  | cons j' js ih =>
    rw [depthItems]
    rcases List.mem_cons.mp h with rfl | later
    · exact Nat.le_max_left _ _
    · exact (ih later).trans (Nat.le_max_right _ _)

mutual

theorem each_canonical : ∀ {j : Json}, j.Each holds → j.canonical.Each holds
  | .null, h | .bool _, h | .int _, h | .float _, h | .str _, h => h
  | .arr items, h => itemsEach_canonicalItems (show ItemsEach holds items from h)
  | .obj members, h => by
    refine each_obj_iff.mpr fun m inside => ?_
    have each := membersEach_canonicalMembers (show MembersEach holds members from h)
    exact each_obj_iff.mp each m (Members.mem_ofList inside)

theorem itemsEach_canonicalItems : ∀ {items : List Json}, ItemsEach holds items →
    ItemsEach holds (canonicalItems items)
  | [], _ => trivial
  | _ :: _, ⟨first, later⟩ => ⟨each_canonical first, itemsEach_canonicalItems later⟩

theorem membersEach_canonicalMembers : ∀ {members : Members}, MembersEach holds members →
    MembersEach holds (canonicalMembers members)
  | [], _ => trivial
  | (_, _) :: _, ⟨first, later⟩ => ⟨each_canonical first, membersEach_canonicalMembers later⟩

end

mutual

theorem depth_canonical_le : ∀ j : Json, j.canonical.depth ≤ j.depth
  | .null | .bool _ | .int _ | .float _ | .str _ => Nat.le_refl _
  | .arr items => Nat.succ_le_succ (depthItems_canonicalItems_le items)
  | .obj members => by
    refine Nat.succ_le_succ (depthMembers_le fun m inside => ?_)
    exact (depth_le_of_mem (Members.mem_ofList inside)).trans (depthMembers_canonicalMembers_le members)

theorem depthItems_canonicalItems_le : ∀ items : List Json,
    depthItems (canonicalItems items) ≤ depthItems items
  | [] => Nat.le_refl _
  | j :: rest => by
    rw [canonicalItems, depthItems, depthItems]
    exact max_le_max (depth_canonical_le j) (depthItems_canonicalItems_le rest)

theorem depthMembers_canonicalMembers_le : ∀ members : Members,
    depthMembers (canonicalMembers members) ≤ depthMembers members
  | [] => Nat.le_refl _
  | (_, j) :: rest => by
    rw [canonicalMembers, depthMembers, depthMembers]
    exact max_le_max (depth_canonical_le j) (depthMembers_canonicalMembers_le rest)

end

end VpExchange.Json
