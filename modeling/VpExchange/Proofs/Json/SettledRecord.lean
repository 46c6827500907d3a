import VpExchange.Proofs.Json.Settled

set_option autoImplicit false

namespace VpExchange.Json

open Reader

namespace Field

variable {α : Type} {f : Format α} {name : String} {own : Nat}

/-- What it reads is settled, and so is what a missing member stands for; a value that is not written is what a
missing member stands for. -/
structure Settles (field : Field α) (own : Nat) : Prop where
  format : field.format.Settles own
  absent : ∀ {a : α}, field.absent = some a → field.format.Settled own a
  trailing : ∀ {a : α}, field.trailing = some a → field.format.Settled own a
  hidden : ∀ {a : α}, field.hidden a = true → field.absent = some a

theorem settles_required (h : f.Settles own) : (required name f).Settles own := ⟨h, nofun, nofun, nofun⟩

theorem settles_defaulted (h : f.Settles own) {value : α} (default : f.Settled own value) :
    (defaulted name f value).Settles own where
  format := h
  absent := by
    rintro _ ⟨⟩
    exact default
  trailing := by
    rintro _ ⟨⟩
    exact default
  hidden := nofun

theorem settles_optional (h : f.Settles own) (keeps : f.KeepsNull) : (optional name f).Settles own where
  format := Format.settles_option h keeps
  absent := by
    rintro _ ⟨⟩
    exact Format.settled_option_none f own
  trailing := nofun
  hidden := nofun

theorem settles_trailingOptional (h : f.Settles own) (keeps : f.KeepsNull) :
    (trailingOptional name f).Settles own :=
  settles_defaulted (Format.settles_option h keeps) (Format.settled_option_none f own)

theorem Settles.hidingNone {field : Field (Option α)} (h : field.Settles own) (absent : field.absent = some none) :
    field.hidingNone.Settles own where
  format := h.format
  absent := h.absent
  trailing := h.trailing
  hidden {a} nothing := by
    cases a with
    | none => exact absent
    | some a => cases nothing

end Field

namespace Fields

def Settles : {ρ σ : Type} → Fields ρ σ → Nat → Prop
  | _, _, .nil, _ => True
  | _, _, .cons field rest, own => field.Settles own ∧ rest.Settles own

def Settled : {ρ σ : Type} → Fields ρ σ → Nat → ρ → Prop
  | _, _, .nil, _, _ => True
  | _, _, .cons field rest, limit, (a, r) => field.format.Settled limit a ∧ rest.Settled limit r

def Filled : {ρ σ : Type} → Fields ρ σ → Nat → σ → Prop
  | _, _, .nil, _, _ => True
  | _, _, .cons field rest, limit, (a, p) =>
    (∀ x, a = some x → field.format.Settled limit x) ∧ rest.Filled limit p

variable {ρ σ : Type} {fs : Fields ρ σ} {own limit : Nat}

theorem filled_none (fs : Fields ρ σ) (limit : Nat) : fs.Filled limit fs.none := by
  induction fs with
  | nil => trivial
  | cons field rest ih => exact ⟨nofun, ih⟩

theorem yields_readMember (h : fs.Settles own) (room : own ≤ limit) (name : String) {p : σ}
    (filled : fs.Filled limit p) : (fs.readMember limit name p).Yields (fs.Filled limit) := by
  induction fs with
  | nil => exact (yields_any _).mono fun _ _ => trivial
  | cons field rest ih =>
    obtain ⟨a, p⟩ := p
    obtain ⟨first, later⟩ := filled
    simp only [readMember]
    split_ifs
    · cases a with
      | some _ => exact yields_throw _
      | none =>
        apply yields_after
        intro _
        exact (h.1.format.read room).map fun a settled => ⟨fun _ same => Option.some.inj same ▸ settled, later⟩
    · exact (ih h.2 later).map fun p filled => ⟨first, filled⟩

theorem filled_takeMember (h : fs.Settles own) (room : own ≤ limit) {m : String × Json} (ranged : m.2.Ranged)
    (shallow : m.2.depth ≤ limit) {p p' : σ} (filled : fs.Filled limit p)
    (taken : fs.takeMember m p = some p') : fs.Filled limit p' := by
  induction fs with
  | nil => trivial
  | cons field rest ih =>
    obtain ⟨name, j⟩ := m
    obtain ⟨a, p⟩ := p
    obtain ⟨first, later⟩ := filled
    simp only [takeMember] at taken
    split_ifs at taken
    · cases a with
      | some _ => cases taken
      | none =>
        obtain ⟨x, value, rfl⟩ := Option.map_eq_some_iff.mp taken
        have settled := h.1.format.ofJson room ranged shallow value
        exact ⟨fun _ same => Option.some.inj same ▸ settled, later⟩
    · obtain ⟨p', inside, rfl⟩ := Option.map_eq_some_iff.mp taken
      exact ⟨first, ih h.2 later inside⟩

theorem settled_finish (h : fs.Settles own) (room : own ≤ limit) {p : σ} (filled : fs.Filled limit p) {r : ρ}
    (finished : fs.finish p = some r) : fs.Settled limit r := by
  induction fs with
  | nil => trivial
  | cons field rest ih =>
    obtain ⟨a, p⟩ := p
    obtain ⟨first, later⟩ := filled
    obtain ⟨x, value, finished⟩ := Option.bind_eq_some_iff.mp finished
    obtain ⟨r, rest, finished⟩ := Option.bind_eq_some_iff.mp finished
    cases finished
    refine ⟨?_, ih h.2 later rest⟩
    cases a with
    | some a => exact first x value
    | none => exact (h.1.absent value).mono room

theorem yields_readItems (h : fs.Settles own) (room : own ≤ limit) (first : Bool) :
    (fs.readItems limit first).Yields (fs.Settled limit) := by
  induction fs generalizing first with
  | nil => exact (yields_any _).mono fun _ _ => trivial
  | cons field rest ih =>
    rw [readItems]
    apply yields_after
    intro follows
    split_ifs
    · apply yields_bind (h.1.format.read room)
      intro a settled
      exact (ih h.2 false).map fun r later => ⟨settled, later⟩
    · split
      next a default =>
        exact (ih h.2 first).map fun r later => ⟨(h.1.trailing default).mono room, later⟩
      next => exact yields_throw _

theorem settled_ofItems (h : fs.Settles own) (room : own ≤ limit) {js : List Json}
    (ranged : ∀ j ∈ js, j.Ranged) (shallow : ∀ j ∈ js, j.depth ≤ limit) {r : ρ}
    (taken : fs.ofItems js = some r) : fs.Settled limit r := by
  induction fs generalizing js with
  | nil => trivial
  | cons field rest ih =>
    cases js with
    | nil =>
      obtain ⟨a, default, taken⟩ := Option.bind_eq_some_iff.mp taken
      obtain ⟨r, later, taken⟩ := Option.bind_eq_some_iff.mp taken
      cases taken
      exact ⟨(h.1.trailing default).mono room, ih h.2 (by simp) (by simp) later⟩
    | cons j js =>
      obtain ⟨a, value, taken⟩ := Option.bind_eq_some_iff.mp taken
      obtain ⟨r, later, taken⟩ := Option.bind_eq_some_iff.mp taken
      cases taken
      obtain ⟨ranged, rangedLater⟩ := List.forall_mem_cons.mp ranged
      obtain ⟨shallow, shallowLater⟩ := List.forall_mem_cons.mp shallow
      exact ⟨h.1.format.ofJson room ranged shallow value, ih h.2 rangedLater shallowLater later⟩

theorem settled_ofMembers (h : fs.Settles own) (room : own ≤ limit) {ms : Members}
    (ranged : ∀ m ∈ ms, m.2.Ranged) (shallow : ∀ m ∈ ms, m.2.depth ≤ limit) {r : ρ}
    (taken : fs.ofMembers ms = some r) : fs.Settled limit r := by
  obtain ⟨p, folded, finished⟩ := Option.bind_eq_some_iff.mp taken
  refine settled_finish h room ?_ finished
  suffices ∀ q, fs.Filled limit q → ms.foldlM (fun p m => fs.takeMember m p) q = some p → fs.Filled limit p from
    this _ (filled_none fs limit) folded
  clear taken folded finished
  intro q filled folded
  induction ms generalizing q with
  | nil =>
    cases folded
    exact filled
  | cons m ms ih =>
    obtain ⟨ranged, rangedLater⟩ := List.forall_mem_cons.mp ranged
    obtain ⟨shallow, shallowLater⟩ := List.forall_mem_cons.mp shallow
    obtain ⟨q', taken, folded⟩ := Option.bind_eq_some_iff.mp folded
    exact ih rangedLater shallowLater q' (filled_takeMember h room ranged shallow filled taken) folded

theorem reads_of_settled (h : fs.Settles own) (distinct : fs.names.Nodup) {r : ρ} (settled : fs.Settled limit r)
    (fractionless : ∀ m ∈ fs.toMembers r, m.2.IsFractionless) :
    fs.Reads r ∧ ∀ m ∈ fs.toMembers r, m.2.depth ≤ limit := by
  induction fs with
  | nil => exact ⟨trivial, nofun⟩
  | cons field rest ih =>
    obtain ⟨a, r⟩ := r
    obtain ⟨first, later⟩ := settled
    obtain ⟨settles, settlesLater⟩ := h
    obtain ⟨fresh, distinct⟩ := List.nodup_cons.mp distinct
    rw [toMembers] at fractionless ⊢
    split_ifs at fractionless ⊢ with hidden
    · obtain ⟨reads, shallow⟩ := ih settlesLater distinct later fractionless
      refine ⟨⟨?_, fresh, reads⟩, shallow⟩
      rw [Field.Reads, if_pos hidden]
      exact settles.hidden hidden
    · obtain ⟨here, fractionless⟩ := List.forall_mem_cons.mp fractionless
      obtain ⟨reads, shallow⟩ := first here
      obtain ⟨readsLater, shallowLater⟩ := ih settlesLater distinct later fractionless
      refine ⟨⟨?_, fresh, readsLater⟩, List.forall_mem_cons.mpr ⟨shallow, shallowLater⟩⟩
      rw [Field.Reads, if_neg hidden]
      exact reads

end Fields

namespace Format

variable {ρ σ : Type} {fs : Fields ρ σ} {own : Nat}

theorem settles_record (h : fs.Settles own) (distinct : fs.names.Nodup) : (record fs).Settles (own + 1) := by
  have settled {limit : Nat} {r : ρ} (parts : fs.Settled limit r) : (record fs).Settled (limit + 1) r := by
    intro fractionless
    obtain ⟨reads, shallow⟩ := Fields.reads_of_settled h distinct parts (each_obj_iff.mp fractionless)
    exact ⟨reads_record reads, Nat.succ_le_succ (depthMembers_le shallow)⟩
  constructor
  · intro limit room
    obtain ⟨limit, rfl⟩ := Nat.exists_eq_add_one_of_ne_zero (Nat.ne_zero_of_lt room)
    have inner := Nat.le_of_succ_le_succ room
    apply yields_after
    intro b
    cases b with
    | none => exact yields_throw _
    | some b =>
      show Yields (if _ then _ else _) _
      split_ifs
      · apply yields_after
        intro _
        apply yields_bind (yields_foldMembers (fun name _ filled => Fields.yields_readMember h inner name filled)
          (fs.filled_none limit))
        intro p filled
        split
        next r finished => exact yields_pure (settled (Fields.settled_finish h inner filled finished))
        next => exact yields_throw _
      · apply yields_after
        intro _
        apply yields_bind (Fields.yields_readItems h inner true)
        intro r parts
        exact yields_after _ fun _ => yields_pure (settled parts)
      · exact yields_after _ fun _ => yields_throw _
  · intro limit j r room ranged shallow taken
    obtain ⟨limit, rfl⟩ := Nat.exists_eq_add_one_of_ne_zero (Nat.ne_zero_of_lt room)
    have inner := Nat.le_of_succ_le_succ room
    cases j with
    | obj ms =>
      exact settled (Fields.settled_ofMembers h inner (each_obj_iff.mp ranged)
        (fun m inside => (depth_le_of_mem inside).trans (Nat.le_of_succ_le_succ shallow)) taken)
    | arr js =>
      exact settled (Fields.settled_ofItems h inner (each_arr_iff.mp ranged)
        (fun j inside => (depth_le_of_mem_items inside).trans (Nat.le_of_succ_le_succ shallow)) taken)
    | _ => cases taken

variable {α : Type} {f : Format α} {name : String}

def readNamed (name : String) (depth : Nat) (k : String) :
    Option String × Members → Reader (Option String × Members)
  | (id, ms) => do
    if k = name then
      match id with
      | some _ => throw .mismatch
      | none =>
        colon
        return (some (← string.read depth), ms)
    else
      colon
      return (id, (k, ← tree depth) :: ms)

def takeNamed (name : String) : Option String × Members → String × Json → Except Fault (Option String × Members)
  | (id, ms), m =>
    if m.1 = name then
      match id, m.2 with
      | none, .str s => .ok (some s, ms)
      | _, _ => .error .mismatch
    else .ok (id, m :: ms)

theorem takesMember_name {limit : Nat} (id : String) :
    TakesMember (readNamed name limit) (takeNamed name) (name, .str id) := by
  rintro ⟨taken, acc⟩ rest ends
  simp only [readNamed, takeNamed, if_true]
  cases taken with
  | some _ => rfl
  | none =>
    apply (run_bind_ok (run_colon _)).trans
    exact run_bind_ok ((reads_string id).read (Nat.zero_le limit) ends)

theorem takesMember_other {limit : Nat} {m : String × Json} (other : m.1 ≠ name) (whole : m.2.IsWhole)
    (shallow : m.2.depth ≤ limit) : TakesMember (readNamed name limit) (takeNamed name) m := by
  rintro ⟨taken, acc⟩ rest ends
  simp only [readNamed, takeNamed, if_neg other]
  apply (run_bind_ok (run_colon _)).trans
  exact run_bind_ok (run_tree_of_shallow whole shallow ends)

theorem foldlM_takeNamed {ms : Members} (others : ∀ m ∈ ms, m.1 ≠ name) (id : Option String) (acc : Members) :
    ms.foldlM (takeNamed name) (id, acc) = .ok (id, ms.reverse ++ acc) := by
  induction ms generalizing acc with
  | nil => rfl
  | cons m ms ih =>
    obtain ⟨other, others⟩ := List.forall_mem_cons.mp others
    rw [foldlM_cons_ok (t := (id, m :: acc)) (if_neg other), ih others]
    simp

theorem run_named {limit : Nat} {ms : Members} (others : ∀ m ∈ ms, m.1 ≠ name)
    (whole : ∀ m ∈ ms, m.2.IsWhole) (shallow : ∀ m ∈ ms, m.2.depth ≤ limit) (id : String) (rest : Bytes) :
    (foldMembers Reader.string (readNamed name limit) (none, [])).run
      (Bytes.ofChars (membersText ((name, .str id) :: ms)) ++ rest) = .ok ((some id, ms.reverse), rest) := by
  have taken m (inside : m ∈ (name, Json.str id) :: ms) :
      TakesMember (readNamed name limit) (takeNamed name) m := by
    rcases List.mem_cons.mp inside with rfl | inside
    · exact takesMember_name id
    · exact takesMember_other (others m inside) (whole m inside) (shallow m inside)
  rw [run_foldMembers taken, foldlM_cons_ok (t := (some id, [])) (if_pos rfl), foldlM_takeNamed others,
    List.append_nil]
  rfl

theorem reads_named {a : α} {ms : Members} (reads : f.Reads a) (shape : f.toJson a = .obj ms)
    (others : ∀ m ∈ ms, m.1 ≠ name) (id : String) : (named name f).Reads (id, a) := by
  have written : (named name f).toJson (id, a) = .obj ((name, .str id) :: ms) := by
    simp only [named, shape]
  have whole := isWhole_obj_iff.mp (shape ▸ reads.whole)
  have back : f.ofJson (.obj ms) = some a := shape ▸ reads.ofJson
  constructor
  · rw [written]
    exact isWhole_obj_iff.mpr (List.forall_mem_cons.mpr ⟨trivial, whole⟩)
  · have alone : ((name, Json.str id) :: ms).filter (·.1 = name) = [(name, .str id)] := by
      rw [List.filter_cons_of_pos (by simp), List.filter_eq_nil_iff.mpr (by simpa using others)]
    have apart : ((name, Json.str id) :: ms).filter (·.1 ≠ name) = ms := by
      rw [List.filter_cons_of_neg (by simp), List.filter_eq_self.mpr (by simpa using others)]
    rw [written]
    simp only [named, alone, apart, back]
  · intro limit rest shallow _
    rw [written] at shallow ⊢
    have inner : depthMembers ((name, .str id) :: ms) + 1 ≤ limit := shallow
    obtain ⟨limit, rfl⟩ := Nat.exists_eq_add_one_of_ne_zero (Nat.ne_zero_of_lt inner)
    have each m (inside : m ∈ ms) : m.2.depth ≤ limit :=
      (depth_le_of_mem (List.mem_cons_of_mem _ inside)).trans (Nat.le_of_succ_le_succ inner)
    rw [print_obj, ofChars_cons_ascii (by decide), List.cons_append]
    apply (run_bind_next (by decide) _ _).trans
    show (if _ then _ else _ : Reader (String × α)).run _ = _
    rw [if_pos rfl]
    apply (run_bind_drop _ _ _).trans
    apply (run_bind_ok (run_named others whole each id rest)).trans
    simp only [List.reverse_reverse, back]
    rfl

theorem settled_named {limit : Nat} {a : α} {ms : Members} (settled : f.Settled limit a)
    (shape : f.toJson a = .obj ms) (others : ∀ m ∈ ms, m.1 ≠ name) (id : String) :
    (named name f).Settled limit (id, a) := by
  have written : (named name f).toJson (id, a) = .obj ((name, .str id) :: ms) := by
    simp only [named, shape]
  rw [Settled, shape] at settled
  rw [Settled, written]
  intro fractionless
  obtain ⟨-, inner⟩ := List.forall_mem_cons.mp (each_obj_iff.mp fractionless)
  obtain ⟨reads, shallow⟩ := settled (each_obj_iff.mpr inner)
  refine ⟨reads_named reads shape others id, ?_⟩
  show max 0 (depthMembers ms) + 1 ≤ limit
  rw [Nat.zero_max]
  exact shallow

def Gathered (limit : Nat) (p : Option String × Members) : Prop := ∀ m ∈ p.2, m.2.Ranged ∧ m.2.depth ≤ limit

theorem yields_readNamed {limit : Nat} (k : String) (p : Option String × Members) (good : Gathered limit p) :
    (readNamed name limit k p).Yields (Gathered limit) := by
  obtain ⟨id, ms⟩ := p
  show Yields (if _ then _ else _) _
  split_ifs
  · cases id with
    | some _ => exact yields_throw _
    | none => exact yields_after _ fun _ => yields_after _ fun _ => yields_pure good
  · apply yields_after
    intro _
    exact (yields_tree limit).map fun j new => List.forall_mem_cons.mpr ⟨new, good⟩

theorem settles_named (h : f.Settles (own + 1))
    (shape : ∀ a, ∃ ms, f.toJson a = .obj ms ∧ ∀ m ∈ ms, m.1 ≠ name) : (named name f).Settles (own + 1) := by
  constructor
  · intro limit room
    obtain ⟨limit, rfl⟩ := Nat.exists_eq_add_one_of_ne_zero (Nat.ne_zero_of_lt room)
    apply yields_after
    intro b
    cases b with
    | none => exact yields_throw _
    | some b =>
      show Yields (if _ then _ else _) _
      split_ifs
      · apply yields_after
        intro _
        have gathered : (foldMembers Reader.string (readNamed name limit) (none, [])).Yields (Gathered limit) :=
          yields_foldMembers yields_readNamed nofun
        apply yields_bind gathered
        rintro ⟨id, ms⟩ good
        have ranged : (obj ms.reverse).Ranged :=
          each_obj_iff.mpr fun m inside => (good m (List.mem_reverse.mp inside)).1
        have shallow : (obj ms.reverse).depth ≤ limit + 1 :=
          Nat.succ_le_succ (depthMembers_le fun m inside => (good m (List.mem_reverse.mp inside)).2)
        dsimp only
        split
        next id a taken =>
          obtain ⟨ms, written, others⟩ := shape a
          exact yields_pure (settled_named (h.ofJson room ranged shallow taken) written others id)
        next => exact yields_throw _
      · exact yields_after _ fun _ => yields_throw _
  · intro limit j a room ranged shallow taken
    cases j with
    | obj ms =>
      have fewer {m : String × Json} (inside : m ∈ ms.filter (·.1 ≠ name)) : m ∈ ms :=
        (List.mem_filter.mp inside).1
      have ranged : (obj (ms.filter (·.1 ≠ name))).Ranged :=
        each_obj_iff.mpr fun m inside => each_obj_iff.mp ranged m (fewer inside)
      have shallow : (obj (ms.filter (·.1 ≠ name))).depth ≤ limit :=
        (Nat.succ_le_succ (depthMembers_le fun m inside => depth_le_of_mem (fewer inside))).trans shallow
      simp only [named] at taken
      split at taken
      next id a alone rest =>
        cases taken
        obtain ⟨ms, written, others⟩ := shape a
        exact settled_named (h.ofJson room ranged shallow rest) written others id
      next => cases taken
    | _ => cases taken

end Format

end VpExchange.Json
