import VpExchange.Json.Record
import VpExchange.Proofs.Json.RoundTrip

set_option autoImplicit false

namespace VpExchange.Json

open Reader

namespace Format

variable {α β : Type}

/-- What is written of a value is read back, from its text and from the value itself. -/
structure Reads (f : Format α) (a : α) : Prop where
  whole : (f.toJson a).IsWhole
  ofJson : f.ofJson (f.toJson a) = some a
  read : ∀ {limit : Nat} {rest : Bytes}, (f.toJson a).depth ≤ limit → Ends rest →
    (f.read limit).run (Bytes.ofChars (print (f.toJson a)) ++ rest) = .ok (a, rest)

theorem decodeText_encode {f : Format α} {a : α} (h : f.Reads a)
    (shallow : (f.toJson a).depth ≤ maxDepth) : f.decodeText (f.encode a) = .ok a := by
  have taken := h.read shallow ends_nil
  rw [List.append_nil] at taken
  rw [decodeText, decode, Reader.whole, encode, text, Bytes.ofText_ofList, taken]
  rfl

theorem reads_string (s : String) : string.Reads s where
  whole := trivial
  ofJson := rfl
  read _ _ := by
    show (string.read _).run (Bytes.ofChars (printString s) ++ _) = _
    rw [ofChars_printString, List.cons_append, List.append_assoc]
    exact run_string s _

theorem reads_transport {f : Format α} {of : α → β} {back : β → α} {b : β} (h : f.Reads (back b))
    (inverse : of (back b) = b) : (f.transport of back).Reads b where
  whole := h.whole
  ofJson := by
    show (f.ofJson (f.toJson (back b))).map of = some b
    rw [h.ofJson, Option.map_some, inverse]
  read shallow ends := by
    apply (run_bind_ok (h.read shallow ends)).trans
    rw [inverse]
    rfl

theorem reads_option_none (f : Format α) : f.option.Reads none where
  whole := trivial
  ofJson := rfl
  read {limit rest} _ _ := by
    show (word ['u', 'l', 'l'] >>= fun _ => pure none).run (['u', 'l', 'l'].map byte ++ rest) = _
    rw [run_bind_ok (run_word _ _)]
    rfl

theorem reads_option_some {f : Format α} {a : α} (h : f.Reads a) (written : f.toJson a ≠ .null) :
    f.option.Reads (some a) where
  whole := h.whole
  ofJson := by
    have value := h.ofJson
    show f.option.ofJson (f.toJson a) = _
    cases j : f.toJson a with
    | null => exact absurd j written
    | bool | int | float | str | arr | obj => rw [j] at value; exact congrArg (Option.map some) value
  read {limit rest} shallow ends := by
    -- The first byte decides between `null` and a value, and no printed value begins as `null` does.
    obtain ⟨b, bytes, eq, space, -, letter⟩ := print_first h.whole
    have read := h.read shallow ends
    rw [eq] at read
    show (f.option.read limit).run (Bytes.ofChars (print (f.toJson a)) ++ rest) = _
    rw [eq]
    apply (run_bind_next space _ _).trans
    show (if _ then _ else _ : Reader (Option α)).run _ = _
    rw [if_neg fun same => letter written (Option.some.inj same)]
    exact (run_bind_ok read).trans rfl

end Format

namespace Field

variable {α : Type}

-- A hidden value is not written, so that it has to come back from nothing.
def Reads (field : Field α) (a : α) : Prop :=
  if field.hidden a then field.absent = some a else field.format.Reads a

theorem reads_required {name : String} {f : Format α} {a : α} (h : f.Reads a) :
    (required name f).Reads a := h

theorem reads_hidingNone {name : String} {f : Format α} {trailing : Option (Option α)} {a : Option α}
    (h : ∀ x, a = some x → f.Reads x ∧ f.toJson x ≠ .null) :
    (Field.mk name f.option (some none) trailing fun _ => false).hidingNone.Reads a := by
  cases a with
  | none => exact (rfl : some (none : Option α) = some none)
  | some x =>
    obtain ⟨read, written⟩ := h x rfl
    exact Format.reads_option_some read written

end Field

namespace Fields

def names : {ρ σ : Type} → Fields ρ σ → List String
  | _, _, .nil => []
  | _, _, .cons field rest => field.name :: rest.names

def Reads : {ρ σ : Type} → Fields ρ σ → ρ → Prop
  | _, _, .nil, _ => True
  | _, _, .cons field rest, (a, r) =>
    field.Reads a ∧ field.name ∉ rest.names ∧ rest.Reads r

def take {ρ σ : Type} (fs : Fields ρ σ) (p : σ) (m : String × Json) : Except Fault σ :=
  (fs.takeMember m p).elim (.error .mismatch) .ok

theorem name_of_mem_toMembers {ρ σ : Type} {fs : Fields ρ σ} {r : ρ} {m : String × Json}
    (h : m ∈ fs.toMembers r) : m.1 ∈ fs.names := by
  induction fs with
  | nil => cases h
  | cons field rest ih =>
    obtain ⟨a, r⟩ := r
    rw [toMembers] at h
    split_ifs at h
    · exact List.mem_cons_of_mem _ (ih h)
    · rcases List.mem_cons.mp h with rfl | later
      · exact List.mem_cons_self
      · exact List.mem_cons_of_mem _ (ih later)

theorem whole_toMembers {ρ σ : Type} {fs : Fields ρ σ} {r : ρ} (h : fs.Reads r) :
    ∀ m ∈ fs.toMembers r, m.2.IsWhole := by
  induction fs with
  | nil => exact fun _ hm => nomatch hm
  | cons field rest ih =>
    obtain ⟨a, r⟩ := r
    obtain ⟨first, -, later⟩ := h
    intro m hm
    rw [toMembers] at hm
    rw [Field.Reads] at first
    split_ifs at hm first with hidden
    · exact ih later m hm
    · rcases List.mem_cons.mp hm with rfl | inside
      · exact first.whole
      · exact ih later m inside

theorem takesMember {ρ σ : Type} {fs : Fields ρ σ} {r : ρ} (h : fs.Reads r) {limit : Nat}
    {m : String × Json} (hm : m ∈ fs.toMembers r) (shallow : m.2.depth ≤ limit) :
    TakesMember (fs.readMember limit) fs.take m := by
  induction fs with
  | nil => cases hm
  | cons field rest ih =>
    obtain ⟨a, r⟩ := r
    obtain ⟨first, fresh, later⟩ := h
    have others (hm : m ∈ rest.toMembers r) :
        TakesMember ((cons field rest).readMember limit) (cons field rest).take m := by
      have other : m.1 ≠ field.name := fun same => fresh (same ▸ name_of_mem_toMembers hm)
      rintro ⟨x, p⟩ tail ends
      have read := ih later hm p tail ends
      simp only [readMember, if_neg other, StateT.run_bind, read]
      simp only [take, takeMember, if_neg other]
      cases rest.takeMember m p <;> rfl
    rw [toMembers] at hm
    rw [Field.Reads] at first
    split_ifs at hm first with hidden
    · exact others hm
    · rcases List.mem_cons.mp hm with rfl | inside
      · rintro ⟨x, p⟩ tail ends
        simp only [readMember, take, takeMember, if_true]
        cases x with
        | some x => rfl
        | none =>
          apply (run_bind_ok (run_colon _)).trans
          apply (run_bind_ok (first.read shallow ends)).trans
          rw [first.ofJson]
          rfl
      · exact others inside

theorem foldlM_takeMember_rest {α ρ σ : Type} {field : Field α} {rest : Fields ρ σ} {ms : Members}
    (others : ∀ m ∈ ms, m.1 ≠ field.name) (x : Option α) (p : σ) :
    ms.foldlM (fun p m => (cons field rest).takeMember m p) (x, p) =
      (ms.foldlM (fun p m => rest.takeMember m p) p).map (x, ·) := by
  induction ms generalizing p with
  | nil => rfl
  | cons m ms ih =>
    obtain ⟨name, j⟩ := m
    simp only [List.foldlM_cons, takeMember, if_neg (others (name, j) List.mem_cons_self)]
    cases rest.takeMember (name, j) p with
    | none => rfl
    | some p' => exact ih (fun m hm => others m (List.mem_cons_of_mem _ hm)) p'

theorem foldlM_toMembers {ρ σ : Type} {fs : Fields ρ σ} {r : ρ} (h : fs.Reads r) :
    ∃ p, (fs.toMembers r).foldlM (fun p m => fs.takeMember m p) fs.none = some p ∧
      fs.finish p = some r := by
  induction fs with
  | nil => exact ⟨(), rfl, rfl⟩
  | cons field rest ih =>
    obtain ⟨a, r⟩ := r
    obtain ⟨first, fresh, later⟩ := h
    obtain ⟨p, filled, finished⟩ := ih later
    have others : ∀ m ∈ rest.toMembers r, m.1 ≠ field.name := fun m hm same =>
      fresh (same ▸ name_of_mem_toMembers hm)
    rw [Field.Reads] at first
    rw [toMembers]
    -- A hidden field has no member and is filled in at the end; any other is filled by its own.
    split_ifs at first ⊢ with hidden
    · refine ⟨(Option.none, p), ?_, ?_⟩
      · rw [none, foldlM_takeMember_rest others, filled]
        rfl
      · simp [finish, first, finished]
    · have taken : (cons field rest).takeMember (field.name, field.format.toJson a)
          (Option.none, rest.none) = some (some a, rest.none) := by
        simp [takeMember, first.ofJson]
      refine ⟨(some a, p), ?_, ?_⟩
      · simp only [List.foldlM_cons, none, taken, Option.bind_eq_bind, Option.bind_some]
        rw [foldlM_takeMember_rest others, filled]
        rfl
      · simp [finish, finished]

theorem ofMembers_toMembers {ρ σ : Type} {fs : Fields ρ σ} {r : ρ} (h : fs.Reads r) :
    fs.ofMembers (fs.toMembers r) = some r := by
  obtain ⟨p, filled, finished⟩ := foldlM_toMembers h
  rw [ofMembers, filled]
  exact finished

theorem foldlM_take {ρ σ : Type} (fs : Fields ρ σ) (ms : Members) (p : σ) :
    ms.foldlM fs.take p = (ms.foldlM (fun p m => fs.takeMember m p) p).elim (.error .mismatch) .ok := by
  induction ms generalizing p with
  | nil => rfl
  | cons m ms ih =>
    cases taken : fs.takeMember m p with
    | none =>
      rw [foldlM_cons_error (e := .mismatch) (by rw [take, taken]; rfl), List.foldlM_cons, taken]
      rfl
    | some p' =>
      rw [foldlM_cons_ok (t := p') (by rw [take, taken]; rfl), List.foldlM_cons, taken, ih]
      rfl

theorem run_readObject {ρ σ : Type} {fs : Fields ρ σ} {r : ρ} (h : fs.Reads r) {limit : Nat}
    (shallow : depthMembers (fs.toMembers r) ≤ limit) (rest : Bytes) :
    (fs.readObject limit).run (Bytes.ofChars (membersText (fs.toMembers r)) ++ rest) = .ok (r, rest) := by
  obtain ⟨p, filled, finished⟩ := foldlM_toMembers h
  have each : ∀ m ∈ fs.toMembers r, TakesMember (fs.readMember limit) fs.take m := by
    intro m hm
    exact takesMember h hm ((depth_le_of_mem hm).trans shallow)
  have folded := run_foldMembers each fs.none rest
  rw [foldlM_take, filled] at folded
  apply (run_bind_ok folded).trans
  rw [finished]
  rfl

end Fields

namespace Format

theorem reads_record {ρ σ : Type} {fs : Fields ρ σ} {r : ρ} (h : fs.Reads r) :
    (record fs).Reads r where
  whole := isWhole_obj_iff.mpr (Fields.whole_toMembers h)
  ofJson := Fields.ofMembers_toMembers h
  read {limit rest} shallow _ := by
    have inner : depthMembers (fs.toMembers r) + 1 ≤ limit := shallow
    obtain ⟨limit, rfl⟩ := Nat.exists_eq_add_one_of_ne_zero (Nat.ne_zero_of_lt inner)
    show ((record fs).read (limit + 1)).run (Bytes.ofChars (print (.obj (fs.toMembers r))) ++ rest) = _
    rw [print_obj, ofChars_cons_ascii (by decide), List.cons_append]
    exact Fields.run_readObject h (Nat.le_of_succ_le_succ inner) rest

end Format

end VpExchange.Json
