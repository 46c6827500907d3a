import Mathlib.Tactic.Common
import VpExchange.Audit.Log

set_option autoImplicit false

namespace VpExchange

section Passing

variable {ε α β : Type} {e : ε}

theorem bind_eq_ok_iff {x : Except ε α} {f : α → Except ε β} {b : β} :
    (x >>= f) = .ok b ↔ ∃ a, x = .ok a ∧ f a = .ok b := by
  cases x with
  | error e => exact ⟨nofun, fun ⟨_, h, _⟩ => nomatch h⟩
  | ok a => exact ⟨fun h => ⟨a, rfl, h⟩, fun ⟨_, h, h'⟩ => by cases h; exact h'⟩

theorem throw_eq_ok_iff {b : β} : (throw e : Except ε β) = .ok b ↔ False := ⟨nofun, nofun⟩

theorem pure_eq_ok_iff {a b : β} : (pure a : Except ε β) = .ok b ↔ a = b :=
  ⟨fun h => by cases h; rfl, fun h => by cases h; rfl⟩

theorem mapError_eq_ok_iff {ε' : Type} {x : Except ε α} {f : ε → ε'} {a : α} :
    x.mapError f = .ok a ↔ x = .ok a := by
  cases x with
  | error e => exact ⟨nofun, nofun⟩
  | ok b => exact ⟨fun h => by cases h; rfl, fun h => by cases h; rfl⟩

theorem map_eq_ok_iff {x : Except ε α} {f : α → β} {b : β} :
    x.map f = .ok b ↔ ∃ a, x = .ok a ∧ f a = b := by
  cases x with
  | error e => exact ⟨nofun, fun ⟨_, h, _⟩ => nomatch h⟩
  | ok a => exact ⟨fun h => by cases h; exact ⟨a, rfl, rfl⟩, fun ⟨_, h, h'⟩ => by cases h; cases h'; rfl⟩

theorem alike_of_map_eq {γ : Type} {f : α → γ} {x y : Except ε α} (h : x.map f = y.map f) :
    (∃ e, x = .error e ∧ y = .error e) ∨ ∃ a b, x = .ok a ∧ y = .ok b ∧ f a = f b := by
  cases x with
  | error e =>
    cases y with
    | error e' =>
      cases h
      exact .inl ⟨e, rfl, rfl⟩
    | ok b => cases h
  | ok a =>
    cases y with
    | error e => cases h
    | ok b => exact .inr ⟨a, b, rfl, rfl, Except.ok.inj h⟩

-- A check in a sequence: what follows the refusal is never reached.
theorem check_eq_ok_iff {p : Prop} [Decidable p] {f : α → Except ε β} {x : Except ε β} {b : β} :
    (if p then throw e >>= f else x) = .ok b ↔ ¬p ∧ x = .ok b := by
  split_ifs with h
  · exact ⟨nofun, fun ⟨no, _⟩ => absurd h no⟩
  · exact ⟨fun same => ⟨h, same⟩, fun ⟨_, same⟩ => same⟩

theorem exists_of_mem_mapM {f : α → Option β} {as : List α} {bs : List β} (h : as.mapM f = some bs) :
    ∀ b ∈ bs, ∃ a ∈ as, f a = some b := by
  induction as generalizing bs with
  | nil =>
    cases h
    exact nofun
  | cons a as ih =>
    rw [List.mapM_cons] at h
    obtain ⟨b, first, h⟩ := Option.bind_eq_some_iff.mp h
    obtain ⟨bs, later, h⟩ := Option.bind_eq_some_iff.mp h
    cases h
    refine List.forall_mem_cons.mpr ⟨⟨a, List.mem_cons_self, first⟩, fun b' inside => ?_⟩
    obtain ⟨a', inside, taken⟩ := ih later b' inside
    exact ⟨a', List.mem_cons_of_mem a inside, taken⟩

end Passing

/-- Every code with its name in a problem document and its status. -/
def ProblemCode.registry : List (ProblemCode × String × Nat) :=
  [(.invalidRequest, "invalid_request", 400), (.invalidScope, "invalid_scope", 400),
    (.walletUnavailable, "wallet_unavailable", 503), (.invalidPresentation, "invalid_presentation", 422)]

theorem ProblemCode.mem_registry (code : ProblemCode) : (code, code.name, code.status) ∈ registry := by
  cases code <;> decide

namespace Refusal

variable {α β : Type}

theorem ofChain_eq_ok_iff {code : ProblemCode} {detail : String} {x : Except Chain α} {a : α} :
    ofChain code detail x = .ok a ↔ x = .ok a := by
  cases x with
  | error cause => exact ⟨nofun, nofun⟩
  | ok b => exact ⟨fun h => by cases h; rfl, fun h => by cases h; rfl⟩

def Always (holds : Refusal → Prop) (x : Except Refusal α) : Prop := ∀ r, x = .error r → holds r

section Always

variable {holds : Refusal → Prop} {x : Except Refusal α}

theorem always_ok (a : α) : Always holds (.ok a) := nofun

theorem always_error {r : Refusal} (h : holds r) : Always holds (.error r : Except Refusal α) := by
  intro r' same
  cases same
  exact h

theorem always_bind {f : α → Except Refusal β} (hx : Always holds x) (hf : ∀ a, Always holds (f a)) :
    Always holds (x >>= f) := by
  cases x with
  | error r => exact always_error (hx r rfl)
  | ok a => exact hf a

theorem always_map (hx : Always holds x) (f : α → β) : Always holds (x.map f) := by
  cases x with
  | error r => exact always_error (hx r rfl)
  | ok a => exact always_ok (f a)

end Always

theorem always_ofChain {holds : Refusal → Prop} {code : ProblemCode} {detail : String}
    (h : ∀ cause, holds ((new code detail).withCause cause)) (x : Except Chain α) :
    Always holds (ofChain code detail x) := by
  cases x with
  | error cause => exact always_error (h cause)
  | ok a => exact always_ok a

@[simp] theorem code_new (code : ProblemCode) (detail : String) : (new code detail).code = code := rfl

@[simp] theorem code_invalidRequest (detail : String) :
    (invalidRequest detail).code = .invalidRequest := rfl

@[simp] theorem code_withViolation (r : Refusal) (field message : String) :
    (r.withViolation field message).code = r.code := rfl

@[simp] theorem code_withCause (r : Refusal) (cause : Chain) : (r.withCause cause).code = r.code := rfl

def Within (codes : List ProblemCode) (x : Except Refusal α) : Prop :=
  ∀ r, x = .error r → r.code ∈ codes

/-- What is said of refusals that something else has caused. The texts are fixed, so that none of them
shows what it was. -/
def causedDetails : List String :=
  ["direct_post.jwt header is malformed", "direct_post.jwt ephemeral key is not a valid P-256 point",
    "direct_post.jwt iv is malformed", "direct_post.jwt tag is malformed",
    "direct_post.jwt ciphertext is malformed", "direct_post.jwt could not be decrypted",
    "direct_post.jwt payload is not valid JSON", "key agreement failed",
    "verifier encryption key is unavailable", "verifier encryption key is unusable",
    "device response is not valid base64", "unable to load stored presentation",
    "unable to load DCQL preset", "unable to build response_uri", "unable to render request QR code"]

structure Classed (codes : List ProblemCode) (r : Refusal) : Prop where
  code : r.code ∈ codes
  discreet : r.cause ≠ [] → r.detail ∈ causedDetails ∧ r.violations = []

def RefusesWith (codes : List ProblemCode) (x : Except Refusal α) : Prop := Always (Classed codes) x

variable {codes : List ProblemCode}

theorem refuses_ok (a : α) : RefusesWith codes (.ok a) := always_ok a

theorem refuses_error {r : Refusal} (h : r.code ∈ codes) (uncaused : r.cause = []) :
    RefusesWith codes (.error r : Except Refusal α) :=
  always_error ⟨h, fun caused => absurd uncaused caused⟩

theorem refuses_bind {x : Except Refusal α} {f : α → Except Refusal β} (hx : RefusesWith codes x)
    (hf : ∀ a, RefusesWith codes (f a)) : RefusesWith codes (x >>= f) :=
  always_bind hx hf

theorem refuses_map {x : Except Refusal α} (hx : RefusesWith codes x) (f : α → β) :
    RefusesWith codes (x.map f) :=
  always_map hx f

theorem refuses_ofChain {code : ProblemCode} {detail : String} (fixed : detail ∈ causedDetails)
    (x : Except Chain α) : RefusesWith [code] (ofChain code detail x) :=
  always_ofChain (fun _ => ⟨List.mem_singleton_self code, fun _ => ⟨fixed, rfl⟩⟩) x

theorem refuses_check {p : Prop} [Decidable p] {r : Refusal} {f : α → Except Refusal β}
    {x : Except Refusal β} (h : r.code ∈ codes) (uncaused : r.cause = []) (hx : RefusesWith codes x) :
    RefusesWith codes (if p then throw r >>= f else x) := by
  split_ifs
  · exact refuses_error h uncaused
  · exact hx

theorem RefusesWith.mono {more : List ProblemCode} {x : Except Refusal α} (h : RefusesWith codes x)
    (sub : codes ⊆ more) : RefusesWith more x :=
  fun r same => ⟨sub (h r same).code, (h r same).discreet⟩

theorem RefusesWith.within {x : Except Refusal α} (h : RefusesWith codes x) : Within codes x :=
  fun r same => (h r same).code

/-- What a sequence of checks is refused as is what the first check that fails refuses it as. -/
def RefusedAs (code : ProblemCode) (x : Except Refusal α) : Prop := ∃ r, x = .error r ∧ r.code = code

variable {code : ProblemCode}

theorem not_refusedAs_ok (a : α) : ¬RefusedAs code (.ok a) := nofun

theorem refusedAs_bind_iff {x : Except Refusal α} {f : α → Except Refusal β} :
    RefusedAs code (x >>= f) ↔ RefusedAs code x ∨ ∃ a, x = .ok a ∧ RefusedAs code (f a) := by
  cases x with
  | error r =>
    constructor
    · rintro ⟨_, ⟨⟩, same⟩
      exact .inl ⟨r, rfl, same⟩
    · rintro (⟨_, ⟨⟩, same⟩ | ⟨_, ⟨⟩, -⟩)
      exact ⟨r, rfl, same⟩
  | ok a =>
    constructor
    · exact fun refused => .inr ⟨a, rfl, refused⟩
    · rintro (refused | ⟨_, ⟨⟩, refused⟩)
      · exact absurd refused (not_refusedAs_ok a)
      · exact refused

theorem refusedAs_iff_of_within {only : ProblemCode} {x : Except Refusal α} (h : Within [only] x) :
    RefusedAs code x ↔ code = only ∧ ¬∃ a, x = .ok a := by
  cases x with
  | ok a => exact ⟨fun h => absurd h (not_refusedAs_ok a), fun ⟨_, h⟩ => absurd ⟨a, rfl⟩ h⟩
  | error r =>
    have same : r.code = only := List.mem_singleton.mp (h r rfl)
    constructor
    · rintro ⟨_, ⟨⟩, rfl⟩
      exact ⟨same, fun ⟨_, no⟩ => nomatch no⟩
    · rintro ⟨rfl, -⟩
      exact ⟨r, rfl, same⟩

end Refusal

namespace Logged

variable {α β : Type}

@[simp] theorem result_liftM (x : Except Refusal α) : (liftM x : Logged α).result = x := rfl

theorem result_map (x : Logged α) (f : α → β) : (f <$> x).result = x.result.map f := by
  show (x >>= fun a => pure (f a)).result = _
  rw [result_bind]
  cases x.result <;> rfl

theorem bind_of_ok {x : Logged α} {a : α} (h : x.result = .ok a) (f : α → Logged β) :
    x >>= f = ⟨x.logs ++ (f a).logs, (f a).result⟩ := by
  show Logged.bind x f = _
  rw [Logged.bind, h]

theorem bind_of_error {x : Logged α} {r : Refusal} (h : x.result = .error r) (f : α → Logged β) :
    x >>= f = ⟨x.logs, .error r⟩ := by
  show Logged.bind x f = _
  rw [Logged.bind, h]

theorem pure_bind (a : α) (f : α → Logged β) : pure a >>= f = f a := rfl

theorem bind_assoc {γ : Type} (x : Logged α) (f : α → Logged β) (g : β → Logged γ) :
    x >>= f >>= g = x >>= fun a => f a >>= g := by
  cases hx : x.result with
  | error r => rw [bind_of_error hx, bind_of_error hx, bind_of_error rfl]
  | ok a =>
    rw [bind_of_ok hx f, bind_of_ok hx]
    cases hf : (f a).result with
    | error r => rw [bind_of_error hf, bind_of_error rfl]
    | ok b => rw [bind_of_ok hf, bind_of_ok rfl, List.append_assoc]

theorem map_bind {γ : Type} (f : β → γ) (x : Logged α) (g : α → Logged β) :
    f <$> (x >>= g) = x >>= fun a => f <$> g a :=
  bind_assoc x g fun b => pure (f b)

theorem result_bind_eq_ok_iff {x : Logged α} {f : α → Logged β} {b : β} :
    (x >>= f).result = .ok b ↔ ∃ a, x.result = .ok a ∧ (f a).result = .ok b := by
  rw [result_bind]
  exact bind_eq_ok_iff

theorem result_map_eq_ok_iff {x : Logged α} {f : α → β} {b : β} :
    (f <$> x).result = .ok b ↔ ∃ a, x.result = .ok a ∧ f a = b := by
  rw [result_map, map_eq_ok_iff]

theorem refusedAs_result_bind_iff {code : ProblemCode} {x : Logged α} {f : α → Logged β} :
    Refusal.RefusedAs code (x >>= f).result ↔
      Refusal.RefusedAs code x.result ∨ ∃ a, x.result = .ok a ∧ Refusal.RefusedAs code (f a).result := by
  rw [result_bind]
  exact Refusal.refusedAs_bind_iff

theorem refusedAs_result_map_iff {code : ProblemCode} {x : Logged α} {f : α → β} :
    Refusal.RefusedAs code (f <$> x).result ↔ Refusal.RefusedAs code x.result := by
  show Refusal.RefusedAs code (x >>= fun a => pure (f a)).result ↔ _
  simp only [refusedAs_result_bind_iff, result_pure, Refusal.not_refusedAs_ok, and_false, exists_false,
    or_false]

theorem always_result_bind {holds : Refusal → Prop} {x : Logged α} {f : α → Logged β}
    (hx : Refusal.Always holds x.result) (hf : ∀ a, Refusal.Always holds (f a).result) :
    Refusal.Always holds (x >>= f).result := by
  rw [result_bind]
  exact Refusal.always_bind hx hf

theorem refuses_result_bind {codes : List ProblemCode} {x : Logged α} {f : α → Logged β}
    (hx : Refusal.RefusesWith codes x.result) (hf : ∀ a, Refusal.RefusesWith codes (f a).result) :
    Refusal.RefusesWith codes (x >>= f).result :=
  always_result_bind hx hf

end Logged

end VpExchange
