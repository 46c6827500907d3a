import Mathlib.Data.List.Perm.Basic
import Mathlib.Logic.Relation
import VpExchange.Proofs.Encryption.RoundTrip
import VpExchange.Proofs.Session.Frame
import VpExchange.Proofs.Session.Telemetry

set_option autoImplicit false

namespace VpExchange

/-- At most one of them creates a request, and at most one encrypts. -/
def Call.Independent (a b : Call) : Prop :=
  (a.isCreate && b.isCreate) = false ∧ (a.isEncrypt && b.isEncrypt) = false

namespace Session

variable {s t : Session} {a b : Call}

/-- Either call is answered as if the other had not been made, and the order of both leaves no trace. -/
structure Commutes (s : Session) (a b : Call) : Prop where
  first : ((s.perform b.step).2.perform a.step).1 = (s.perform a.step).1
  second : ((s.perform a.step).2.perform b.step).1 = (s.perform b.step).1
  session : ((s.perform a.step).2.perform b.step).2 = ((s.perform b.step).2.perform a.step).2

theorem Commutes.symm (h : s.Commutes a b) : s.Commutes b a := ⟨h.second, h.first, h.session.symm⟩

theorem commutes_of_idle (create : a.isCreate = false) (encrypt : a.isEncrypt = false) :
    s.Commutes a b where
  first := answer_of_idle create encrypt (s.config_perform_call b) (s.backend_perform_call b)
  second := by rw [perform_of_idle create encrypt]
  session := by rw [perform_of_idle create encrypt, perform_of_idle create encrypt]

theorem commutes_create_encrypt (given : s.sources.1 ≠ .random) (c : RequestCommand) (x : Exchange)
    (uri : Option Url) (payload : Members) (verbose : Bool) :
    s.Commutes (.create c) (.encrypt x uri payload verbose) := by
  obtain ⟨config, backend, ⟨seeds, entropy⟩, clock, products⟩ := s
  obtain ⟨made, seeds', -, created⟩ := c.create_of_not_random config backend given
  constructor <;> simp only [Call.step, perform, Session.payload, created]

theorem commutes_of_independent (given : s.sources.1 ≠ .random) (independent : a.Independent b) :
    s.Commutes a b := by
  obtain ⟨creates, encrypts⟩ := independent
  cases a with
  | create c =>
    cases b with
    | create _ => cases creates
    | encrypt x uri payload verbose => exact commutes_create_encrypt given c x uri payload verbose
    | _ => exact (commutes_of_idle rfl rfl).symm
  | encrypt x uri payload verbose =>
    cases b with
    | create c => exact (commutes_create_encrypt given c x uri payload verbose).symm
    | encrypt _ _ _ _ => cases encrypts
    | _ => exact (commutes_of_idle rfl rfl).symm
  | _ => exact commutes_of_idle rfl rfl

-- What a session has produced does not matter to calls, which come with all that they take.
def forget (s : Session) : Session := { s with products := [] }

theorem perform_forget (s : Session) (c : Call) :
    s.forget.perform c.step = ((s.perform c.step).1, (s.perform c.step).2.forget) := by
  cases c <;> rfl

theorem alike_next (alike : s.forget = t.forget) (c : Call) :
    (s.next (some c.step)).1 = (t.next (some c.step)).1 ∧
      (s.next (some c.step)).2.forget = (t.next (some c.step)).2.forget := by
  have same := congrArg (·.perform c.step) alike
  simp only [perform_forget, Prod.mk.injEq] at same
  exact same

variable {τ : Type}

def steps (calls : List (τ × Call)) : List (Option Step) := calls.map fun c => some c.2.step

def answers (s : Session) (calls : List (τ × Call)) : List (τ × Performance) :=
  (calls.map (·.1)).zip (s.run (steps calls))

theorem alike_run (alike : s.forget = t.forget) (calls : List (τ × Call)) :
    s.answers calls = t.answers calls ∧ (s.after (steps calls)).forget = (t.after (steps calls)).forget := by
  induction calls generalizing s t with
  | nil => exact ⟨rfl, alike⟩
  | cons c calls ih =>
    obtain ⟨answer, left⟩ := alike_next alike c.2
    obtain ⟨answers, after⟩ := ih left
    exact ⟨congrArg₂ List.cons (congrArg _ answer) answers, after⟩

theorem run_two (s : Session) (a b : τ × Call) (rest : List (τ × Call)) :
    let behind := ((s.perform a.2.step).2.perform b.2.step).2
    s.answers (a :: b :: rest) = (a.1, (s.perform a.2.step).1) ::
      (b.1, ((s.perform a.2.step).2.perform b.2.step).1) :: behind.answers rest ∧
    (s.after (steps (a :: b :: rest))).forget = (behind.after (steps rest)).forget := by
  intro behind
  have alike : (s.next (some a.2.step)).2.forget = (s.perform a.2.step).2.forget := rfl
  obtain ⟨answer, left⟩ := alike_next alike b.2
  obtain ⟨answers, after⟩ := alike_run (t := behind) left rest
  exact ⟨congrArg _ (congrArg₂ List.cons (congrArg (Prod.mk b.1) answer) answers), after⟩

inductive Swapped : List (τ × Call) → List (τ × Call) → Prop
  | here {a b : τ × Call} (independent : a.2.Independent b.2) (rest : List (τ × Call)) :
      Swapped (a :: b :: rest) (b :: a :: rest)
  | later (c : τ × Call) {calls calls' : List (τ × Call)} (swapped : Swapped calls calls') :
      Swapped (c :: calls) (c :: calls')

theorem swapped_run (given : s.sources.1 ≠ .random) {calls calls' : List (τ × Call)}
    (swapped : Swapped calls calls') : (s.answers calls).Perm (s.answers calls') ∧
      (s.after (steps calls)).forget = (s.after (steps calls')).forget := by
  induction swapped generalizing s with
  | later c swapped ih =>
    obtain ⟨answers, after⟩ := ih (given_next given (some c.2.step))
    exact ⟨answers.cons _, after⟩
  | @here a b independent rest =>
    obtain ⟨first, second, session⟩ := commutes_of_independent given independent
    obtain ⟨answers, after⟩ := s.run_two a b rest
    obtain ⟨answers', after'⟩ := s.run_two b a rest
    rw [answers, answers', after, after', first, second, session]
    exact ⟨.swap _ _ _, rfl⟩

abbrev Reordered : List (τ × Call) → List (τ × Call) → Prop := Relation.ReflTransGen Swapped

theorem reordered_run (given : s.sources.1 ≠ .random) {calls calls' : List (τ × Call)}
    (reordered : Reordered calls calls') : (s.answers calls).Perm (s.answers calls') ∧
      (s.after (steps calls)).forget = (s.after (steps calls')).forget := by
  induction reordered with
  | refl => exact ⟨.refl _, rfl⟩
  | tail _ swapped ih =>
    obtain ⟨answers, after⟩ := swapped_run given swapped
    exact ⟨ih.1.trans answers, ih.2.trans after⟩

theorem recorded_eq_answers (s : Session) (calls : List (τ × Call)) :
    s.recorded (steps calls) = ((s.answers calls).map (·.2)).flatMap (·.events) := by
  induction calls generalizing s with
  | nil => rfl
  | cons c calls ih => exact congrArg (_ ++ ·) (ih _)

end Session

/-- Over a store that nobody else changes and with seeds that are not random, two calls that are independent
are answered alike in either order, leave the same session, and publish the same events. So no call of a run is
answered differently, and nothing else is left or recorded, when independent neighbours change places again and
again; the calls may go by any names. -/
theorem independent_calls_commute (config : Config) (outage : Outage) (seeds : Seeds) (entropy : Entropy)
    (clock : Clock) (steps : List (Option Step)) (given : seeds ≠ .random) :
    let s := (Session.start config outage (seeds, entropy) clock).after steps
    (∀ a b : Call, a.Independent b → s.Commutes a b ∧
      ((s.perform a.step).1.events ++ ((s.perform a.step).2.perform b.step).1.events).Perm
        ((s.perform b.step).1.events ++ ((s.perform b.step).2.perform a.step).1.events)) ∧
    ∀ (τ : Type) (calls calls' : List (τ × Call)), Session.Reordered calls calls' →
      (s.answers calls).Perm (s.answers calls') ∧
      (s.after (Session.steps calls)).backend = (s.after (Session.steps calls')).backend ∧
      (s.after (Session.steps calls)).sources = (s.after (Session.steps calls')).sources ∧
      (s.after (Session.steps calls)).clock = (s.after (Session.steps calls')).clock ∧
      (s.recorded (Session.steps calls)).Perm (s.recorded (Session.steps calls')) := by
  intro s
  have kept : s.sources.1 ≠ .random := Session.given_after given steps
  constructor
  · intro a b independent
    have commutes := Session.commutes_of_independent kept independent
    refine ⟨commutes, ?_⟩
    rw [commutes.first, commutes.second]
    exact List.perm_append_comm
  · intro τ calls calls' reordered
    obtain ⟨answers, after⟩ := Session.reordered_run kept reordered
    refine ⟨answers, congrArg (·.backend) after, congrArg (·.sources) after, congrArg (·.clock) after, ?_⟩
    rw [Session.recorded_eq_answers, Session.recorded_eq_answers]
    exact (answers.map _).flatMap_right _

theorem independent_calls_commute_sample :
    let s := (Session.start Config.default Outage.none (.start, Entropy.ofBytes []) ⟨[]⟩).after
      [some (.putKey .haip Encryption.sampleKey)]
    let create := Call.create (sampleCreate (some .null))
    let ensure := Call.ensure ⟨"req-0001", .haip, .directPostJwt⟩
    let encrypt := Call.encrypt ⟨"req-0001", .haip, .directPostJwt⟩ none Encryption.samplePayload true
    s.Commutes create encrypt ∧
    (s.answers [("created", create), ("ensured", ensure), ("encrypted", encrypt)]).Perm
      (s.answers [("ensured", ensure), ("encrypted", encrypt), ("created", create)]) := by
  intro s create ensure encrypt
  obtain ⟨two, many⟩ := independent_calls_commute Config.default Outage.none .start (Entropy.ofBytes []) ⟨[]⟩
    [some (.putKey .haip Encryption.sampleKey)] nofun
  refine ⟨(two create encrypt ⟨rfl, rfl⟩).1, (many String _ _ ?_).1⟩
  exact (Relation.ReflTransGen.single (.here ⟨rfl, rfl⟩ _)).tail (.later _ (.here ⟨rfl, rfl⟩ _))

end VpExchange
