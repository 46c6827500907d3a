import VpExchange.Protocol.Refusal

set_option autoImplicit false

namespace VpExchange

inductive Log.Level where
  | debug
  | info
  | warn
deriving DecidableEq, Repr

def Log.Level.name : Log.Level → String
  | .debug => "DEBUG"
  | .info => "INFO"
  | .warn => "WARN"

structure Log where
  level : Log.Level
  message : String
  fields : List (String × Json)

structure Logged (α : Type) where
  logs : List Log
  result : Except Refusal α

namespace Logged

variable {α β : Type}

def ofExcept (e : Except Refusal α) : Logged α := ⟨[], e⟩

def bind (x : Logged α) (f : α → Logged β) : Logged β :=
  match x.result with
  | .ok a => ⟨x.logs ++ (f a).logs, (f a).result⟩
  | .error e => ⟨x.logs, .error e⟩

instance : Monad Logged where
  pure a := ⟨[], .ok a⟩
  bind := bind

instance : MonadExceptOf Refusal Logged where
  throw e := ⟨[], .error e⟩
  tryCatch x handle :=
    match x.result with
    | .ok _ => x
    | .error e => ⟨x.logs ++ (handle e).logs, (handle e).result⟩

instance : MonadLift (Except Refusal) Logged := ⟨ofExcept⟩

def write (level : Log.Level) (message : String) (fields : List (String × Json)) : Logged Unit :=
  ⟨[⟨level, message, fields⟩], .ok ()⟩

def debug (message : String) (fields : List (String × Json)) : Logged Unit :=
  write .debug message fields

def warn (message : String) (fields : List (String × Json)) : Logged Unit :=
  write .warn message fields

@[simp] theorem result_pure (a : α) : (pure a : Logged α).result = .ok a := rfl

@[simp] theorem result_throw (e : Refusal) : (throw e : Logged α).result = .error e := rfl

@[simp] theorem result_write (level : Log.Level) (message : String) (fields : List (String × Json)) :
    (write level message fields).result = .ok () := rfl

@[simp] theorem result_ofExcept (e : Except Refusal α) : (ofExcept e).result = e := rfl

@[simp] theorem result_bind (x : Logged α) (f : α → Logged β) :
    (x >>= f).result = x.result.bind fun a => (f a).result := by
  show (Logged.bind x f).result = _
  unfold Logged.bind
  cases x.result <;> rfl

end Logged

end VpExchange
