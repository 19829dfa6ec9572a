import GatewayPrint.Failure

/-!
# Log records

What operations report while they run. A computation gives its records together with its result, so
that what is reported before a failure is kept. Nothing that is computed depends on records.
-/

namespace GatewayPrint

namespace Log

/-- How important a record is. -/
inductive Level where
  | debug
  | info
  | warning
  | error
  | critical
deriving DecidableEq, Repr, Inhabited

def Level.rank : Level → Nat
  | debug => 10
  | info => 20
  | warning => 30
  | error => 40
  | critical => 50

def Level.name : Level → String
  | debug => "DEBUG"
  | info => "INFO"
  | warning => "WARNING"
  | error => "ERROR"
  | critical => "CRITICAL"

def Level.ofName? (s : String) : Option Level :=
  [debug, info, warning, error, critical].find? fun l ↦ l.name == s

/-- A record: its level, the name of the logger, and the message. -/
structure Record where
  level : Level
  logger : String
  message : String
deriving DecidableEq, Repr, Inhabited

def debug (logger message : String) : Record := ⟨.debug, logger, message⟩

end Log

/-- A result, or a failure, with the records made on the way. -/
structure Logged (α : Type) where
  records : List Log.Record
  result : Except Failure α

namespace Logged

variable {α β : Type}

def pure (x : α) : Logged α := ⟨[], .ok x⟩

def fail (f : Failure) : Logged α := ⟨[], .error f⟩

/-- A result or a failure without records. -/
def lift (r : Except Failure α) : Logged α := ⟨[], r⟩

def note (r : Log.Record) : Logged Unit := ⟨[r], .ok ()⟩

/-- Goes on after a result; a failure ends the computation. -/
def bind (x : Logged α) (f : α → Logged β) : Logged β :=
  match x.result with
  | .error e => ⟨x.records, .error e⟩
  | .ok a => ⟨x.records ++ (f a).records, (f a).result⟩

instance : Monad Logged where
  pure := pure
  bind := bind

@[simp] theorem records_pure (x : α) : (pure x).records = [] := rfl

@[simp] theorem result_pure (x : α) : (pure x).result = .ok x := rfl

theorem bind_ok {x : Logged α} {a : α} (h : x.result = .ok a) (f : α → Logged β) :
    (x.bind f).result = (f a).result := by
  simp [bind, h]

theorem bind_error {x : Logged α} {e : Failure} (h : x.result = .error e) (f : α → Logged β) :
    x.bind f = ⟨x.records, .error e⟩ := by
  simp [bind, h]

end Logged

end GatewayPrint
