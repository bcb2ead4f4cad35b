import BracketToken.Event

/-!
Computations that log as they go and may fail.

A failing computation keeps what it logged before the failure. Main statements: the outcome of a
sequence is the sequence of the outcomes (`outcome_bind`), and its events are those of the first
part followed by those of the second, if the first gives it a start (`events_bind`).
-/

namespace BracketToken

/-- The events of a computation and how it ended. -/
structure Traced (ε α : Type) where
  events : List Event
  outcome : Except ε α

/-- A value and the events on the way to it, for what cannot fail. -/
structure Logged (α : Type) where
  events : List Event
  value : α

namespace Traced

variable {ε α β : Type}

def ok (a : α) : Traced ε α := ⟨[], .ok a⟩

def fail (e : ε) : Traced ε α := ⟨[], .error e⟩

def log (event : Event) : Traced ε Unit := ⟨[event], .ok ()⟩

/-- A computation that logs nothing. -/
def ofExcept (outcome : Except ε α) : Traced ε α := ⟨[], outcome⟩

/-- Goes on with the result, unless the first part fails. -/
def andThen (first : Traced ε α) (next : α → Traced ε β) : Traced ε β :=
  match first.outcome with
  | .ok a => ⟨first.events ++ (next a).events, (next a).outcome⟩
  | .error e => ⟨first.events, .error e⟩

instance : Monad (Traced ε) where
  pure := ok
  bind := andThen

@[simp] theorem outcome_pure (a : α) : (pure a : Traced ε α).outcome = .ok a := rfl
@[simp] theorem events_pure (a : α) : (pure a : Traced ε α).events = [] := rfl
@[simp] theorem outcome_fail (e : ε) : (fail e : Traced ε α).outcome = .error e := rfl
@[simp] theorem events_fail (e : ε) : (fail e : Traced ε α).events = [] := rfl
@[simp] theorem outcome_log (event : Event) : (log event : Traced ε Unit).outcome = .ok () := rfl
@[simp] theorem events_log (event : Event) : (log event : Traced ε Unit).events = [event] := rfl
@[simp] theorem outcome_ofExcept (r : Except ε α) : (ofExcept r).outcome = r := rfl
@[simp] theorem events_ofExcept (r : Except ε α) : (ofExcept r).events = [] := rfl

@[simp] theorem outcome_bind (first : Traced ε α) (next : α → Traced ε β) :
    (first >>= next).outcome = first.outcome.bind fun a => (next a).outcome := by
  change (andThen first next).outcome = _
  unfold andThen
  cases first.outcome <;> rfl

@[simp] theorem events_bind (first : Traced ε α) (next : α → Traced ε β) :
    (first >>= next).events = first.events ++
      match first.outcome with
      | .ok a => (next a).events
      | .error _ => [] := by
  change (andThen first next).events = _
  unfold andThen
  cases first.outcome <;> simp

/-- Sequencing keeps the events of every part, in order, up to the first failure. -/
instance : LawfulMonad (Traced ε) := by
  refine LawfulMonad.mk' _ ?_ ?_ ?_
  · rintro α ⟨events, outcome⟩
    cases outcome <;> simp [Functor.map, andThen, ok]
  · intro α β a next
    rfl
  · rintro α β γ ⟨events, outcome⟩ next last
    cases outcome with
    | error e => rfl
    | ok a =>
        simp only [bind, andThen]
        cases (next a).outcome <;> simp

def isOk (t : Traced ε α) : Bool := t.outcome.isOk

end Traced

end BracketToken
