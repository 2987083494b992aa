import PolySql.Error

/-!
# Work that reports as it goes

* `Event` — something that the generation of statements reports: a feature left out, or a table
  done.
* `Logged` — what was reported, and the result. After an error nothing more is reported, and what
  was reported before it stays.
-/

namespace PolySql

inductive Event where
  | skipped (warning : Warning)
  | tableDone (dialect : Dialect) (table : String) (statements warnings : Nat)
  deriving DecidableEq, Repr

/-- The warning of an event, if it is one. -/
def Event.warning? : Event → Option Warning
  | .skipped warning => some warning
  | .tableDone .. => none

structure Logged (α : Type) where
  events : List Event
  result : Except Error α

namespace Logged

variable {α β : Type}

protected def pure (a : α) : Logged α := ⟨[], .ok a⟩

protected def bind (x : Logged α) (f : α → Logged β) : Logged β :=
  match x.result with
  | .ok a => ⟨x.events ++ (f a).events, (f a).result⟩
  | .error e => ⟨x.events, .error e⟩

instance : Monad Logged where
  pure := Logged.pure
  bind := Logged.bind

/-- A result without a report. -/
def ofExcept (result : Except Error α) : Logged α := ⟨[], result⟩

def report (event : Event) : Logged Unit := ⟨[event], .ok ()⟩

@[simp] theorem events_pure (a : α) : (pure a : Logged α).events = [] := rfl

@[simp] theorem result_pure (a : α) : (pure a : Logged α).result = .ok a := rfl

theorem bind_of_ok {x : Logged α} {a : α} (f : α → Logged β) (h : x.result = .ok a) :
    x >>= f = ⟨x.events ++ (f a).events, (f a).result⟩ := by
  change Logged.bind x f = _
  rw [Logged.bind, h]

theorem bind_of_error {x : Logged α} {e : Error} (f : α → Logged β) (h : x.result = .error e) :
    x >>= f = ⟨x.events, .error e⟩ := by
  change Logged.bind x f = _
  rw [Logged.bind, h]

end Logged

end PolySql
