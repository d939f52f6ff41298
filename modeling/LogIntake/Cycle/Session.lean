import LogIntake.Broker
import LogIntake.Cycle.Error

/-!
# Sessions with a broker

A session is a computation that may call a broker, log events and fail. Running it from a state
of the broker gives its result together with all that can be observed: the calls in their order,
also one that failed, the events logged, and the state in which the broker is left.

## Main definitions

- `Outcome`: what a session leaves behind.
- `Session`: sessions as a monad, with `fail`, `emit` and `call`.
-/

namespace LogIntake

structure Outcome (σ α : Type) where
  result : Except CycleError α
  state : σ
  calls : List Call
  events : List Event

/-- A computation that talks to a broker with states `σ`. -/
def Session (σ α : Type) : Type := σ → Outcome σ α

namespace Session

variable {σ α β : Type}

def run (m : Session σ α) (s : σ) : Outcome σ α := m s

/-- Runs the second session where the first one ended, unless the first one failed. -/
def andThen (m : Session σ α) (f : α → Session σ β) : Session σ β := fun s =>
  let first := m.run s
  match first.result with
  | .error e => ⟨.error e, first.state, first.calls, first.events⟩
  | .ok a =>
    let second := (f a).run first.state
    ⟨second.result, second.state, first.calls ++ second.calls, first.events ++ second.events⟩

instance : Monad (Session σ) where
  pure a := fun s => ⟨.ok a, s, [], []⟩
  bind := andThen

def fail (e : CycleError) : Session σ α := fun s => ⟨.error e, s, [], []⟩

def emit (event : Event) : Session σ Unit := fun s => ⟨.ok (), s, [], [event]⟩

def call (c : Call) (ask : σ → Reply σ α) : Session σ α := fun s =>
  let reply := ask s
  ⟨reply.answer.mapError .broker, reply.state, [c], reply.events⟩

/-- Goes on with a value, or ends the session. -/
def ofExcept {ε : Type} (cause : ε → CycleError) : Except ε α → Session σ α
  | .ok a => pure a
  | .error e => fail (cause e)

/-! ## What running a session gives -/

@[simp]
theorem run_pure (a : α) (s : σ) : (pure a : Session σ α).run s = ⟨.ok a, s, [], []⟩ := rfl

@[simp]
theorem run_fail (e : CycleError) (s : σ) :
    (fail e : Session σ α).run s = ⟨.error e, s, [], []⟩ := rfl

@[simp]
theorem run_emit (event : Event) (s : σ) :
    (emit event : Session σ Unit).run s = ⟨.ok (), s, [], [event]⟩ := rfl

@[simp]
theorem run_call (c : Call) (ask : σ → Reply σ α) (s : σ) :
    (call c ask).run s =
      ⟨(ask s).answer.mapError .broker, (ask s).state, [c], (ask s).events⟩ := rfl

@[simp]
theorem ofExcept_ok {ε : Type} (cause : ε → CycleError) (a : α) :
    (ofExcept cause (.ok a) : Session σ α) = pure a := rfl

@[simp]
theorem ofExcept_error {ε : Type} (cause : ε → CycleError) (e : ε) :
    (ofExcept cause (.error e) : Session σ α) = fail (cause e) := rfl

/-- A session goes on behind one that has a result. -/
theorem run_bind_of_ok {m : Session σ α} {f : α → Session σ β} {s : σ} {a : α}
    (h : (m.run s).result = .ok a) :
    (m >>= f).run s =
      ⟨((f a).run (m.run s).state).result, ((f a).run (m.run s).state).state,
        (m.run s).calls ++ ((f a).run (m.run s).state).calls,
        (m.run s).events ++ ((f a).run (m.run s).state).events⟩ := by
  show andThen m f s = _
  simp only [andThen, h]

/-- A session that failed is the end. -/
theorem run_bind_of_error {m : Session σ α} {f : α → Session σ β} {s : σ} {e : CycleError}
    (h : (m.run s).result = .error e) :
    (m >>= f).run s = ⟨.error e, (m.run s).state, (m.run s).calls, (m.run s).events⟩ := by
  show andThen m f s = _
  simp only [andThen, h]

end Session

end LogIntake
