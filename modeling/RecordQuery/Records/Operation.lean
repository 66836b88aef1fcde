import RecordQuery.Failure
import RecordQuery.Json.Basic
import RecordQuery.Query.Parameters

/-!
# Operations as dialogues

An operation on tables is a dialogue with the remote side: it makes a call, looks at the reply, and
goes on or finishes. As data it can be run against any `Responder`, and what it asks for can be read
off without one.
-/

namespace RecordQuery

/-- A call to the remote side. -/
inductive Call where
  | list (table : String) (parameters : Parameters)
  | get (table : String) (id : Scalar)
  | create (table : String) (payload : Json)
  | update (table : String) (payload : Json)
  | delete (table : String) (payload : Json)

/-- What comes back from a call. -/
abbrev Reply := Except Failure Json

/-- A dialogue that ends in a value or a failure. -/
inductive Operation (α : Type) where
  | finish (result : Except Failure α)
  | ask (call : Call) (next : Reply → Operation α)

namespace Operation

/-- Goes on with the value of a dialogue; a failure ends it. -/
def bind (f : α → Operation β) : Operation α → Operation β
  | .finish (.ok a) => f a
  | .finish (.error e) => .finish (.error e)
  | .ask call next => .ask call fun reply => (next reply).bind f

instance : Monad Operation where
  pure a := .finish (.ok a)
  bind op f := op.bind f

def fail (e : Failure) : Operation α := .finish (.error e)

def request (call : Call) : Operation Json := .ask call .finish

end Operation

/-- A remote side in a state of type `σ`. -/
abbrev Responder (σ : Type) := σ → Call → Reply × σ

/-- What a run of an operation came to. -/
structure Run (α σ : Type) where
  result : Except Failure α
  calls : List Call
  /-- The state in which the remote side was left. -/
  state : σ

def Operation.run (respond : Responder σ) (state : σ) : Operation α → Run α σ
  | .finish result => ⟨result, [], state⟩
  | .ask call next =>
    let (reply, state) := respond state call
    let rest := (next reply).run respond state
    { rest with calls := call :: rest.calls }

namespace Run

/-- A run followed by the run of what its value asks for; a failure is the end. -/
def andThen (run : Run α σ) (f : α → σ → Run β σ) : Run β σ :=
  match run.result with
  | .ok a =>
    let rest := f a run.state
    { rest with calls := run.calls ++ rest.calls }
  | .error e => ⟨.error e, run.calls, run.state⟩

end Run

namespace Operation

@[simp] theorem run_pure (respond : Responder σ) (state : σ) (a : α) :
    (pure a : Operation α).run respond state = ⟨.ok a, [], state⟩ := rfl

@[simp] theorem run_fail (respond : Responder σ) (state : σ) (e : Failure) :
    (fail e : Operation α).run respond state = ⟨.error e, [], state⟩ := rfl

@[simp] theorem run_request (respond : Responder σ) (state : σ) (call : Call) :
    (request call).run respond state
      = ⟨(respond state call).1, [call], (respond state call).2⟩ := rfl

/-- A call whose reply is worked up, and nothing else. -/
theorem request_bind_pure (call : Call) (f : Json → α) :
    (do return f (← request call)) = Operation.ask call fun reply => .finish (reply.map f) := by
  show Operation.ask call _ = _
  congr 1
  funext reply
  cases reply <;> rfl

@[simp] theorem run_bind (respond : Responder σ) (state : σ) (op : Operation α)
    (f : α → Operation β) :
    (op >>= f).run respond state
      = (op.run respond state).andThen fun a state => (f a).run respond state := by
  change (op.bind f).run respond state = _
  induction op generalizing state with
  | finish result => cases result <;> simp [bind, run, Run.andThen]
  | ask call next ih =>
    simp only [bind, run, ih, Run.andThen]
    cases ((next (respond state call).1).run respond (respond state call).2).result <;> simp

/-- An operation that works up the value of another one makes its calls. -/
theorem run_bind_pure (respond : Responder σ) (state : σ) (op : Operation α) (f : α → β) :
    (do return f (← op)).run respond state
      = ⟨(op.run respond state).result.map f, (op.run respond state).calls,
          (op.run respond state).state⟩ := by
  rw [run_bind]
  unfold Run.andThen
  cases (op.run respond state).result with
  | error e => rfl
  | ok a =>
    simp only [run_pure, List.append_nil]
    rfl

end Operation

end RecordQuery
