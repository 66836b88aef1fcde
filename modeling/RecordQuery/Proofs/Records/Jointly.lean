import Mathlib.Data.List.Perm.Subperm
import RecordQuery.Proofs.Outcome
import RecordQuery.Records.Operation

/-!
# Two dialogues at once

Two dialogues that do not wait for each other are carried out jointly. Their calls come in any
order, and their values make a pair. A failure of either may end both at once, when the other has a
call under way or has not made one yet.

## Main statements

* `Operation.calls_run_eq_map`: the calls of a run are those of its exchanges.
* `Operation.joint_of_run_both`: one after the other is one of the ways.
* `Operation.settledAsks_of_joint`: two dialogues of one call each end with both values, after both
  calls, or with the failure of a call that was made.
-/

namespace RecordQuery.Operation

variable {α β σ : Type}

/-- The calls of a run, each with its reply. -/
def exchanges (respond : Responder σ) (state : σ) : Operation α → List (Call × Option Reply)
  | .finish _ => []
  | .ask call next =>
    (call, some (respond state call).1)
      :: (next (respond state call).1).exchanges respond (respond state call).2

theorem calls_run_eq_map (respond : Responder σ) (state : σ) (op : Operation α) :
    (op.run respond state).calls = (op.exchanges respond state).map Prod.fst := by
  induction op generalizing state with
  | finish result => rfl
  | ask call next ih => simp [run, exchanges, ih]

theorem exchanges_bind_pure (respond : Responder σ) (state : σ) (op : Operation α) (f : α → β) :
    (op >>= fun a => pure (f a)).exchanges respond state = op.exchanges respond state := by
  induction op generalizing state with
  | finish result => cases result <;> rfl
  | ask call next ih => exact congrArg (List.cons _) (ih _ _)

/-- The calls of a dialogue that is not carried on: none, or one whose reply is not waited for. -/
inductive GivenUp : Operation α → List (Call × Option Reply) → Prop
  | silent (op : Operation α) : GivenUp op []
  | unanswered (call : Call) (next : Reply → Operation α) : GivenUp (.ask call next) [(call, none)]

/-- The calls and the result of two dialogues that are carried out jointly. -/
inductive Joint : Operation α → Operation β → List (Call × Option Reply) → Except Failure (α × β) →
    Prop
  | both (a : α) (b : β) : Joint (.finish (.ok a)) (.finish (.ok b)) [] (.ok (a, b))
  | leftFailed {right : Operation β} {calls : List (Call × Option Reply)} (e : Failure)
      (hright : right.GivenUp calls) : Joint (.finish (.error e)) right calls (.error e)
  | rightFailed {left : Operation α} {calls : List (Call × Option Reply)} (e : Failure)
      (hleft : left.GivenUp calls) : Joint left (.finish (.error e)) calls (.error e)
  | askLeft {call : Call} {next : Reply → Operation α} {right : Operation β} {reply : Reply}
      {calls : List (Call × Option Reply)} {result : Except Failure (α × β)}
      (h : Joint (next reply) right calls result) :
      Joint (.ask call next) right ((call, some reply) :: calls) result
  | askRight {left : Operation α} {call : Call} {next : Reply → Operation β} {reply : Reply}
      {calls : List (Call × Option Reply)} {result : Except Failure (α × β)}
      (h : Joint left (next reply) calls result) :
      Joint left (.ask call next) ((call, some reply) :: calls) result

theorem Joint.swap {left : Operation α} {right : Operation β} {calls : List (Call × Option Reply)}
    {result : Except Failure (α × β)} (h : Joint left right calls result) :
    Joint right left calls (result.map Prod.swap) := by
  induction h with
  | both a b => exact .both b a
  | leftFailed e hright => exact .rightFailed e hright
  | rightFailed e hleft => exact .leftFailed e hleft
  | askLeft _ ih => exact .askRight ih
  | askRight _ ih => exact .askLeft ih

/-! ## One after the other -/

/-- Two dialogues one after the other, the second one if the first does not fail. -/
def both (left : Operation α) (right : Operation β) : Operation (α × β) := do
  let a ← left
  let b ← right
  return (a, b)

theorem joint_of_run_both (left : Operation α) (right : Operation β) (respond : Responder σ)
    (state : σ) :
    Joint left right ((left.both right).exchanges respond state)
      ((left.both right).run respond state).result := by
  induction left generalizing state with
  | finish result =>
    cases result with
    | error e => exact .leftFailed e (.silent right)
    | ok a =>
      -- The first dialogue is over: what is left is the second one.
      induction right generalizing state with
      | finish result =>
        cases result with
        | error e => exact .rightFailed e (.silent _)
        | ok b => exact .both a b
      | ask call next ih => exact .askRight (ih _ _)
  | ask call next ih => exact .askLeft (ih _ _)

/-! ## Dialogues of one call -/

theorem GivenUp.map_fst_sublist {call : Call} {next : Reply → Operation α}
    {calls : List (Call × Option Reply)} (h : GivenUp (.ask call next) calls) :
    (calls.map Prod.fst).Sublist [call] := by
  cases h with
  | silent => exact List.nil_sublist _
  | unanswered => exact List.Sublist.refl _

/-- What has become of two dialogues of one call each: both calls were answered and the values make
a pair, or the failure of a call that was made is the result. -/
def SettledAsks (left right : Call) (f : Json → α) (g : Json → β)
    (calls : List (Call × Option Reply)) (result : Except Failure (α × β)) : Prop :=
  (∃ a b, calls.Perm [(left, some (.ok a)), (right, some (.ok b))] ∧ result = .ok (f a, g b))
  ∨ ∃ call e, (call, some (.error e)) ∈ calls ∧ result = .error e
      ∧ (calls.map Prod.fst).Subperm [left, right]

theorem SettledAsks.swap {left right : Call} {f : Json → α} {g : Json → β}
    {calls : List (Call × Option Reply)} {result : Except Failure (α × β)}
    (h : SettledAsks left right f g calls result) :
    SettledAsks right left g f calls (result.map Prod.swap) := by
  rcases h with ⟨a, b, hcalls, rfl⟩ | ⟨call, e, hmem, rfl, hcalls⟩
  · exact .inl ⟨b, a, hcalls.trans (.swap _ _ _), rfl⟩
  · exact .inr ⟨call, e, hmem, rfl, hcalls.trans (List.Perm.swap _ _ _).subperm⟩

theorem Joint.of_finish {left : Except Failure α} {right : Except Failure β}
    {calls : List (Call × Option Reply)} {result : Except Failure (α × β)}
    (h : Joint (.finish left) (.finish right) calls result) :
    calls = [] ∧ ((∃ a b, left = .ok a ∧ right = .ok b ∧ result = .ok (a, b))
      ∨ ∃ e, (left = .error e ∨ right = .error e) ∧ result = .error e) := by
  cases h with
  | both a b => exact ⟨rfl, .inl ⟨a, b, rfl, rfl, rfl⟩⟩
  | leftFailed e hright => cases hright; exact ⟨rfl, .inr ⟨e, .inl rfl, rfl⟩⟩
  | rightFailed e hleft => cases hleft; exact ⟨rfl, .inr ⟨e, .inr rfl, rfl⟩⟩

theorem settledAsks_of_joint_answered {left right : Call} {f : Json → α} {g : Json → β}
    {reply : Reply} {calls : List (Call × Option Reply)} {result : Except Failure (α × β)}
    (h : Joint (.finish (reply.map f)) (.ask right fun r => .finish (r.map g)) calls result) :
    SettledAsks left right f g ((left, some reply) :: calls) result := by
  generalize hleft : reply.map f = finished at h
  cases h with
  | leftFailed e hright =>
    -- The second dialogue is given up, perhaps while its call is under way.
    obtain rfl := map_eq_error_iff.mp hleft
    exact .inr ⟨left, e, List.mem_cons_self, rfl,
      (hright.map_fst_sublist.cons_cons left).subperm⟩
  | @askRight _ _ _ second _ _ h =>
    -- Both calls are answered; the result is up to the two replies.
    obtain ⟨rfl, hboth | hfailed⟩ := h.of_finish
    · obtain ⟨_, _, hfirst, hsecond, rfl⟩ := hboth
      obtain ⟨a, rfl, rfl⟩ := map_eq_ok_iff.mp (hleft.trans hfirst)
      obtain ⟨b, rfl, rfl⟩ := map_eq_ok_iff.mp hsecond
      exact .inl ⟨a, b, List.Perm.refl _, rfl⟩
    · obtain ⟨e, hfailed, rfl⟩ := hfailed
      have hmem : ∃ call, (call, some (.error e)) ∈ [(left, some reply), (right, some second)] := by
        rcases hfailed with hfirst | hsecond
        · exact ⟨left, by simp [map_eq_error_iff.mp (hleft.trans hfirst)]⟩
        · exact ⟨right, by simp [map_eq_error_iff.mp hsecond]⟩
      obtain ⟨call, hmem⟩ := hmem
      exact .inr ⟨call, e, hmem, rfl, List.Subperm.refl _⟩

theorem settledAsks_of_joint {left right : Call} {f : Json → α} {g : Json → β}
    {calls : List (Call × Option Reply)} {result : Except Failure (α × β)}
    (h : Joint (.ask left fun r => .finish (r.map f)) (.ask right fun r => .finish (r.map g))
      calls result) :
    SettledAsks left right f g calls result := by
  cases h with
  | askLeft h => exact settledAsks_of_joint_answered h
  | askRight h =>
    have hanswered : SettledAsks right left g f _ (result.map Prod.swap) :=
      settledAsks_of_joint_answered h.swap
    have hswap : (result.map Prod.swap).map Prod.swap = result := by cases result <;> rfl
    exact hswap ▸ hanswered.swap

end RecordQuery.Operation
