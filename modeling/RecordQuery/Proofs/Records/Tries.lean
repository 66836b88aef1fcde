import Mathlib.Data.ENat.Lattice
import Mathlib.Logic.Relation
import RecordQuery.Proofs.Json.ReadBack
import RecordQuery.Records.Exchange

/-!
# How often a request is tried

A request is tried again while the outcome is one that another try may mend and the number of the
try is below the limit. So the tries are those in front of the first outcome that settles the
matter, and that one, cut off at the limit; and what comes back is the outcome of the last of them.

## Main statements

* `Outcome.decodes_reply`: what each outcome is decoded as.
* `Outcome.decodes_text`: a value that a successful answer spells out is what it is decoded as.
* `deliver_eq_of_lastTry`: a delivery, from any number of the try on.
* `Server.number_of_tryReached`: the number of a try never passes the limit.
* `Config.tries_of_send`: all together, for any request, remote side and limit.
-/

namespace RecordQuery

open Relation (ReflTransGen)

namespace Outcome

/-- Another try may mend the outcome: no answer came, or the remote side is busy or broken. -/
def IsRetryable : Outcome → Prop
  | .lost => True
  | .answered status _ => status = 429 ∨ 500 ≤ status

/-- What an outcome is decoded as. -/
inductive Decodes : Outcome → Reply → Prop
  | lost (reason : String) : Decodes .lost (.error (.network reason))
  | refused {status : UInt16} {body : String} (hstatus : ¬ (200 ≤ status ∧ status < 300)) :
      Decodes (.answered status body) (.error (.remote status body))
  | blank {status : UInt16} {body : String} (hstatus : 200 ≤ status ∧ status < 300)
      (hblank : ∀ c ∈ body.toList, Text.isBlank c = true) :
      Decodes (.answered status body) (.ok .null)
  | json {status : UInt16} {body : String} {value : Json} (hstatus : 200 ≤ status ∧ status < 300)
      (hvisible : ∃ c ∈ body.toList, Text.isBlank c = false) (hread : Json.read body = .ok value) :
      Decodes (.answered status body) (.ok value)
  | noJson {status : UInt16} {body : String} {e : Json.SyntaxError}
      (hstatus : 200 ≤ status ∧ status < 300)
      (hvisible : ∃ c ∈ body.toList, Text.isBlank c = false) (hread : Json.read body = .error e) :
      Decodes (.answered status body) (.error (.decode e.message))

theorem isSuccess_iff (status : UInt16) :
    isSuccess status = true ↔ 200 ≤ status ∧ status < 300 := by
  simp [isSuccess]

theorem decodes_reply (outcome : Outcome) : outcome.Decodes outcome.reply := by
  cases outcome with
  | lost => exact .lost _
  | answered status body =>
    by_cases hstatus : isSuccess status = true
    · have hrange := (isSuccess_iff status).mp hstatus
      by_cases hblank : Text.isBlankText body = true
      · have hreply : reply (.answered status body) = .ok .null := by simp [reply, hstatus, hblank]
        rw [hreply]
        exact .blank hrange (List.all_eq_true.mp hblank)
      · have hreply : reply (.answered status body)
            = (Json.read body).mapError Failure.ofSyntaxError := by simp [reply, hstatus, hblank]
        have hvisible : ∃ c ∈ body.toList, Text.isBlank c = false := by
          simpa [Text.isBlankText] using hblank
        rw [hreply]
        cases hread : Json.read body with
        | ok value => exact .json hrange hvisible hread
        | error e => exact .noJson hrange hvisible hread
    · have hreply : reply (.answered status body) = .error (.remote status body) := by
        simp [reply, hstatus]
      rw [hreply]
      exact .refused fun hrange => hstatus ((isSuccess_iff status).mpr hrange)

/-- A successful answer with the text of a value as its body is decoded as the value. -/
theorem decodes_text {depth : ℕ} {json : Json} (h : json.NestsWithin depth)
    (hdepth : depth < Json.depthLimit) {status : UInt16} (hstatus : 200 ≤ status ∧ status < 300) :
    Decodes (.answered status json.text) (.ok json) := by
  obtain ⟨c, rest, hcs, hblank, -⟩ := Json.beginsValue_text h
  have hvisible : ∃ c ∈ json.text.toList, Text.isBlank c = false :=
    ⟨c, by rw [hcs]; exact List.mem_cons_self, hblank⟩
  exact .json hstatus hvisible (Json.read_text h hdepth)

theorem isRetryable_reply_iff (outcome : Outcome) :
    Reply.isRetryable outcome.reply = true ↔ outcome.IsRetryable := by
  -- An answer that is read, be it JSON or not, has a status that settles the matter.
  have hsettled {status : UInt16} (h : 200 ≤ status ∧ status < 300) :
      ¬ (status = 429 ∨ 500 ≤ status) := by
    simp only [UInt16.le_iff_toNat_le, UInt16.lt_iff_toNat_lt, ← UInt16.toNat_inj] at h ⊢
    have h200 : (200 : UInt16).toNat = 200 := rfl
    have h300 : (300 : UInt16).toNat = 300 := rfl
    have h429 : (429 : UInt16).toNat = 429 := rfl
    have h500 : (500 : UInt16).toNat = 500 := rfl
    omega
  have hdecodes := decodes_reply outcome
  generalize outcome.reply = reply at hdecodes
  cases hdecodes with
  | lost reason => simp [Reply.isRetryable, Failure.isRetryable, IsRetryable]
  | refused hstatus => simp [Reply.isRetryable, Failure.isRetryable, IsRetryable]
  | blank hstatus => simpa [Reply.isRetryable, IsRetryable] using hsettled hstatus
  | json hstatus => simpa [Reply.isRetryable, IsRetryable] using hsettled hstatus
  | noJson hstatus =>
    simpa [Reply.isRetryable, Failure.isRetryable, IsRetryable] using hsettled hstatus

end Outcome

/-! ## Outcomes without end

What a request would meet if it were tried for ever. -/

namespace Server

variable {σ : Type} (serve : Server σ) (request : Request)

def stateAfter (state : σ) : ℕ → σ
  | 0 => state
  | i + 1 => stateAfter (serve state request).2 i

/-- The outcomes of one try after the other. -/
def outcomes (state : σ) (i : ℕ) : Outcome := (serve (serve.stateAfter request state i) request).1

theorem stateAfter_succ (state : σ) (i : ℕ) :
    serve.stateAfter request state (i + 1)
      = (serve (serve.stateAfter request state i) request).2 := by
  induction i generalizing state with
  | zero => rfl
  | succ i ih => rw [stateAfter, ih, ← stateAfter]

/-- Every sequence of outcomes is met by the tries of a request that can be written out. -/
theorem outcomes_of_sequence (sequence : ℕ → Outcome) (hrequest : request.isWritable = true) :
    outcomes (behindConnection fun i _ => (sequence i, i + 1)) request 0 = sequence := by
  have hserve (i : ℕ) : behindConnection (fun i _ => (sequence i, i + 1)) i request
      = (sequence i, i + 1) := if_pos hrequest
  have hstate (i : ℕ) :
      stateAfter (behindConnection fun i _ => (sequence i, i + 1)) request 0 i = i := by
    induction i with
    | zero => rfl
    | succ i ih => rw [stateAfter_succ, ih, hserve]
  funext i
  rw [outcomes, hstate, hserve]

end Server

/-- How many outcomes stand in front of the first one that no other try would mend. -/
noncomputable def leadingRetryable (outcomes : ℕ → Outcome) : ℕ∞ :=
  ⨅ i : {i : ℕ // ¬ (outcomes i).IsRetryable}, (i.1 : ℕ∞)

theorem le_leadingRetryable {outcomes : ℕ → Outcome} {k : ℕ}
    (h : ∀ i < k, (outcomes i).IsRetryable) : (k : ℕ∞) ≤ leadingRetryable outcomes := by
  refine le_iInf fun i => ?_
  have hle : k ≤ i.1 := by
    by_contra hlt
    exact i.2 (h i.1 (by omega))
  exact_mod_cast hle

theorem leadingRetryable_le {outcomes : ℕ → Outcome} {k : ℕ} (h : ¬ (outcomes k).IsRetryable) :
    leadingRetryable outcomes ≤ k :=
  iInf_le (fun i : {i : ℕ // ¬ (outcomes i).IsRetryable} => (i.1 : ℕ∞)) ⟨k, h⟩

/-! ## The last try

From the `attempt`-th try on there are `k` tries with an outcome that may be mended, and then one
that is the last, because its outcome settles the matter or because it is the last one allowed. -/

/-- The try `k` places after the `attempt`-th is the last one. -/
structure LastTry (outcomes : ℕ → Outcome) (attempts attempt : UInt32) (k : ℕ) : Prop where
  before : ∀ i < k, (outcomes i).IsRetryable
  within : attempt.toNat + k ≤ attempts.toNat
  last : (outcomes k).IsRetryable → attempt.toNat + k = attempts.toNat

namespace LastTry

variable {outcomes : ℕ → Outcome} {attempts attempt : UInt32} {k : ℕ}

theorem lt (h : LastTry outcomes attempts attempt (k + 1)) : attempt < attempts := by
  have hwithin := h.within
  exact UInt32.lt_iff_toNat_lt.mpr (by omega)

theorem tail (h : LastTry outcomes attempts attempt (k + 1)) :
    LastTry (fun i => outcomes (i + 1)) attempts (attempt + 1) k := by
  have hnumber := toNat_succ_of_lt h.lt
  have hwithin := h.within
  refine ⟨fun i hi => h.before (i + 1) (by omega), by omega, fun hretry => ?_⟩
  have hlast := h.last hretry
  omega

theorem length_eq_min (h : LastTry outcomes attempts 1 k) :
    ((k + 1 : ℕ) : ℕ∞) = min (attempts.toNat : ℕ∞) (1 + leadingRetryable outcomes) := by
  have hle : (k : ℕ∞) ≤ leadingRetryable outcomes := le_leadingRetryable h.before
  have hwithin : 1 + k ≤ attempts.toNat := h.within
  rw [show ((k + 1 : ℕ) : ℕ∞) = 1 + (k : ℕ∞) by push_cast; exact add_comm _ _]
  by_cases hretry : (outcomes k).IsRetryable
  · -- The limit is reached, however long the run may be.
    have hlast : 1 + k = attempts.toNat := h.last hretry
    rw [← hlast, Nat.cast_add, Nat.cast_one, min_eq_left (by gcongr)]
  · -- The run ends in front of the last try.
    rw [le_antisymm (leadingRetryable_le hretry) hle, min_eq_right (by exact_mod_cast hwithin)]

end LastTry

theorem exists_lastTry (outcomes : ℕ → Outcome) {attempts attempt : UInt32}
    (h : attempt ≤ attempts) : ∃ k, LastTry outcomes attempts attempt k := by
  -- Induction on the tries that are left: with none left, this one is the last.
  induction hrest : attempts.toNat - attempt.toNat generalizing attempt outcomes with
  | zero =>
    have hle := UInt32.le_iff_toNat_le.mp h
    exact ⟨0, by simp, by omega, fun _ => by omega⟩
  | succ rest ih =>
    have hlt : attempt < attempts := UInt32.lt_iff_toNat_lt.mpr (by omega)
    have hnumber := toNat_succ_of_lt hlt
    by_cases hretry : (outcomes 0).IsRetryable
    · have hnext : attempt + 1 ≤ attempts := UInt32.le_iff_toNat_le.mpr (by omega)
      obtain ⟨k, hk⟩ := ih (fun i => outcomes (i + 1)) hnext (by omega)
      have hwithin := hk.within
      refine ⟨k + 1, fun i hi => ?_, by omega, fun hlast => ?_⟩
      · cases i with
        | zero => exact hretry
        | succ i => exact hk.before i (by omega)
      · have hlast := hk.last hlast
        omega
    · have hle := UInt32.le_iff_toNat_le.mp h
      exact ⟨0, by simp, by omega, fun hlast => absurd hlast hretry⟩

section Delivery

variable {σ : Type} (serve : Server σ) (request : Request) {attempts attempt : UInt32}

theorem deliver_again {state : σ} (hretry : (serve state request).1.IsRetryable)
    (hlt : attempt < attempts) :
    deliver serve request attempts attempt state
      = let rest := deliver serve request attempts (attempt + 1) (serve state request).2
        { rest with tried := request :: rest.tried } := by
  rw [deliver]
  exact dif_pos ⟨(Outcome.isRetryable_reply_iff _).mpr hretry, hlt⟩

theorem deliver_last {state : σ}
    (hlast : (serve state request).1.IsRetryable → ¬ attempt < attempts) :
    deliver serve request attempts attempt state
      = ⟨(serve state request).1.reply, [request], (serve state request).2⟩ := by
  rw [deliver]
  exact dif_neg fun h => hlast ((Outcome.isRetryable_reply_iff _).mp h.1) h.2

/-- A delivery is known by its last try: the request is tried up to there, and the reply is that of
the last outcome. -/
theorem deliver_eq_of_lastTry {state : σ} {k : ℕ}
    (h : LastTry (serve.outcomes request state) attempts attempt k) :
    deliver serve request attempts attempt state
      = ⟨(serve.outcomes request state k).reply, List.replicate (k + 1) request,
          serve.stateAfter request state (k + 1)⟩ := by
  induction k generalizing attempt state with
  | zero =>
    have hlast : (serve state request).1.IsRetryable → ¬ attempt < attempts := by
      intro hretry hlt
      have hnumber := h.last hretry
      have hlt := UInt32.lt_iff_toNat_lt.mp hlt
      omega
    exact deliver_last serve request hlast
  | succ k ih =>
    have hretry : (serve state request).1.IsRetryable := h.before 0 (by omega)
    rw [deliver_again serve request hretry h.lt, ih h.tail]
    rfl

end Delivery

/-! ## The number of a try

Between two tries the loop holds the number of the next one and the state of the remote side. -/

namespace Server

variable {σ : Type} (serve : Server σ) (request : Request) {attempts : UInt32}

/-- One more try is made: the outcome may be mended, and the limit is not reached. -/
inductive TriedAgain (attempts : UInt32) : UInt32 × σ → UInt32 × σ → Prop
  | intro {attempt : UInt32} {state : σ} (hretry : (serve state request).1.IsRetryable)
      (hlt : attempt < attempts) :
      TriedAgain attempts (attempt, state) (attempt + 1, (serve state request).2)

/-- The numbers of the tries count up from one, and none is above the limit. -/
theorem number_of_tryReached {state : σ} {loop : UInt32 × σ} (h : 1 ≤ attempts)
    (hreached : ReflTransGen (serve.TriedAgain request attempts) (1, state) loop) :
    ∃ i, loop.1.toNat = i + 1 ∧ i + 1 ≤ attempts.toNat
      ∧ loop.2 = serve.stateAfter request state i := by
  induction hreached with
  | refl => exact ⟨0, rfl, UInt32.le_iff_toNat_le.mp h, rfl⟩
  | tail _ hstep ih =>
    obtain ⟨i, hnumber, -, hstate⟩ := ih
    cases hstep with
    | @intro attempt _ hretry hlt =>
      have hnumber : attempt.toNat = i + 1 := hnumber
      have hsucc := toNat_succ_of_lt hlt
      have hle := UInt32.lt_iff_toNat_lt.mp hlt
      refine ⟨i + 1, ?_, by omega, ?_⟩
      · show (attempt + 1).toNat = i + 1 + 1
        omega
      · rw [stateAfter_succ, ← hstate]

theorem tryReached_of_lastTry {attempt : UInt32} {state : σ} {k : ℕ}
    (h : LastTry (serve.outcomes request state) attempts attempt k) :
    ∃ last, ReflTransGen (serve.TriedAgain request attempts) (attempt, state) last
      ∧ last.1.toNat = attempt.toNat + k
      ∧ ∀ next, ¬ serve.TriedAgain request attempts last next := by
  induction k generalizing attempt state with
  | zero =>
    -- The loop ends here, for want of tries or because the outcome settles the matter.
    refine ⟨(attempt, state), .refl, rfl, ?_⟩
    rintro _ ⟨hretry, hlt⟩
    have hnumber := h.last hretry
    have hlt := UInt32.lt_iff_toNat_lt.mp hlt
    omega
  | succ k ih =>
    have hstep : serve.TriedAgain request attempts (attempt, state)
        (attempt + 1, (serve state request).2) := .intro (h.before 0 (by omega)) h.lt
    obtain ⟨last, hreached, hnumber, hend⟩ := ih h.tail
    have hsucc := toNat_succ_of_lt h.lt
    exact ⟨last, .head hstep hreached, by omega, hend⟩

end Server

namespace Config

variable {σ : Type}

theorem toNat_attempts (c : Config) : c.attempts.toNat = max c.retryAttempts.toNat 1 := by
  have hone : (1 : UInt32).toNat = 1 := rfl
  show (if c.retryAttempts ≤ 1 then 1 else c.retryAttempts).toNat = max c.retryAttempts.toNat 1
  split
  · rename_i hle
    have hle := UInt32.le_iff_toNat_le.mp hle
    omega
  · rename_i hlt
    rw [UInt32.le_iff_toNat_le] at hlt
    omega

/-- A request is tried as often as there are outcomes that another try may mend, and once more, but
at most as often as the configuration says, and once if it says never. All tries are alike, whatever
call they are for, and the reply is what the last outcome is decoded as. The number of a try never
passes the limit, so that it does not wrap around, and the tries come to an end. -/
theorem tries_of_send (c : Config) (serve : Server σ) (state : σ) (request : Request) :
    let served := serve.behindConnection
    let outcomes := served.outcomes request state
    let exchange := c.send serve state request
    let limit := max c.retryAttempts.toNat 1
    ∃ n : ℕ, (n : ℕ∞) = min (limit : ℕ∞) (1 + leadingRetryable outcomes)
      ∧ exchange.tried = List.replicate n request
      ∧ (outcomes (n - 1)).Decodes exchange.reply
      ∧ (∀ names call sent, c.requestOf names call = .ok request →
          c.responder names serve (state, sent) call
            = (exchange.reply, exchange.state,
                sent ++ if request.isWritable then exchange.tried else []))
      ∧ (∀ attempt state',
          ReflTransGen (served.TriedAgain request c.attempts) (1, state) (attempt, state') →
          attempt.toNat ≤ limit ∧ (attempt < c.attempts → (attempt + 1).toNat = attempt.toNat + 1))
      ∧ ∃ last, ReflTransGen (served.TriedAgain request c.attempts) (1, state) last
          ∧ last.1.toNat = n ∧ ∀ next, ¬ served.TriedAgain request c.attempts last next := by
  intro served outcomes exchange limit
  have hpositive : 1 ≤ c.attempts := by
    rw [UInt32.le_iff_toNat_le, toNat_attempts]
    exact le_max_right _ _
  obtain ⟨k, hk⟩ := exists_lastTry outcomes hpositive
  have hexchange : exchange = ⟨(outcomes k).reply, List.replicate (k + 1) request,
      served.stateAfter request state (k + 1)⟩ := deliver_eq_of_lastTry served request hk
  refine ⟨k + 1, ?_, ?_, ?_, ?_, ?_, ?_⟩
  · rw [hk.length_eq_min, toNat_attempts]
  · rw [hexchange]
  · rw [hexchange]
    exact Outcome.decodes_reply _
  · intro names call sent hcall
    have hsent : exchange.tried.filter Request.isWritable
        = if request.isWritable then exchange.tried else [] := by
      rw [hexchange, List.filter_replicate]
    rw [← hsent]
    simp only [responder, hcall, exchange]
  · intro attempt state' hreached
    obtain ⟨i, hnumber, hle, -⟩ := served.number_of_tryReached request hpositive hreached
    rw [toNat_attempts] at hle
    exact ⟨hnumber ▸ hle, toNat_succ_of_lt⟩
  · obtain ⟨last, hreached, hnumber, hend⟩ := served.tryReached_of_lastTry request hk
    rw [show (1 : UInt32).toNat = 1 from rfl, add_comm] at hnumber
    exact ⟨last, hreached, hnumber, hend⟩

end Config

end RecordQuery
