import RecordQuery.Json.Reader
import RecordQuery.Json.Printer
import RecordQuery.Records.Endpoint
import RecordQuery.Records.Operation
import RecordQuery.Text.Blank

/-!
# Exchanges over HTTP

A call becomes a request, and a request is tried until an answer comes that another try could not
change, or until the tries are used up. What becomes of one try is the business of a `Server`; all
tries send the same request.
-/

namespace RecordQuery

inductive Method where
  | get
  | post
  | patch
  | delete
deriving DecidableEq, Repr

def Method.name : Method → String
  | .get => "GET"
  | .post => "POST"
  | .patch => "PATCH"
  | .delete => "DELETE"

structure Request where
  method : Method
  url : Url
  /-- The name and the value of the header that authenticates the request. -/
  authorization : String × String
  body : Option Json

inductive Outcome where
  /-- No answer came. -/
  | lost
  | answered (status : UInt16) (body : String)
deriving DecidableEq, Repr

namespace Outcome

def isSuccess (status : UInt16) : Bool := 200 ≤ status && status < 300

/-- The reply that an outcome amounts to. A successful answer without a body is `null`. -/
def reply : Outcome → Reply
  | .lost => .error (.network "connection lost")
  | .answered status body =>
    if !isSuccess status then .error (.remote status body)
    else if Text.isBlankText body then .ok .null
    else (Json.read body).mapError Failure.ofSyntaxError

end Outcome

/-- A remote side that answers requests, in a state of type `σ`. -/
abbrev Server (σ : Type) := σ → Request → Outcome × σ

/-- A header value may hold anything but controls, the tab apart. -/
def isHeaderValue (value : String) : Bool :=
  value.toList.all fun c => c == '\t' || (0x20 ≤ c.toNat && c.toNat != 0x7F)

/-- A request can be written out if its header can. -/
def Request.isWritable (request : Request) : Bool := isHeaderValue request.authorization.2

/-- A remote side as one that sends requests sees it: a request that cannot be written is lost
before it gets there. -/
def Server.behindConnection (serve : Server σ) : Server σ := fun state request =>
  if request.isWritable then serve state request else (.lost, state)

/-- What became of a request. -/
structure Exchange (σ : Type) where
  reply : Reply
  /-- The request of every try, in order. -/
  tried : List Request
  state : σ

/-- The reply is a failure that another try may mend. -/
def Reply.isRetryable : Reply → Bool
  | .ok _ => false
  | .error e => e.isRetryable

theorem toNat_succ_of_lt {attempt attempts : UInt32} (h : attempt < attempts) :
    (attempt + 1).toNat = attempt.toNat + 1 := by
  have hlt : attempt.toNat < attempts.toNat := UInt32.lt_iff_toNat_lt.mp h
  have hbound : attempts.toNat < 2 ^ 32 := attempts.toNat_lt
  rw [UInt32.toNat_add, show (1 : UInt32).toNat = 1 from rfl]
  omega

/-- Tries a request for the `attempt`-th time of at most `attempts`, and goes on for as long as
another try may help. -/
def deliver (serve : Server σ) (request : Request) (attempts attempt : UInt32) (state : σ) :
    Exchange σ :=
  let answer := serve state request
  if h : Reply.isRetryable answer.1.reply = true ∧ attempt < attempts then
    let rest := deliver serve request attempts (attempt + 1) answer.2
    { rest with tried := request :: rest.tried }
  else ⟨answer.1.reply, [request], answer.2⟩
termination_by attempts.toNat - attempt.toNat
decreasing_by
  have hlt : attempt.toNat < attempts.toNat := UInt32.lt_iff_toNat_lt.mp h.2
  rw [toNat_succ_of_lt h.2]
  omega

namespace Config

/-- How often a request is tried: at least once. -/
def attempts (c : Config) : UInt32 := max c.retryAttempts 1

def requestOf (names : Url.NameMapping) (c : Config) : Call → Except Failure Request
  | .list table p => do return ⟨.get, ← c.listUrl names table p, c.header, none⟩
  | .get table id => do return ⟨.get, ← c.recordUrl names table id, c.header, none⟩
  | .create table payload => do return ⟨.post, ← c.recordsUrl names table, c.header, some payload⟩
  | .update table payload => do return ⟨.patch, ← c.recordsUrl names table, c.header, some payload⟩
  | .delete table payload => do return ⟨.delete, ← c.recordsUrl names table, c.header, some payload⟩

/-- Tries a request as often as the configuration allows. -/
def send (c : Config) (serve : Server σ) (state : σ) (request : Request) : Exchange σ :=
  deliver serve.behindConnection request c.attempts 1 state

/-- The remote side that a server is to the operations; its state keeps the requests that got
there. -/
def responder (names : Url.NameMapping) (c : Config) (serve : Server σ) :
    Responder (σ × List Request) :=
  fun (state, sent) call =>
    match c.requestOf names call with
    | .error e => (.error e, (state, sent))
    | .ok request =>
      let exchange := c.send serve state request
      (exchange.reply, (exchange.state, sent ++ exchange.tried.filter Request.isWritable))

end Config

end RecordQuery
