import RecordQuery.Config.Basic
import RecordQuery.Json.SyntaxError

/-!
# Failures of an operation

An operation fails because its caller left out what it needs, because the configuration is of no
use, or because the remote side did not answer, refused, or answered something that is no JSON.
-/

namespace RecordQuery

inductive Failure where
  /-- The operation lacks what it needs; nothing was sent. -/
  | invalidOperation (reason : String)
  /-- The remote side answered with a status that reports no success. -/
  | remote (status : UInt16) (body : String)
  /-- No answer came. -/
  | network (reason : String)
  /-- The answer is no JSON. -/
  | decode (reason : String)
  | config (cause : ConfigError)
deriving DecidableEq, Repr

namespace Failure

/-- The failure that a fault of JSON text makes. -/
def ofSyntaxError (e : Json.SyntaxError) : Failure := .decode e.message

def message : Failure → String
  | .invalidOperation reason => "Invalid operation: " ++ reason
  | .remote status body => "NocoDB API error (" ++ toString status.toNat ++ "): " ++ body
  | .network reason => "Network error: " ++ reason
  | .decode reason => "Decode error: " ++ reason
  | .config cause => "Configuration error: " ++ cause.message

/-- The HTTP status that stands for a failure. -/
def statusCode : Failure → UInt16
  | .invalidOperation _ => 422
  | .remote status _ => status
  | .network _ => 503
  | .decode _ => 502
  | .config _ => 500

def code : Failure → String
  | .invalidOperation _ => "invalid_operation"
  | .remote .. => "remote_api_error"
  | .network _ => "network_error"
  | .decode _ => "decode_error"
  | .config _ => "configuration_error"

/-- Trying again may help: no answer came, or the remote side is busy or broken. -/
def isRetryable : Failure → Bool
  | .network _ => true
  | .remote status _ => status == 429 || 500 ≤ status
  | _ => false

/-- The remote side had no part in the failure. -/
def isLocal : Failure → Bool
  | .invalidOperation _ => true
  | .config _ => true
  | _ => false

end Failure

end RecordQuery
