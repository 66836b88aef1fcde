import RecordQuery.Config.Basic

/-!
# Stored configurations

A configuration is stored as a JSON object, with `null` for a project or a workspace that is not
set. A stored configuration need not tell its authentication scheme.
-/

namespace RecordQuery.Config

/-- The JSON object under which a configuration is stored. -/
def toJson (c : Config) : Json :=
  .object <| .ofPairs
    [("api_token", .string c.apiToken),
     ("api_url", .string c.apiUrl),
     ("auth_scheme", c.authScheme.toJson),
     ("project", Json.ofOption Json.string c.project),
     ("retry_attempts", Json.ofUInt32 c.retryAttempts),
     ("retry_delay_ms", Json.ofUInt64 c.retryDelay),
     ("timeout_secs", Json.ofUInt64 c.timeout),
     ("workspace", Json.ofOption Json.string c.workspace)]

/-- The fields of a stored configuration as far as they were found. -/
structure Draft where
  apiUrl : Option String := none
  apiToken : Option String := none
  authScheme : Option AuthScheme := none
  project : Option String := none
  workspace : Option String := none
  retryAttempts : Option UInt32 := none
  retryDelay : Option UInt64 := none
  timeout : Option UInt64 := none

namespace Draft

/-- Sets the field that a member of an object stands for; other members are passed over. -/
def setMember (d : Draft) : String × Json → Except DecodeError Draft
  | ("api_url", json) => do return { d with apiUrl := some (← Decoder.text json) }
  | ("api_token", json) => do return { d with apiToken := some (← Decoder.text json) }
  | ("auth_scheme", json) => do return { d with authScheme := some (← AuthScheme.decode json) }
  | ("project", json) => do return { d with project := ← Decoder.optional Decoder.text json }
  | ("workspace", json) => do return { d with workspace := ← Decoder.optional Decoder.text json }
  | ("retry_attempts", json) => do return { d with retryAttempts := some (← Decoder.word32 json) }
  | ("retry_delay_ms", json) => do return { d with retryDelay := some (← Decoder.word64 json) }
  | ("timeout_secs", json) => do return { d with timeout := some (← Decoder.word64 json) }
  | _ => .ok d

/-- The configuration of a draft in which nothing is missing. -/
def complete (d : Draft) : Except DecodeError Config := do
  let apiUrl ← Decoder.required "api_url" d.apiUrl
  let apiToken ← Decoder.required "api_token" d.apiToken
  let retryAttempts ← Decoder.required "retry_attempts" d.retryAttempts
  let retryDelay ← Decoder.required "retry_delay_ms" d.retryDelay
  let timeout ← Decoder.required "timeout_secs" d.timeout
  return {
    apiUrl, apiToken, retryAttempts, retryDelay, timeout
    authScheme := d.authScheme.getD .xcToken
    project := d.project
    workspace := d.workspace }

end Draft

/-- Decodes the eight fields of an array; the authentication scheme may be missing at its end. -/
def decodeItems (items : List Json) : Except DecodeError Config := do
  let shape := "struct ClientConfig with 8 elements"
  let apiUrl ← Decoder.item shape items 0 Decoder.text
  let apiToken ← Decoder.item shape items 1 Decoder.text
  let authScheme ← match items[2]? with
    | some json => AuthScheme.decode json
    | none => .ok .xcToken
  let project ← Decoder.item shape items 3 (Decoder.optional Decoder.text)
  let workspace ← Decoder.item shape items 4 (Decoder.optional Decoder.text)
  let retryAttempts ← Decoder.item shape items 5 Decoder.word32
  let retryDelay ← Decoder.item shape items 6 Decoder.word64
  let timeout ← Decoder.item shape items 7 Decoder.word64
  if items.length > 8 then throw (.extraItems items.length)
  return { apiUrl, apiToken, authScheme, project, workspace, retryAttempts, retryDelay, timeout }

/-- Decodes a stored configuration. -/
def decode : Decoder Config
  | .object fields => do (← fields.pairs.foldlM Draft.setMember {}).complete
  | .array items => decodeItems items
  | found => .error (.wrongKind found "struct ClientConfig")

end RecordQuery.Config
