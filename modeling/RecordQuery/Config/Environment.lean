import RecordQuery.Config.Basic
import RecordQuery.Text.Numeral

/-!
# Configuration from named variables

A configuration is read from variables, each under a name of its own. Variables that are not set
leave a default; the token has to be set. Of several faults the first in the order of reading is
reported.
-/

namespace RecordQuery.Config

def urlVariable : String := "NOCODB_API_URL"

def tokenVariable : String := "NOCODB_API_TOKEN"

/-- The variable that holds the name of the authentication scheme. -/
def schemeVariable : String := "NOCODB_AUTH_SCHEME"

def projectVariable : String := "NOCODB_PROJECT"

def workspaceVariable : String := "NOCODB_WORKSPACE"

def attemptsVariable : String := "NOCODB_RETRY_ATTEMPTS"

/-- The variable that holds the delay between two tries. -/
def delayVariable : String := "NOCODB_RETRY_DELAY_MS"

/-- The variable that holds the time until a try is given up. -/
def timeoutVariable : String := "NOCODB_TIMEOUT_SECS"

/-- The number in a variable, blanks around it apart; the default if the variable is not set. -/
def numberFrom (name : String) (value : Option String) (read : String → Option α) (default : α) :
    Except ConfigError α :=
  match value with
  | none => .ok default
  | some text =>
    match read (Text.trim text) with
    | some number => .ok number
    | none => .error (.invalidValue name ("'" ++ text ++ "' is not a number"))

def schemeFrom (name : String) (value : Option String) (default : AuthScheme) :
    Except ConfigError AuthScheme :=
  match value with
  | none => .ok default
  | some text =>
    match AuthScheme.ofName? text with
    | some scheme => .ok scheme
    | none => .error (.invalidValue name ("unknown scheme '" ++ text ++ "'"))

def tokenFrom (name : String) (value : Option String) : Except ConfigError String :=
  match value with
  | some token => .ok token
  | none => .error (.missingVariable name)

def ofLookup (names : Url.NameMapping) (lookup : String → Option String) :
    Except ConfigError Config := do
  let default : Config := {}
  let apiUrl := (lookup urlVariable).getD default.apiUrl
  let apiToken ← tokenFrom tokenVariable (lookup tokenVariable)
  let authScheme ← schemeFrom schemeVariable (lookup schemeVariable) default.authScheme
  let retryAttempts ←
    numberFrom attemptsVariable (lookup attemptsVariable) Text.readUInt32? default.retryAttempts
  let retryDelay ←
    numberFrom delayVariable (lookup delayVariable) Text.readUInt64? default.retryDelay
  let timeout ← numberFrom timeoutVariable (lookup timeoutVariable) Text.readUInt64? default.timeout
  let config : Config :=
    { apiUrl, apiToken, authScheme, retryAttempts, retryDelay, timeout
      project := lookup projectVariable, workspace := lookup workspaceVariable }
  config.validate names
  return config

end RecordQuery.Config
