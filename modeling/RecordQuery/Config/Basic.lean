import RecordQuery.Config.AuthScheme
import RecordQuery.Url.Parser

/-!
# Configuration of a connection

Where the API of a deployment is, how requests authenticate, and how often one is tried. A
configuration is usable when its address is an `http` or `https` URL.
-/

namespace RecordQuery

inductive ConfigError where
  /-- A variable that has to be set is not. -/
  | missingVariable (name : String)
  /-- The value under a key is not acceptable. -/
  | invalidValue (key reason : String)
deriving DecidableEq, Repr

def ConfigError.message : ConfigError → String
  | .missingVariable name => "Environment variable not set: " ++ name
  | .invalidValue key reason => "Invalid value for " ++ key ++ ": " ++ reason

structure Config where
  /-- The address of the deployment, without the path of its API. -/
  apiUrl : String := "https://app.nocodb.com"
  apiToken : String := ""
  authScheme : AuthScheme := .xcToken
  project : Option String := none
  workspace : Option String := none
  /-- How often a request is tried, the first time included. -/
  retryAttempts : UInt32 := 3
  /-- Milliseconds between two tries. -/
  retryDelay : UInt64 := 100
  /-- Seconds until a try is given up. -/
  timeout : UInt64 := 30
deriving DecidableEq, Repr

namespace Config

/-- The settings for an address and a token, the others at their defaults. -/
def of (apiUrl apiToken : String) : Config := { apiUrl, apiToken }

def withAuthScheme (c : Config) (authScheme : AuthScheme) : Config := { c with authScheme }

def withProject (c : Config) (project : String) : Config := { c with project := some project }

/-- The settings with other tries and another delay between them. -/
def withRetry (c : Config) (retryAttempts : UInt32) (retryDelay : UInt64) : Config :=
  { c with retryAttempts, retryDelay }

/-- The schemes under which a deployment can be reached. -/
def isSupportedScheme (scheme : String) : Bool := scheme == "http" || scheme == "https"

/-- The configuration is usable; names of hosts are mapped as `names` tells. -/
def validate (names : Url.NameMapping) (c : Config) : Except ConfigError Unit :=
  if Text.isBlankText c.apiUrl then .error (.invalidValue "api_url" "must not be empty")
  else
    match Url.parse names c.apiUrl with
    | .error e => .error (.invalidValue "api_url" e.message)
    | .ok url =>
      if isSupportedScheme url.scheme then .ok ()
      else .error (.invalidValue "api_url" ("unsupported scheme '" ++ url.scheme ++ "'"))

/-- The address without slashes at its end. -/
def baseUrl (c : Config) : String :=
  String.ofList (Text.dropEndWhile (· == '/') c.apiUrl.toList)

/-- The name and the value of the header that authenticates a request. -/
def header (c : Config) : String × String := c.authScheme.header c.apiToken

end Config

end RecordQuery
