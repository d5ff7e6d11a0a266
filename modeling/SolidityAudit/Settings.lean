import SolidityAudit.Number.Binary64

/-!
# Settings

What can be configured: names, the environment the program runs in, logging,
the allowed origins of browser requests, and the limits on input.

## Main definitions

* `Environment`: Development, staging or production.
* `Settings`: All settings with their defaults.
-/

namespace SolidityAudit

/-- Where the program runs. -/
inductive Environment where
  | development
  | staging
  | production
deriving DecidableEq, Repr

namespace Environment

/-- The environments in the order in which they are listed. -/
def all : List Environment := [.development, .staging, .production]

/-- The name of an environment. -/
def name : Environment → String
  | .development => "development"
  | .staging => "staging"
  | .production => "production"

/-- The environment of a name. -/
def ofName? (s : String) : Option Environment :=
  all.find? fun e => e.name == s

end Environment

/-- The settings of the program. -/
structure Settings where
  appName : String := "SafeContract Engine"
  environment : Environment := .development
  debug : Bool := false
  logLevel : String := "INFO"
  /-- The origins browsers may call from, separated by commas. -/
  allowedOrigins : String := "http://localhost:3000,http://localhost:3001"
  /-- The longest source text that is scanned. -/
  maxSourceBytes : Int := 200000
  /-- The seconds a scan may take before its request is given up. -/
  scanTimeout : Binary64 := Binary64.ofNat 30
  /-- The longest request body that is read. -/
  maxRequestBytes : Int := 1048576
  /-- The method certificates name. -/
  method : String := "Heuristic pattern analysis"
deriving DecidableEq, Repr

end SolidityAudit
