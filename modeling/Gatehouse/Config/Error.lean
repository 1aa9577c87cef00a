/-!
# Faults of a configuration

Why there is no configuration, or not a good one.
-/

set_option autoImplicit false

namespace Gatehouse

/-- Why a configuration cannot be used. -/
inductive ConfigError where
  | fileNotFound (path : String)
  | unreadable (path cause : String)
  | toml
  | json
  /-- A setting has a value that it cannot have. -/
  | invalidValue (field reason : String)
  /-- A setting without a usable default is not set. -/
  | missingField (field : String)
  /-- An environment variable cannot be read as a setting. -/
  | variable (name reason : String)
  /-- The settings do not go together, or do not come from where they may. -/
  | inconsistent (reason : String)
deriving Repr, DecidableEq

namespace ConfigError

/-- The text of the fault. -/
def message : ConfigError → String
  | .fileNotFound p => "config file " ++ p ++ " does not exist"
  | .unreadable p _ => "cannot read config file " ++ p
  | .toml => "bad TOML config: not a configuration"
  | .json => "bad JSON config: not a configuration"
  | .invalidValue f r => f ++ ": " ++ r
  | .missingField f => "missing required configuration field: " ++ f
  | .variable v r => "environment variable " ++ v ++ ": " ++ r
  | .inconsistent r => "inconsistent configuration: " ++ r

/-- The texts of the fault and of what lies behind it. -/
def causes : ConfigError → List String
  | .unreadable p c => [message (.unreadable p c), c]
  | e => [message e]

end ConfigError
end Gatehouse
