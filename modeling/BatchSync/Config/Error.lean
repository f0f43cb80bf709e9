import BatchSync.Json.Basic

/-!
# Errors of configurations

A configuration may be unreadable as a file, no valid document, or hold a value outside of its range.
-/

namespace BatchSync

/-- What is wrong with a configuration. -/
inductive ConfigError where
  | parse (error : String)
  | unreadable (path error : String)
  | invalidValue (key reason : String)
  deriving DecidableEq

namespace ConfigError

/-- The wording of an error. -/
def message : ConfigError → String
  | .parse error => s!"Failed to parse configuration: {error}"
  | .unreadable path error => s!"Failed to read configuration file '{path}': {error}"
  | .invalidValue key reason => s!"Invalid value for '{key}': {reason}"

/-- The code of an error. -/
def code : ConfigError → String
  | .parse _ => "ConfigParseError"
  | .unreadable _ _ => "ConfigIoError"
  | .invalidValue _ _ => "InvalidConfigValue"

/-- The fields of an error in a document. -/
def toJson : ConfigError → Json
  | .parse error => .object [("type", .string "Parse"), ("error", .string error)]
  | .unreadable path error =>
    .object [("type", .string "Io"), ("path", .string path), ("error", .string error)]
  | .invalidValue key reason =>
    .object [("type", .string "InvalidValue"), ("key", .string key), ("reason", .string reason)]

end ConfigError

end BatchSync
