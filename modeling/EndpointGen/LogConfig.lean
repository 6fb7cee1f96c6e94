/- The settings of the log, taken from the environment. -/
import EndpointGen.Config
import EndpointGen.Document.Json
import EndpointGen.Report.Event

namespace EndpointGen

inductive LogFormat where
  | json
  | pretty
deriving DecidableEq, Repr

def LogFormat.text : LogFormat → String
  | .json => "json"
  | .pretty => "pretty"

structure LogConfig where
  logLevel : String
  format : LogFormat
  includeLocation : Bool
deriving DecidableEq, Repr

namespace LogConfig

/-- In any case of letters. Lowering ASCII letters is enough: no letter of the words compared with
    is the lower case of a letter outside ASCII. -/
def formatOf (s : String) : LogFormat := if Config.lowerAscii s = "json" then .json else .pretty

def flag? : String → Option Bool
  | "true" => some true
  | "false" => some false
  | _ => none

def levelVariable : String := "FACADEGEN_LOG_LEVEL"

def formatVariable : String := "FACADEGEN_LOG_FORMAT"

def locationVariable : String := "FACADEGEN_LOG_INCLUDE_LOCATION"

def variableNames : List String := [levelVariable, formatVariable, locationVariable]

def ofEnvironment (env : Environment) : LogConfig :=
  { logLevel := (env levelVariable).getD "info"
    format := formatOf ((env formatVariable).getD "pretty")
    includeLocation := ((env locationVariable).bind flag?).getD false }

/-- The level that a text names, in any case of letters; other texts mean the info level. -/
def level (c : LogConfig) : Level :=
  match Config.lowerAscii c.logLevel with
  | "trace" => .trace
  | "debug" => .debug
  | "warn" => .warn
  | "error" => .error
  | _ => .info

/-- At least the debug level. -/
def verbose (c : LogConfig) : LogConfig :=
  if c.level = .trace then c else { c with logLevel := "debug" }

/-- Events of the level and of graver ones are shown. -/
def shows (c : LogConfig) (l : Level) : Bool := c.level.rank ≤ l.rank

def eventDoc (e : Event) : Doc :=
  .ofFields [("level", .string e.level.text), ("message", .string e.message),
    ("fields", .ofFields (e.fields.map fun f => (f.1, .string f.2)))]

/-- An event on one line, in the format of the log. -/
def line (c : LogConfig) (e : Event) : String :=
  match c.format with
  | .json => Json.render (eventDoc e)
  | .pretty =>
    e.level.text ++ " " ++ e.message ++ String.join (e.fields.map fun f => " " ++ f.1 ++ "=" ++ f.2)

end LogConfig

end EndpointGen
