/- The settings of a run, their document format and the environment variables that replace them. -/
import EndpointGen.Document.Decode
import EndpointGen.Text.Blank

namespace EndpointGen

open Text

structure Config where
  outputDir : String := "Generated"
  trimAsyncSuffix : Bool := false
  controllerUsings : List String := ["Microsoft.AspNetCore.Mvc", "System", "System.Threading.Tasks"]
  dtoUsings : List String := ["System"]
deriving DecidableEq, Repr

/-- The variables of an environment by name. -/
abbrev Environment := String → Option String

namespace Config

def default : Config := {}

def record : Record Config where
  name := "GeneratorConfig"
  fields := ["output_dir", "trim_async_suffix", "controller_usings", "dto_usings"]
  read source := Config.mk <$> source.optional "output_dir" Decode.pathText default.outputDir
    <*> source.optional "trim_async_suffix" Decode.boolean default.trimAsyncSuffix
    <*> source.optional "controller_usings" (Decode.list Decode.text) default.controllerUsings
    <*> source.optional "dto_usings" (Decode.list Decode.text) default.dtoUsings
  closed := true

def ofDoc : Decoder Config := record.decode

def toDoc (c : Config) : Doc :=
  .ofFields [("output_dir", .string c.outputDir), ("trim_async_suffix", .bool c.trimAsyncSuffix),
    ("controller_usings", .strings c.controllerUsings), ("dto_usings", .strings c.dtoUsings)]

def lowerAscii (s : String) : String := String.ofList (s.toList.map Char.toLower)

/-- The flag texts that switch on, in any case and between blanks. -/
def isOn (value : String) : Bool :=
  ["1", "true", "yes", "on"].contains (lowerAscii (trimBlank value))

def outputDirVariable : String := "FACADEGEN_OUTPUT_DIR"

def trimAsyncVariable : String := "FACADEGEN_TRIM_ASYNC"

/-- The settings with those that the environment replaces; an empty directory replaces nothing. -/
def withEnvironment (c : Config) (env : Environment) : Config :=
  { c with
    outputDir := ((env outputDirVariable).filter (· ≠ "")).getD c.outputDir
    trimAsyncSuffix := ((env trimAsyncVariable).map isOn).getD c.trimAsyncSuffix }

end Config

end EndpointGen
