/- Reading the arguments of a call as an invocation. -/
import EndpointGen.CommandLine.Command
import EndpointGen.CommandLine.Option

namespace EndpointGen

inductive CommandName where
  | generate
  | check
  | inspect
  | help
deriving DecidableEq, Repr

def CommandName.ofWord? : String → Option CommandName
  | "generate" => some .generate
  | "check" => some .check
  | "inspect" => some .inspect
  | "help" => some .help
  | _ => none

namespace Options

def graph : OptionSpec := ⟨"graph", some 'g', .value⟩

def config : OptionSpec := ⟨"config", some 'c', .value⟩

def output : OptionSpec := ⟨"output", some 'o', .value⟩

def dryRun : OptionSpec := ⟨"dry-run", none, .switch⟩

def failOnError : OptionSpec := ⟨"fail-on-error", none, .switch⟩

def errorsOnly : OptionSpec := ⟨"errors-only", none, .switch⟩

def verbose : OptionSpec := ⟨"verbose", some 'v', .switch⟩

def help : OptionSpec := ⟨"help", some 'h', .help⟩

def version : OptionSpec := ⟨"version", some 'V', .version⟩

/-- The options before the command. -/
def leading : List OptionSpec := [verbose, help, version]

/-- The options that a command takes. -/
def ofCommand : CommandName → List OptionSpec
  | .generate => [graph, output, config, dryRun, verbose, help]
  | .check => [graph, config, failOnError, errorsOnly, verbose, help]
  | .inspect => [graph, config, verbose, help]
  | .help => []

end Options

namespace OptionState

def value? (s : OptionState) (o : OptionSpec) : Option String := s.values.lookup o.name

def isOn (s : OptionState) (o : OptionSpec) : Bool := s.switches.contains o.name

/-- The state after the last argument, where every option is settled. -/
def finish (s : OptionState) : Stop → Except UsageError OptionState
  | .atEnd => s.settle
  | .atWord _ word _ => .error (.argumentUnknown word)

end OptionState

namespace Command

/-- The command of a name with settled options; the graph has to be among them. -/
def ofOptions (name : CommandName) (s : OptionState) : Except UsageError Command :=
  match s.value? Options.graph with
  | none => .error (.optionMissing Options.graph.name)
  | some graph =>
    let config? := s.value? Options.config
    match name with
    | .generate =>
      .ok (.generate graph (s.value? Options.output) config? (s.isOn Options.dryRun))
    | .check => .ok (.check graph config? (s.isOn Options.failOnError) (s.isOn Options.errorsOnly))
    | .inspect => .ok (.inspect graph config?)
    | .help => .error .helpAsked

/-- The help of a command: the words after it lead from a command to those below it, and only the
    first level has any. -/
def helpError : List String → UsageError
  | [] => .helpAsked
  | [word] => if (CommandName.ofWord? word).isSome then .helpAsked else .commandUnknown word
  | word :: below :: _ =>
    if (CommandName.ofWord? word).isSome then .commandUnknown below else .commandUnknown word

end Command

namespace Invocation

/-- The invocation of a command from the arguments after its name. -/
def ofCommandArguments (leading : OptionState) (name : CommandName) (rest : List String) :
    Except UsageError Invocation := do
  let (s, stop) ← OptionState.start.read (Options.ofCommand name) rest
  let s ← s.finish stop
  let command ← Command.ofOptions name s
  .ok ⟨command, leading.isOn Options.verbose || s.isOn Options.verbose⟩

/-- The invocation that starts at a word: a command name, unless it stands after the separator. -/
def ofWord (leading : OptionState) (separated : Bool) (word : String) (rest : List String) :
    Except UsageError Invocation :=
  match CommandName.ofWord? word with
  | none => .error (.commandUnknown word)
  | some name =>
    if separated then .error (.argumentUnknown word)
    else match name with
      | .help => .error (Command.helpError rest)
      | name => ofCommandArguments leading name rest

/-- Options, a command name and the options of the command. -/
def ofArguments (arguments : List String) : Except UsageError Invocation :=
  match OptionState.start.read Options.leading arguments with
  | .error e => .error e
  | .ok (s, .atWord separated word rest) => ofWord s separated word rest
  | .ok (s, .atEnd) => .error (if s.switches.isEmpty then .nothingAsked else .commandMissing)

end Invocation

end EndpointGen
