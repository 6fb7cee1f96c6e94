/- Options of a command line: their spellings, the arguments that can bear them, and reading a run
   of arguments up to the first word. -/

namespace EndpointGen

inductive OptionRole where
  | value
  | switch
  | help
  | version
deriving DecidableEq, Repr

structure OptionSpec where
  name : String
  letter? : Option Char
  role : OptionRole
deriving DecidableEq, Repr

inductive UsageError where
  | helpAsked
  | versionAsked
  | nothingAsked
  | commandMissing
  | commandUnknown (word : String)
  | argumentUnknown (argument : String)
  | valueMissing (option : String)
  | valueEmpty (option : String)
  | valueUnwanted (option : String)
  | optionRepeated (option : String)
  | optionMissing (option : String)
deriving DecidableEq, Repr

namespace UsageError

/-- Being shown the help or the version is a success. -/
def exitCode : UsageError → Nat
  | .helpAsked => 0
  | .versionAsked => 0
  | _ => 2

def message : UsageError → String
  | .helpAsked => "help"
  | .versionAsked => "version"
  | .nothingAsked => "a command is needed"
  | .commandMissing => "a command is needed"
  | .commandUnknown word => "unknown command '" ++ word ++ "'"
  | .argumentUnknown argument => "unknown argument '" ++ argument ++ "'"
  | .valueMissing option => "option --" ++ option ++ " needs a value"
  | .valueEmpty option => "option --" ++ option ++ " needs a value that is not empty"
  | .valueUnwanted option => "option --" ++ option ++ " takes no value"
  | .optionRepeated option => "option --" ++ option ++ " is given more than once"
  | .optionMissing option => "option --" ++ option ++ " is required"

end UsageError

inductive ArgumentForm where
  | separator
  | long (name : String) (value? : Option String)
  | letters (cs : List Char)
  | word
deriving DecidableEq, Repr

namespace ArgumentForm

def ofLong (cs : List Char) : ArgumentForm :=
  .long (String.ofList (cs.takeWhile (· ≠ '=')))
    (match cs.dropWhile (· ≠ '=') with
      | [] => none
      | _ :: value => some (String.ofList value))

/-- Two dashes alone separate; a dash alone is a word. -/
def ofChars : List Char → ArgumentForm
  | ['-', '-'] => .separator
  | '-' :: '-' :: cs => ofLong cs
  | '-' :: c :: cs => .letters (c :: cs)
  | _ => .word

def of (argument : String) : ArgumentForm := ofChars argument.toList

end ArgumentForm

/-- The options met so far. The last one with a value is open until the next is met: its value can
    still be wanting, and its faults are found only when it is settled. -/
structure OptionState where
  values : List (String × String)
  switches : List String
  open? : Option (String × Option String)
deriving DecidableEq, Repr

namespace OptionState

def start : OptionState := ⟨[], [], none⟩

/-- Gives an option its value, which is its only one and not empty. -/
def bindValue (s : OptionState) (name value : String) : Except UsageError OptionState :=
  if (s.values.lookup name).isSome then .error (.optionRepeated name)
  else if value = "" then .error (.valueEmpty name)
  else .ok { s with values := s.values ++ [(name, value)] }

def settle (s : OptionState) : Except UsageError OptionState :=
  match s.open? with
  | none => .ok s
  | some (name, none) => .error (.valueMissing name)
  | some (name, some value) => { s with open? := none }.bindValue name value

def putSwitch (s : OptionState) (name : String) : Except UsageError OptionState :=
  if s.switches.contains name then .error (.optionRepeated name)
  else .ok { s with switches := s.switches ++ [name] }

def meet (s : OptionState) (spec : OptionSpec) : Except UsageError OptionState :=
  match s.settle with
  | .error e => .error e
  | .ok s =>
    match spec.role with
    | .value => .ok { s with open? := some (spec.name, none) }
    | .switch => s.putSwitch spec.name
    | .help => .error .helpAsked
    | .version => .error .versionAsked

def meetValue (s : OptionState) (spec : OptionSpec) (value : String) :
    Except UsageError OptionState :=
  match s.settle with
  | .error e => .error e
  | .ok s => s.bindValue spec.name value

def meetLong (options : List OptionSpec) (s : OptionState) (argument name : String)
    (value? : Option String) : Except UsageError OptionState :=
  match options.find? fun o => o.name == name, value? with
  | none, _ => .error (.argumentUnknown argument)
  | some spec, none => s.meet spec
  | some spec, some value =>
    if spec.role = .value then s.meetValue spec value else .error (.valueUnwanted name)

/-- The value that follows a letter in the same argument, less one equals sign. -/
def afterLetter? : List Char → Option String
  | [] => none
  | '=' :: cs => some (String.ofList cs)
  | cs => some (String.ofList cs)

/-- Meets the options of a run of letters; one with a value takes what is left of the run. -/
def meetLetters (options : List OptionSpec) (s : OptionState) (argument : String) :
    List Char → Except UsageError OptionState
  | [] => .ok s
  | c :: cs =>
    match options.find? fun o => o.letter? == some c with
    | none => .error (.argumentUnknown argument)
    | some spec =>
      if spec.role = .value then
        match afterLetter? cs with
        | some value => s.meetValue spec value
        | none => s.meet spec
      else
        match s.meet spec with
        | .ok s => meetLetters options s argument cs
        | .error e => .error e

inductive Stop where
  | atEnd
  | atWord (separated : Bool) (word : String) (rest : List String)
deriving DecidableEq, Repr

/-- Reads arguments up to the first word. A word is the value of an open option that has none yet;
    all that follows the separator are words, and none of them is a value. -/
def read (options : List OptionSpec) (s : OptionState) :
    List String → Except UsageError (OptionState × Stop)
  | [] => .ok (s, .atEnd)
  | argument :: rest =>
    match ArgumentForm.of argument with
    | .separator =>
      match rest with
      | [] => .ok (s, .atEnd)
      | word :: rest => .ok (s, .atWord true word rest)
    | .long name value? =>
      match s.meetLong options argument name value? with
      | .ok s => read options s rest
      | .error e => .error e
    | .letters cs =>
      match s.meetLetters options argument cs with
      | .ok s => read options s rest
      | .error e => .error e
    | .word =>
      match s.open? with
      | some (name, none) => read options { s with open? := some (name, some argument) } rest
      | _ => .ok (s, .atWord false argument rest)

end OptionState

end EndpointGen
