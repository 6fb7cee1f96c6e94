/- Findings about malformed input, each tied to a declaration or member. -/

namespace EndpointGen

inductive Severity where
  | warning
  | error
deriving DecidableEq, Repr

namespace Severity

def text : Severity → String
  | .warning => "warning"
  | .error => "error"

/-- The graver of two severities. -/
def worse : Severity → Severity → Severity
  | .warning, s => s
  | .error, _ => .error

end Severity

inductive DiagnosticCode where
  | nonPartialDto
  | unmatchedRouteParameter
  | synthesisFailed
  | duplicateOutputKey
  | conflictingRequestEnvelope
deriving DecidableEq, Repr

namespace DiagnosticCode

def text : DiagnosticCode → String
  | .nonPartialDto => "non_partial_dto"
  | .unmatchedRouteParameter => "unmatched_route_parameter"
  | .synthesisFailed => "synthesis_failed"
  | .duplicateOutputKey => "duplicate_output_key"
  | .conflictingRequestEnvelope => "conflicting_request_envelope"

def severity : DiagnosticCode → Severity
  | .unmatchedRouteParameter => .warning
  | .conflictingRequestEnvelope => .warning
  | .nonPartialDto => .error
  | .synthesisFailed => .error
  | .duplicateOutputKey => .error

end DiagnosticCode

structure Diagnostic where
  code : DiagnosticCode
  severity : Severity
  message : String
  location : String
  suggestion? : Option String
deriving DecidableEq, Repr

namespace Diagnostic

/-- A diagnostic of the severity of its code. -/
def ofCode (code : DiagnosticCode) (location message : String) (suggestion? : Option String) :
    Diagnostic :=
  ⟨code, code.severity, message, location, suggestion?⟩

def isError (d : Diagnostic) : Bool := d.severity == .error

/-- The diagnostic on one line. -/
def line (d : Diagnostic) : String :=
  d.severity.text ++ "[" ++ d.code.text ++ "] " ++ d.location ++ ": " ++ d.message

end Diagnostic

def hasErrors (ds : List Diagnostic) : Bool := ds.any (·.isError)

/-- The gravest severity among the diagnostics. -/
def worstSeverity? : List Diagnostic → Option Severity
  | [] => none
  | d :: ds =>
    match worstSeverity? ds with
    | none => some d.severity
    | some s => some (d.severity.worse s)

namespace Diagnostic

def block (d : Diagnostic) : String :=
  "   [" ++ d.code.text ++ "] " ++ d.location ++ "\n      " ++ d.message ++ "\n" ++
    match d.suggestion? with
    | some s => "      💡 Suggestion: " ++ s ++ "\n"
    | none => ""

def group (title : String) : List Diagnostic → String
  | [] => ""
  | d :: ds => title ++ "\n" ++ String.join ((d :: ds).map block) ++ "\n"

/-- The diagnostics grouped by severity, errors first. -/
def report : List Diagnostic → String
  | [] => "✅ No diagnostics\n"
  | d :: ds =>
    let errors := (d :: ds).filter (·.isError)
    let warnings := (d :: ds).filter fun d => !d.isError
    "\n📋 Diagnostics:\n   " ++ toString errors.length ++ " error(s), " ++
      toString warnings.length ++ " warning(s)\n\n" ++
      group "❌ Errors:" errors ++ group "⚠️  Warnings:" warnings

end Diagnostic

end EndpointGen
