/- Operations: the methods of a facade that carry a verb marker, resolved for generation. -/
import EndpointGen.Annotated.Propagation
import EndpointGen.Config
import EndpointGen.Facade.Route
import EndpointGen.Facade.Verb
import EndpointGen.Report.Resolution
import EndpointGen.Text.Capital

namespace EndpointGen

open Text

/-- A component of a request record and the source parameter that it carries. -/
structure EnvelopeField where
  name : String
  sourceName : String
  type : TypeExpr
deriving DecidableEq, Repr

structure RequestEnvelope where
  typeName : String
  fields : List EnvelopeField
deriving DecidableEq, Repr

structure Operation where
  sourceMember : String
  verb : HttpVerb
  route : Route
  methodName : String
  returnType : TypeExpr
  parameters : List BoundParameter
  envelope? : Option RequestEnvelope
  annotations : List Annotation
deriving DecidableEq, Repr

namespace RequestEnvelope

def fieldOf (p : BoundParameter) : EnvelopeField := ⟨capitalize p.name, p.name, p.type⟩

/-- A record of the free parameters in declared order; none where every parameter is bound. -/
def ofParameters? (base : String) (parameters : List BoundParameter) : Option RequestEnvelope :=
  match parameters.filter fun p => !p.isRouteBound with
  | [] => none
  | p :: ps => some ⟨base ++ "Request", (p :: ps).map fieldOf⟩

def repeatedFields (seen : List String) : List EnvelopeField → List EnvelopeField
  | [] => []
  | f :: fs =>
    if seen.contains f.name then f :: repeatedFields seen fs
    else repeatedFields (f.name :: seen) fs

def fieldDiagnostic (location typeName : String) (f : EnvelopeField) : Diagnostic :=
  .ofCode .conflictingRequestEnvelope location
    ("Parameter '" ++ f.sourceName ++ "' maps to field '" ++ f.name ++ "' of '" ++ typeName ++
      "', which another parameter already uses")
    (some "Rename one of the parameters")

def fieldDiagnostics (e : RequestEnvelope) (location : String) : List Diagnostic :=
  (repeatedFields [] e.fields).map (fieldDiagnostic location e.typeName)

end RequestEnvelope

namespace Operation

def asyncSuffix : String := "Async"

/-- The name behind default routes and record names: the method name, less a trailing suffix
    where the settings trim it and something is left. -/
def baseName (config : Config) (member : String) : String :=
  if config.trimAsyncSuffix then ((dropSuffix? asyncSuffix member).filter (· ≠ "")).getD member
  else member

/-- The text that a marker gives as its route, empty text included. -/
def explicitRoute? (marker : Annotation) : Option String :=
  (marker.positional? 0).bind Argument.text?

def location (owner : Declaration) (m : Member) : String := owner.identity ++ "." ++ m.name

def ofMarked (g : DeclarationGraph) (config : Config) (m : Member) (verb : HttpVerb)
    (marker : Annotation) : Operation :=
  let base := baseName config m.name
  let route := Route.parse ((explicitRoute? marker).getD base)
  let parameters := route.bind m.parameters
  { sourceMember := m.name
    verb := verb
    route := route
    methodName := (marker.namedText? "MethodName").getD m.name
    returnType := m.type
    parameters := parameters
    envelope? := if verb.isGet then none else RequestEnvelope.ofParameters? base parameters
    annotations := g.propagate [] (fun a => (HttpVerb.ofKind? a.kind).isSome) m.annotations }

/-- Route parameters without a method parameter first, then repeated fields. -/
def warnings (op : Operation) (owner : Declaration) (m : Member) : List Diagnostic :=
  op.route.unmatchedDiagnostics m.parameters (location owner m) m.name ++
    match op.envelope? with
    | some e => e.fieldDiagnostics (location owner m)
    | none => []

def resolve (g : DeclarationGraph) (config : Config) (owner : Declaration) (m : Member) :
    Resolution Operation :=
  if m.isMethod then
    match m.verbMarker? with
    | some (verb, marker) =>
      let op := ofMarked g config m verb marker
      .resolved op (op.warnings owner m)
    | none => .skipped
  else .skipped

end Operation

end EndpointGen
