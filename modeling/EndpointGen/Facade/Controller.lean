/- Controllers: the source units generated from a facade. -/
import EndpointGen.Facade.Basic
import EndpointGen.Source.SourceUnit

namespace EndpointGen

open Text

namespace Operation

def envelopeParameter : String := "request"

def queryOrRoute : Binding → String
  | .route => "FromRoute"
  | .free => "FromQuery"

/-- A parameter of an action with the place that its value comes from. -/
def declared (place type name : String) : String := "[" ++ place ++ "] " ++ type ++ " " ++ name

/-- A GET action takes every parameter from the route or the query; other actions take the bound
    parameters, then the envelope. -/
def actionParameters (op : Operation) : List String :=
  if op.verb.isGet then
    op.parameters.map fun p => declared (queryOrRoute p.binding) p.type.render p.name
  else
    ((op.parameters.filter (·.isRouteBound)).map fun p =>
      declared "FromRoute" p.type.render p.name) ++
      match op.envelope? with
      | some e => [declared "FromBody" e.typeName envelopeParameter]
      | none => []

def carrier? (op : Operation) (name : String) : Option EnvelopeField :=
  op.envelope?.bind fun e => e.fields.find? fun f => f.sourceName == name

def callArgument (op : Operation) (p : BoundParameter) : String :=
  match p.binding, op.carrier? p.name with
  | .free, some f => envelopeParameter ++ "." ++ f.name
  | _, _ => p.name

/-- The arguments of the forwarded call, in the order of the source parameters. -/
def callArguments (op : Operation) : List String := op.parameters.map op.callArgument

def verbAttribute (op : Operation) : String :=
  "[" ++ op.verb.attributeName ++ "(" ++ (Argument.string op.route.template).literal ++ ")]"

def attributes (op : Operation) : List String :=
  op.verbAttribute :: op.annotations.map Annotation.render

def action (op : Operation) : String :=
  "\n\n" ++ SourceUnit.concat (op.attributes.map SourceUnit.attributeLine) ++
    "        public " ++ op.returnType.render ++ " " ++ op.methodName ++ "(" ++
    commaSeparated op.actionParameters ++ ")\n            => _service." ++ op.sourceMember ++ "(" ++
    commaSeparated op.callArguments ++ ");"

end Operation

namespace RequestEnvelope

def component (f : EnvelopeField) : String := f.type.render ++ " " ++ f.name

def declaration (e : RequestEnvelope) : String :=
  "\n    public record " ++ e.typeName ++ "(" ++ commaSeparated (e.fields.map component) ++ ");"

end RequestEnvelope

namespace Facade

/-- The usings of the controller: the namespace of the records is added where it is needed, is
    another one and is not there yet. -/
def controllerUsings (f : Facade) (config : Config) : List String :=
  if f.needsEnvelopes && f.dtoNamespace != f.controllerNamespace &&
      !config.controllerUsings.contains f.dtoNamespace then
    config.controllerUsings ++ [f.dtoNamespace]
  else config.controllerUsings

def controllerSource (f : Facade) (config : Config) : String :=
  SourceUnit.header f.source (f.controllerUsings config) f.controllerNamespace ++
    "\n    [ApiController]\n    [Route(\"[controller]\")]\n    public partial class " ++
    f.controllerClass ++ " : ControllerBase\n    \x7b\n        private readonly " ++
    f.serviceType.render ++ " _service;\n\n        public " ++ f.controllerClass ++ "(" ++
    f.serviceType.render ++ " service)\n        \x7b\n            _service = service;\n        \x7d" ++
    SourceUnit.concat (f.operations.map Operation.action) ++ "\n    \x7d\n\x7d\n"

def envelopes (f : Facade) : List RequestEnvelope := f.operations.filterMap (·.envelope?)

def requestsSource (f : Facade) (config : Config) : String :=
  SourceUnit.header f.source config.dtoUsings f.dtoNamespace ++
    SourceUnit.concat (f.envelopes.map RequestEnvelope.declaration) ++ "\n\x7d\n"

/-- The controller, and the request records where there are any. -/
def units (f : Facade) (config : Config) : List SourceUnit :=
  ⟨f.controllerKey, f.controllerSource config⟩ ::
    if f.envelopes.isEmpty then [] else [⟨f.requestsKey, f.requestsSource config⟩]

end Facade

end EndpointGen
