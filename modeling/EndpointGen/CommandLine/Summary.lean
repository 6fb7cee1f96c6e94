/- The summary of resolved descriptors that is shown to the user. -/
import EndpointGen.Pass

namespace EndpointGen

open Text

namespace Operation

/-- Where a caller puts the value of a parameter. -/
def placeOf (op : Operation) (p : BoundParameter) : String :=
  match p.binding, op.verb.isGet with
  | .route, _ => "route"
  | .free, true => "query"
  | .free, false => "body"

def parameterLine (op : Operation) (p : BoundParameter) : String :=
  "         " ++ p.type.render ++ " " ++ p.name ++ " (" ++ op.placeOf p ++ ")\n"

def bodyLine (dtoNamespace : String) (e : RequestEnvelope) : String :=
  "         body: " ++ dtoNamespace ++ "." ++ e.typeName ++ "\n"

def summary (op : Operation) (dtoNamespace : String) : String :=
  "      " ++ op.verb.text ++ " " ++ op.route.template ++ " → " ++ op.methodName ++ "\n" ++
    String.join (op.parameters.map op.parameterLine) ++
    ((op.envelope?.map (bodyLine dtoNamespace)).getD "")

end Operation

def Facade.summary (f : Facade) : String :=
  "   " ++ f.source ++ " → " ++ f.controllerNamespace ++ "." ++ f.controllerClass ++
    " (service " ++ f.serviceType.render ++ ")\n" ++
    String.join (f.operations.map fun op => op.summary f.dtoNamespace)

namespace Dto

/-- A line of names, left out where there are none. -/
def namesLine (title : String) : List String → String
  | [] => ""
  | names => "      " ++ title ++ ": " ++ commaSeparated names ++ "\n"

def summary (t : Dto) : String :=
  "   " ++ t.source ++ " ← " ++ t.entityType.render ++ "\n" ++
    namesLine "ignored" t.ignoredProperties ++ namesLine "explicit" t.explicitMemberNames

end Dto

def Resolved.summary (r : Resolved) : String :=
  "📋 Facades: " ++ toString r.facades.length ++ "\n" ++
    String.join (r.facades.map Facade.summary) ++
    "📋 Dtos: " ++ toString r.dtos.length ++ "\n" ++ String.join (r.dtos.map Dto.summary)

end EndpointGen
