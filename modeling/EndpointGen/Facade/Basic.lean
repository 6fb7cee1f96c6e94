/- Facades: classes and interfaces whose operations a generated controller forwards. -/
import EndpointGen.Facade.Operation

namespace EndpointGen

open Text

structure Facade where
  source : String
  controllerName : String
  serviceType : TypeExpr
  controllerNamespace : String
  dtoNamespace : String
  operations : List Operation
deriving DecidableEq, Repr

namespace Facade

def controllerClass (f : Facade) : String := f.controllerName ++ "Controller"

def needsEnvelopes (f : Facade) : Bool := f.operations.any fun op => op.envelope?.isSome

def controllerKey (f : Facade) : String := f.controllerClass ++ ".g.cs"

def requestsKey (f : Facade) : String := f.controllerName ++ "Requests.g.cs"

/-- The service that the controller forwards to: an interface itself, else the type argument of
    the marker, its named service, or the first interface of the class. -/
def serviceType? (d : Declaration) (marker : Annotation) : Option TypeExpr :=
  if d.isInterface then some (.named d.identity)
  else (marker.genericArg?.or ((marker.named? "Service").bind Argument.type?)).or d.interfaces.head?

/-- The simple name without the letter of an interface or the suffix of a facade class, unless
    nothing would be left. -/
def derivedName (d : Declaration) : String :=
  let shorter :=
    if d.isInterface then dropPrefix? "I" d.simpleName else dropSuffix? "Facade" d.simpleName
  (shorter.filter (· ≠ "")).getD d.simpleName

def controllerNameOf (d : Declaration) (marker : Annotation) : String :=
  (marker.positionalText? 0).getD (derivedName d)

/-- An operation with an envelope whose record name an earlier operation has, with the member of
    the earliest such operation. -/
def repeatedRecords (seen : List (String × String)) : List Operation →
    List (Operation × RequestEnvelope × String)
  | [] => []
  | op :: ops =>
    match op.envelope? with
    | none => repeatedRecords seen ops
    | some e =>
      match seen.lookup e.typeName with
      | some first => (op, e, first) :: repeatedRecords seen ops
      | none => repeatedRecords ((e.typeName, op.sourceMember) :: seen) ops

def recordDiagnostic (identity : String) (op : Operation) (e : RequestEnvelope)
    (first : String) : Diagnostic :=
  .ofCode .conflictingRequestEnvelope (identity ++ "." ++ op.sourceMember)
    ("Request record '" ++ e.typeName ++ "' is already generated for '" ++ first ++ "'")
    (some "Rename one of the overloads")

def recordDiagnostics (identity : String) (ops : List Operation) : List Diagnostic :=
  (repeatedRecords [] ops).map fun (op, e, first) => recordDiagnostic identity op e first

/-- The members of all fragments of the facade in host order, resolved one by one. -/
def resolveOperations (g : DeclarationGraph) (config : Config) (d : Declaration) :
    List (Resolution Operation) :=
  (g.fragments d.identity).flatMap fun fragment =>
    fragment.methods.map (Operation.resolve g config fragment)

def ofMarked (d : Declaration) (marker : Annotation) (service : TypeExpr)
    (operations : List Operation) : Facade :=
  let controllerNamespace :=
    (marker.namedText? "ControllerNamespace").getD (d.namespaceName ++ ".Controllers")
  { source := d.identity
    controllerName := controllerNameOf d marker
    serviceType := service
    controllerNamespace := controllerNamespace
    dtoNamespace := (marker.namedText? "DtoNamespace").getD controllerNamespace
    operations := operations }

/-- The facade of a declaration, left out where it has no marker or no service. -/
def resolve (g : DeclarationGraph) (config : Config) (d : Declaration) : Resolution Facade :=
  match d.marker? facadeMarker with
  | none => .skipped
  | some marker =>
    match serviceType? d marker with
    | none => .noted (.serviceMissing d.identity)
    | some service =>
      let resolved := resolveOperations g config d
      let facade := ofMarked d marker service (resolved.filterMap (·.value?))
      let conflicts := recordDiagnostics d.identity facade.operations
      { value? := some facade
        diagnostics := resolved.flatMap (·.diagnostics) ++ conflicts
        log := resolved.flatMap (·.log) ++ conflicts.map .reported ++
          [.facadeResolved d.identity facade.controllerName service.render
            facade.operations.length] }

end Facade

end EndpointGen
