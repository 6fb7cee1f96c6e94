/- Projection of entity properties onto a dto, and the source unit generated from it. -/
import EndpointGen.Config
import EndpointGen.Dto.Basic
import EndpointGen.Source.SourceUnit

namespace EndpointGen

/-- A property to project, with the annotations that it keeps. -/
structure ProjectedProperty where
  member : Member
  annotations : List Annotation
deriving DecidableEq, Repr

inductive SkipReason where
  | ignored
  | explicit
  | equalityMachinery
  | ignoredAttribute
deriving DecidableEq, Repr

def SkipReason.text : SkipReason → String
  | .ignored => "Ignored"
  | .explicit => "Explicit"
  | .equalityMachinery => "EqualityMachinery"
  | .ignoredAttribute => "IgnoredAttribute"

namespace Dto

def isIgnoredAnnotation (t : Dto) (g : DeclarationGraph) (a : Annotation) : Bool :=
  g.ignores t.ignoredAttributeTypes a.kind

def skipReason? (t : Dto) (g : DeclarationGraph) (p : Member) : Option SkipReason :=
  if t.ignoredProperties.contains p.name then some .ignored
  else if t.explicitMemberNames.contains p.name then some .explicit
  else if p.isEqualityMachinery then some .equalityMachinery
  else if p.annotations.any (t.isIgnoredAnnotation g) then some .ignoredAttribute
  else none

def isDtoMarker (a : Annotation) : Bool := isMarker a.kind dtoMarker

/-- The properties of the fragments of the entity in host order. -/
def entityProperties (t : Dto) (g : DeclarationGraph) : List Member :=
  match g.resolve? t.entityType with
  | none => []
  | some entity => (g.fragments entity.identity).flatMap (·.properties)

def project (t : Dto) (g : DeclarationGraph) (p : Member) : ProjectedProperty :=
  ⟨p, g.propagate t.ignoredAttributeTypes isDtoMarker p.annotations⟩

def properties (t : Dto) (g : DeclarationGraph) : List ProjectedProperty :=
  ((t.entityProperties g).filter fun p => (t.skipReason? g p).isNone).map (t.project g)

/-- The walks that deciding on a property makes: annotations are looked at last. -/
def decisionLog (t : Dto) (g : DeclarationGraph) (p : Member) : List Event :=
  match t.skipReason? g p with
  | some .ignored => []
  | some .explicit => []
  | some .equalityMachinery => []
  | _ => (through (t.isIgnoredAnnotation g) p.annotations).flatMap fun a =>
      g.ignoresLog t.ignoredAttributeTypes a.kind

def propertyLog (t : Dto) (g : DeclarationGraph) (p : Member) : List Event :=
  t.decisionLog g p ++
    match t.skipReason? g p with
    | some reason => [.propertySkipped t.source p.name reason.text]
    | none => g.propagateLog t.ignoredAttributeTypes isDtoMarker p.annotations

def projectionLog (t : Dto) (g : DeclarationGraph) : List Event :=
  (t.entityProperties g).flatMap (t.propertyLog g)

end Dto

namespace ProjectedProperty

def initializer (p : ProjectedProperty) : String :=
  match p.member.initializer? with
  | some text => " = " ++ text ++ ";"
  | none => ""

/-- The property on lines of its own, its attributes above it. -/
def declaration (p : ProjectedProperty) : String :=
  "\n" ++
    SourceUnit.concat (p.annotations.map fun a => SourceUnit.attributeLine a.render) ++
    "        public " ++ p.member.type.render ++ " " ++ p.member.name ++ " \x7b get; set; \x7d" ++
    p.initializer

end ProjectedProperty

namespace Dto

def sourceText (t : Dto) (g : DeclarationGraph) (config : Config) : String :=
  SourceUnit.header t.source config.dtoUsings t.namespaceName ++
    "\n    public partial class " ++ t.name ++ "\n    \x7b" ++
    SourceUnit.concat ((t.properties g).map ProjectedProperty.declaration) ++ "\n    \x7d\n\x7d\n"

def unit (t : Dto) (g : DeclarationGraph) (config : Config) : SourceUnit :=
  ⟨t.outputKey, t.sourceText g config⟩

end Dto

end EndpointGen
