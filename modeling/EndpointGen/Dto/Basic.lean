/- Data transfer objects: partial classes that receive the properties of an entity. -/
import EndpointGen.Annotated.Propagation
import EndpointGen.Report.Resolution

namespace EndpointGen

structure Dto where
  source : String
  name : String
  namespaceName : String
  entityType : TypeExpr
  ignoredProperties : List String
  ignoredAttributeTypes : List TypeExpr
  explicitMemberNames : List String
deriving DecidableEq, Repr

namespace Dto

def outputKey (t : Dto) : String := t.name ++ ".g.cs"

def notPartial (d : Declaration) : Diagnostic :=
  .ofCode .nonPartialDto d.identity
    ("Class '" ++ d.simpleName ++ "' with [Dto] attribute must be declared as partial")
    (some ("Declare it as 'public partial class " ++ d.simpleName ++ "'"))

/-- The entity that a marker names, as its type argument or its first argument. -/
def entityType? (marker : Annotation) : Option TypeExpr :=
  marker.genericArg?.or ((marker.positional? 0).bind Argument.type?)

def ofMarked (g : DeclarationGraph) (d : Declaration) (marker : Annotation) (entity : TypeExpr) :
    Dto :=
  { source := d.identity
    name := d.simpleName
    namespaceName := d.namespaceName
    entityType := entity
    ignoredProperties := Argument.textSet (marker.named? "IgnoredProperties")
    ignoredAttributeTypes := Argument.typeSet (marker.named? "IgnoredAttributes")
    explicitMemberNames :=
      nameSet (((g.fragments d.identity).flatMap (·.properties)).map (·.name)) }

/-- The dto of a declaration: refused where no fragment is partial, left out where the entity is
    not given or not in the graph. -/
def resolve (g : DeclarationGraph) (d : Declaration) : Resolution Dto :=
  match d.marker? dtoMarker with
  | none => .skipped
  | some marker =>
    if d.isPartial || (g.fragments d.identity).any (·.isPartial) then
      match entityType? marker with
      | none => .noted (.entityUnset d.identity)
      | some entity =>
        match g.resolve? entity with
        | none => .noted (.entityUnknown d.identity entity.render)
        | some _ => .resolved (ofMarked g d marker entity) []
    else .refused (notPartial d)

end Dto

end EndpointGen
