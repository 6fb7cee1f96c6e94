/- The HTTP verbs that method markers select. -/
import EndpointGen.Annotated.Marker

namespace EndpointGen

inductive HttpVerb where
  | get
  | post
  | put
  | delete
  | patch
deriving DecidableEq, Repr

namespace HttpVerb

def ofName? : String → Option HttpVerb
  | "Get" => some .get
  | "Post" => some .post
  | "Put" => some .put
  | "Delete" => some .delete
  | "Patch" => some .patch
  | _ => none

/-- The verb that an annotation kind names. -/
def ofKind? (kind : String) : Option HttpVerb := (Marker.name? kind).bind ofName?

def text : HttpVerb → String
  | .get => "GET"
  | .post => "POST"
  | .put => "PUT"
  | .delete => "DELETE"
  | .patch => "PATCH"

/-- The framework attribute of the generated action. -/
def attributeName : HttpVerb → String
  | .get => "HttpGet"
  | .post => "HttpPost"
  | .put => "HttpPut"
  | .delete => "HttpDelete"
  | .patch => "HttpPatch"

def isGet (v : HttpVerb) : Bool := v == .get

end HttpVerb

/-- The first verb marker on a member, with its verb. -/
def Member.verbMarker? (m : Member) : Option (HttpVerb × Annotation) :=
  m.annotations.findSome? fun a => (HttpVerb.ofKind? a.kind).map fun v => (v, a)

end EndpointGen
