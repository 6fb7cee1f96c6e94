/- Discovery of the declarations to generate from. -/
import EndpointGen.Annotated.Marker
import EndpointGen.Graph.Basic

namespace EndpointGen

/-- What a fragment is taken for during discovery. -/
inductive Sighting where
  | unmarked
  | repeated (d : Declaration)
  | facade (d : Declaration) (alsoDto : Bool)
  | dto (d : Declaration)

namespace Sighting

def of (seen : List String) (d : Declaration) : Sighting :=
  let isFacade := (d.marker? facadeMarker).isSome
  let isDto := (d.marker? dtoMarker).isSome
  if !isFacade && !isDto then .unmarked
  else if seen.contains d.identity then .repeated d
  else if isFacade then .facade d isDto
  else .dto d

def facade? : Sighting → Option Declaration
  | .facade d _ => some d
  | _ => none

def dto? : Sighting → Option Declaration
  | .dto d => some d
  | _ => none

def log : Sighting → List Event
  | .repeated d => [.repeatedFragment d.identity]
  | .facade d true => [.bothMarkers d.identity]
  | _ => []

def remember (seen : List String) : Sighting → List String
  | .facade d _ => d.identity :: seen
  | .dto d => d.identity :: seen
  | _ => seen

/-- The sightings in host order: of each identity the first marked fragment counts. -/
def sequence (seen : List String) : List Declaration → List Sighting
  | [] => []
  | d :: ds =>
    let s := Sighting.of seen d
    s :: sequence (s.remember seen) ds

end Sighting

/-- The facades and dtos of a graph, each in host order. -/
structure Discovery where
  facades : List Declaration
  dtos : List Declaration
  log : List Event

def DeclarationGraph.discover (g : DeclarationGraph) : Discovery :=
  let sightings := Sighting.sequence [] g.declarations
  let facades := sightings.filterMap Sighting.facade?
  let dtos := sightings.filterMap Sighting.dto?
  ⟨facades, dtos, sightings.flatMap Sighting.log ++ [.discovered facades.length dtos.length]⟩

end EndpointGen
