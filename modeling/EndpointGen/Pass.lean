/- A synthesis pass: descriptors and source units of all discovered declarations, each output key
   owned by the first declaration that produces it. -/
import EndpointGen.Annotated.Discovery
import EndpointGen.Dto.Projection
import EndpointGen.Facade.Controller

namespace EndpointGen

/-- The descriptors of a graph before generation. -/
structure Resolved where
  facades : List Facade
  dtos : List Dto
  diagnostics : List Diagnostic
  log : List Event

def DeclarationGraph.resolveAll (g : DeclarationGraph) (config : Config) : Resolved :=
  let found := g.discover
  let facades := found.facades.map (Facade.resolve g config)
  let dtos := found.dtos.map (Dto.resolve g)
  { facades := facades.filterMap (·.value?)
    dtos := dtos.filterMap (·.value?)
    diagnostics := facades.flatMap (·.diagnostics) ++ dtos.flatMap (·.diagnostics)
    log := found.log ++ facades.flatMap (·.log) ++ dtos.flatMap (·.log) }

/-- The work done for one declaration before it is committed. -/
structure Pending where
  identity : String
  units : List SourceUnit
  diagnostics : List Diagnostic
  log : List Event

namespace Pending

def ofFacade (g : DeclarationGraph) (config : Config) (d : Declaration) : Pending :=
  let r := Facade.resolve g config d
  ⟨d.identity, (r.value?.map fun f => f.units config).getD [], r.diagnostics, r.log⟩

def ofDto (g : DeclarationGraph) (config : Config) (d : Declaration) : Pending :=
  let r := Dto.resolve g d
  ⟨d.identity, (r.value?.map fun t => [t.unit g config]).getD [], r.diagnostics,
    r.log ++ (r.value?.map fun t => t.projectionLog g).getD []⟩

end Pending

/-- The output of a pass, with the owner of each output key. -/
structure Pass where
  units : List SourceUnit
  owners : List (String × String)
  diagnostics : List Diagnostic
  log : List Event

namespace Pass

def empty : Pass := ⟨[], [], [], []⟩

def hasErrors (p : Pass) : Bool := EndpointGen.hasErrors p.diagnostics

def unit? (p : Pass) (key : String) : Option SourceUnit := p.units.find? fun u => u.key == key

def keys (p : Pass) : List String := p.units.map (·.key)

/-- The first key of the units that is owned already, with its owner. -/
def collision? (p : Pass) (units : List SourceUnit) : Option (String × String) :=
  units.findSome? fun u => (p.owners.lookup u.key).map fun owner => (u.key, owner)

def duplicateKey (identity key owner : String) : Diagnostic :=
  .ofCode .duplicateOutputKey identity
    ("Output key '" ++ key ++ "' is already produced by '" ++ owner ++ "'")
    (some "Give one of the declarations a distinct controller or class name")

/-- Takes all units of a declaration, or none of them where a key is owned already. -/
def commit (p : Pass) (work : Pending) : Pass :=
  match p.collision? work.units with
  | some (key, owner) =>
    let d := duplicateKey work.identity key owner
    { p with
      diagnostics := p.diagnostics ++ work.diagnostics ++ [d]
      log := p.log ++ work.log ++ [.reported d] }
  | none =>
    { units := p.units ++ work.units
      owners := p.owners ++ work.units.map fun u => (u.key, work.identity)
      diagnostics := p.diagnostics ++ work.diagnostics
      log := p.log ++ work.log ++ work.units.map fun u => .unitGenerated u.key work.identity }

end Pass

/-- The work for all discovered declarations, facades first. -/
def DeclarationGraph.pending (g : DeclarationGraph) (config : Config) : List Pending :=
  g.discover.facades.map (Pending.ofFacade g config) ++
    g.discover.dtos.map (Pending.ofDto g config)

def DeclarationGraph.run (g : DeclarationGraph) (config : Config) : Pass :=
  let p := (g.pending config).foldl Pass.commit { Pass.empty with log := g.discover.log }
  { p with log := p.log ++ [.passComplete p.units.length p.diagnostics.length] }

end EndpointGen
