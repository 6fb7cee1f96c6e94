/- Declaration graphs: the queries that resolution needs, and the walk up a base-type chain. -/
import EndpointGen.Declaration.Basic
import EndpointGen.Report.Event

namespace EndpointGen

/-- What a host answers about its declarations: all fragments in host order, and the first
    fragment of an identity. -/
structure DeclarationGraph where
  declarations : List Declaration
  find? : String → Option Declaration

/-- Where a walk up a base-type chain ends: at the ancestor, at the end of the chain, or at the
    bound on its length. -/
inductive Ascent where
  | reached
  | ended
  | abandoned
deriving DecidableEq, Repr

namespace DeclarationGraph

def ofList (ds : List Declaration) : DeclarationGraph :=
  ⟨ds, fun identity => ds.find? fun d => d.identity == identity⟩

def fragments (g : DeclarationGraph) (identity : String) : List Declaration :=
  g.declarations.filter fun d => d.identity == identity

/-- The parent that the first fragment of an identity names. -/
def baseType? (g : DeclarationGraph) (identity : String) : Option String :=
  (g.find? identity).bind (·.baseType?)

def resolve? (g : DeclarationGraph) (t : TypeExpr) : Option Declaration :=
  t.identity?.bind g.find?

def chainBound : Nat := 64

def ascend (g : DeclarationGraph) (ancestor : String) : Nat → String → Ascent
  | 0, name => if name = ancestor then .reached else .abandoned
  | steps + 1, name =>
    if name = ancestor then .reached
    else match g.baseType? name with
      | some base => g.ascend ancestor steps base
      | none => .ended

def ascent (g : DeclarationGraph) (identity ancestor : String) : Ascent :=
  g.ascend ancestor chainBound identity

def derives (g : DeclarationGraph) (identity ancestor : String) : Bool :=
  g.ascent identity ancestor == .reached

/-- A walk that is given up is reported with its start. -/
def ascentLog (g : DeclarationGraph) (identity ancestor : String) : List Event :=
  if g.ascent identity ancestor = .abandoned then [.baseChainTooLong identity] else []

end DeclarationGraph

end EndpointGen
