/- Which annotations of a source member are restated on the generated member. -/
import EndpointGen.Annotated.Marker
import EndpointGen.Graph.Basic

namespace EndpointGen

open Text

/-- Namespaces whose annotations belong to the compiler. -/
def internalNamespaces : List String :=
  ["System.Runtime.CompilerServices", "Microsoft.CodeAnalysis"]

def isInternal (kind : String) : Bool :=
  internalNamespaces.any fun ns => (ns ++ ".").toList.isPrefixOf kind.toList

/-- The items up to the first that passes, with it. -/
def through {α : Type} (p : α → Bool) : List α → List α
  | [] => []
  | x :: xs => if p x then [x] else x :: through p xs

def ignoredIdentities (ignored : List TypeExpr) : List String :=
  (ignored.filterMap TypeExpr.identity?).map openIdentity

/-- The walks that decide whether a kind is ignored: for each ignored type from the kind as it is
    written, and from its open type where that is another. -/
def walksToIgnored (kind : String) (ignored : List TypeExpr) : List (String × String) :=
  (ignoredIdentities ignored).flatMap fun ancestor =>
    if openIdentity kind = kind then [(kind, ancestor)]
    else [(kind, ancestor), (openIdentity kind, ancestor)]

namespace DeclarationGraph

def ignores (g : DeclarationGraph) (ignored : List TypeExpr) (kind : String) : Bool :=
  (walksToIgnored kind ignored).any fun (start, ancestor) => g.derives start ancestor

/-- Walks are made until one succeeds. -/
def ignoresLog (g : DeclarationGraph) (ignored : List TypeExpr) (kind : String) : List Event :=
  (through (fun (start, ancestor) => g.derives start ancestor) (walksToIgnored kind ignored)).flatMap
    fun (start, ancestor) => g.ascentLog start ancestor

def candidates (consumed : Annotation → Bool) (annotations : List Annotation) : List Annotation :=
  annotations.filter fun a => !consumed a && !isInternal a.kind

def propagate (g : DeclarationGraph) (ignored : List TypeExpr) (consumed : Annotation → Bool)
    (annotations : List Annotation) : List Annotation :=
  (candidates consumed annotations).filter fun a => !g.ignores ignored a.kind

def propagateLog (g : DeclarationGraph) (ignored : List TypeExpr) (consumed : Annotation → Bool)
    (annotations : List Annotation) : List Event :=
  (candidates consumed annotations).flatMap fun a => g.ignoresLog ignored a.kind

end DeclarationGraph

end EndpointGen
