/- Declaration sets: fragments in order with an index of the first position of each identity. -/
import Std.Data.HashMap
import EndpointGen.Graph.Basic

namespace EndpointGen

structure DeclarationSet where
  declarations : Array Declaration
  index : Std.HashMap String Nat

namespace DeclarationSet

def empty : DeclarationSet := ⟨#[], ∅⟩

/-- Adds a fragment; the index keeps the first position of an identity. -/
def push (s : DeclarationSet) (d : Declaration) : DeclarationSet :=
  ⟨s.declarations.push d, s.index.insertIfNew d.identity s.declarations.size⟩

/-- The positions of the first fragments, counted from `start`. -/
def indexFrom (start : Nat) (index : Std.HashMap String Nat) :
    List Declaration → Std.HashMap String Nat
  | [] => index
  | d :: ds => indexFrom (start + 1) (index.insertIfNew d.identity start) ds

def ofList (ds : List Declaration) : DeclarationSet := ⟨ds.toArray, indexFrom 0 ∅ ds⟩

def size (s : DeclarationSet) : Nat := s.declarations.size

def isEmpty (s : DeclarationSet) : Bool := s.declarations.isEmpty

def toList (s : DeclarationSet) : List Declaration := s.declarations.toList

def find? (s : DeclarationSet) (identity : String) : Option Declaration :=
  s.index[identity]?.bind fun i => s.declarations[i]?

/-- The graph that answers through the index. -/
def graph (s : DeclarationSet) : DeclarationGraph := ⟨s.toList, s.find?⟩

end DeclarationSet

end EndpointGen
