/- Finite sets kept as ascending lists without repetition. -/

namespace EndpointGen.OrderedSet

variable {α : Type}

/-- Puts an element at its place; an equal element is not repeated. -/
def insert (order : α → α → Ordering) (x : α) : List α → List α
  | [] => [x]
  | y :: ys =>
    match order x y with
    | .lt => x :: y :: ys
    | .eq => y :: ys
    | .gt => y :: insert order x ys

def ofList (order : α → α → Ordering) (xs : List α) : List α :=
  xs.foldr (insert order) []

end EndpointGen.OrderedSet

namespace EndpointGen

def nameSet (xs : List String) : List String := OrderedSet.ofList compare xs

end EndpointGen
