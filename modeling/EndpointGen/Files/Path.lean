/- Paths as they are written, with names between slashes. -/
import EndpointGen.Text.Cut

namespace EndpointGen.Path

open Text

def names (path : String) : List String := (segments '/' path.toList).map String.ofList

def isIdle (name : String) : Bool := name == "" || name == "."

/-- Names in reverse order without idle ones at the end; the first name of the path stays. -/
def trimTail : List String → List String
  | [] => []
  | [name] => [name]
  | name :: rest => if isIdle name then trimTail rest else name :: rest

def ofReversed (reversed : List String) : String :=
  match reversed with
  | [""] => "/"
  | _ => String.intercalate "/" reversed.reverse

/-- The path without its last name; none for the root and the empty path. -/
def parent? (path : String) : Option String :=
  match trimTail (names path).reverse with
  | [] => none
  | [name] => if name = "" then none else some ""
  | _ :: rest => some (ofReversed (trimTail rest))

def ancestorsWithin : Nat → String → List String
  | 0, _ => []
  | fuel + 1, path =>
    path :: match parent? path with
      | some p => ancestorsWithin fuel p
      | none => []

def ancestors (path : String) : List String := ancestorsWithin (path.length + 2) path

/-- The last name, unless the path ends in a dot name or the root. -/
def fileName? (path : String) : Option String :=
  match trimTail (names path).reverse with
  | [] => none
  | name :: _ => if isIdle name || name == ".." then none else some name

def extension? (path : String) : Option String :=
  (fileName? path).bind fun name =>
    match (segments '.' name.toList).reverse with
    | [] => none
    | [_] => none
    | [_, []] => none
    | extension :: _ => some (String.ofList extension)

/-- The path of a name in a directory; a path that starts at the root replaces the directory. -/
def join (directory name : String) : String :=
  if name.toList.head? = some '/' || directory = "" then name
  else if directory.toList.getLast? = some '/' then directory ++ name
  else directory ++ "/" ++ name

end EndpointGen.Path
