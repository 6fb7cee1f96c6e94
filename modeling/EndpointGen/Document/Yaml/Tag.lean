/- Tags: what the bytes in front of a node say about its kind. -/
import EndpointGen.Text.Utf8

namespace EndpointGen.Yaml

inductive Tag where
  /-- Nothing is said. -/
  | silent
  | boolean
  | integer
  | float
  | null
  /-- A kind of the document's own, which nothing is known about. -/
  | own
  /-- A kind that is known to be none of these. -/
  | other
deriving DecidableEq, Repr

namespace Tag

/-- The bytes of a text of which every character is one byte. -/
def bytes (s : String) : List UInt8 := s.toList.map fun c => c.toNat.toUInt8

def ownStem : List UInt8 := bytes "!"

def standardStem : List UInt8 := bytes "tag:yaml.org,2002:"

def standardKinds : List (List UInt8 × Tag) :=
  [("bool", .boolean), ("int", .integer), ("float", .float), ("null", .null)].map
    fun (name, tag) => (standardStem ++ bytes name, tag)

/-- A zero byte ends the bytes of a tag. -/
def untilZero (bs : List UInt8) : List UInt8 := bs.takeWhile (· != 0)

/-- The meaning of the bytes of a tag; an own kind whose name is not text says nothing. -/
def ofBytes (bs : List UInt8) : Tag :=
  if ownStem.isPrefixOf bs then
    if (Text.Utf8.text? (bs.drop ownStem.length)).isSome then .own else .silent
  else (standardKinds.lookup bs).getD .other

end Tag

end EndpointGen.Yaml
