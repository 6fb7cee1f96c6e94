/- Marker names: what an annotation kind is recognised as, whatever its namespace, suffix and
   generic form. -/
import EndpointGen.Declaration.Basic
import EndpointGen.Text.Digit

namespace EndpointGen

open Text

namespace Marker

def isWordChar (c : Char) : Bool := c.isAlphanum || c == '_'

def isNameStart (c : Char) : Bool := c.isAlpha || c == '_'

/-- A nonempty run of letters, digits and underscores that starts with no digit. -/
def isName : List Char → Bool
  | [] => false
  | c :: cs => isNameStart c && cs.all isWordChar

def isQualifier (cs : List Char) : Bool := !cs.isEmpty && cs.all isWordChar

def opensGeneric (c : Char) : Bool := c == '`' || c == '<'

/-- Nothing, an arity such as a backtick and digits, or type arguments in angle brackets. -/
def isGenericSuffix : List Char → Bool
  | [] => true
  | '`' :: ds => !ds.isEmpty && ds.all isDecimalDigit
  | '<' :: cs => cs.getLast? == some '>' && cs.all (· ≠ '\n')
  | _ => false

def openChars (kind : List Char) : List Char := kind.takeWhile fun c => !opensGeneric c

def genericChars (kind : List Char) : List Char := kind.dropWhile fun c => !opensGeneric c

/-- The last segment of a dotted name whose other segments are qualifiers. -/
def lastName? (cs : List Char) : Option (List Char) :=
  match (segments '.' cs).reverse with
  | [] => none
  | name :: qualifiers =>
    if isName name && qualifiers.all isQualifier then some name else none

def suffix : String := "Attribute"

/-- The name without the suffix, unless nothing would be left. -/
def withoutSuffix (name : String) : String :=
  match dropSuffix? suffix name with
  | some "" => name
  | some rest => rest
  | none => name

/-- The simple name that a kind is recognised by. -/
def name? (kind : String) : Option String :=
  if isGenericSuffix (genericChars kind.toList) then
    (lastName? (openChars kind.toList)).map fun n => withoutSuffix (String.ofList n)
  else none

end Marker

def openIdentity (kind : String) : String := String.ofList (Marker.openChars kind.toList)

def isMarker (kind marker : String) : Bool := Marker.name? kind == some marker

def Declaration.marker? (d : Declaration) (marker : String) : Option Annotation :=
  d.annotations.find? fun a => isMarker a.kind marker

def facadeMarker : String := "HttpFacade"

def dtoMarker : String := "Dto"

end EndpointGen
