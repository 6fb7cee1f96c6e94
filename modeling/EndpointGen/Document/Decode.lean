/- Decoding documents into records: errors as causes, and records read field by field. -/
import EndpointGen.Document.Basic
import EndpointGen.Text.Visible
import EndpointGen.Text.Cut

namespace EndpointGen

open Decimal Text

/-- What a document is found to be. -/
inductive Shape where
  | null
  | bool (b : Bool)
  | integer (n : Int)
  | float (x : Binary64)
  | string (s : String)
  | sequence
  | map
  | bareVariant
deriving DecidableEq, Repr

/-- What a decoder can take. -/
inductive Expectation where
  | string
  | boolean
  | sequence
  | character
  | pathText
  | variant
  | singleField
  | record (name : String)
  | nothing
  | payload
  | recordPayload
  | naturalNumber
deriving DecidableEq, Repr

inductive DecodeError where
  | wrongType (found : Shape) (expected : Expectation)
  | wrongValue (found : Shape) (expected : Expectation)
  | tooFew (count : Nat) (record : String) (fields : Nat)
  | tooMany (count : Nat)
  | missingField (name : String)
  | unknownField (name : String) (known : List String)
  | unknownVariant (name : String) (known : List String)
deriving DecidableEq, Repr

def Doc.shape : Doc → Shape
  | .null => .null
  | .bool b => .bool b
  | .int n => .integer n
  | .float x => .float x
  | .string s => .string s
  | .array _ => .sequence
  | .object _ => .map

def ticked (s : String) : String := "`" ++ s ++ "`"

def Shape.text : Shape → String
  | .null => "null"
  | .bool b => "boolean " ++ ticked (if b then "true" else "false")
  | .integer n => "integer " ++ ticked (toString n)
  | .float x => "floating point " ++ ticked x.text
  | .string s => "string " ++ showQuoted s
  | .sequence => "sequence"
  | .map => "map"
  | .bareVariant => "unit variant"

def Expectation.phrase : Expectation → String
  | .string => "a string"
  | .boolean => "a boolean"
  | .sequence => "a sequence"
  | .character => "a character"
  | .pathText => "path string"
  | .variant => "string or map"
  | .singleField => "map with a single key"
  | .record name => "struct " ++ name
  | .nothing => "unit"
  | .payload => "newtype variant"
  | .recordPayload => "struct variant"
  | .naturalNumber => "usize"

/-- The names that would have been known: one, two joined by "or", or a list. -/
def expectedNames : List String → String
  | [a] => "expected " ++ ticked a
  | [a, b] => "expected " ++ ticked a ++ " or " ++ ticked b
  | names => "expected one of " ++ commaSeparated (names.map ticked)

def DecodeError.message : DecodeError → String
  | .wrongType found expected => "invalid type: " ++ found.text ++ ", expected " ++ expected.phrase
  | .wrongValue found expected => "invalid value: " ++ found.text ++ ", expected " ++ expected.phrase
  | .tooFew count record fields =>
    "invalid length " ++ toString count ++ ", expected struct " ++ record ++ " with " ++
      toString fields ++ (if fields = 1 then " element" else " elements")
  | .tooMany count =>
    "invalid length " ++ toString count ++ ", expected fewer elements in array"
  | .missingField name => "missing field " ++ ticked name
  | .unknownField name known => "unknown field " ++ ticked name ++ ", " ++ expectedNames known
  | .unknownVariant name known => "unknown variant " ++ ticked name ++ ", " ++ expectedNames known

abbrev Decoder (α : Type) := Doc → Except DecodeError α

namespace Decode

def text : Decoder String
  | .string s => .ok s
  | d => .error (.wrongType d.shape .string)

def pathText : Decoder String
  | .string s => .ok s
  | d => .error (.wrongType d.shape .pathText)

def boolean : Decoder Bool
  | .bool b => .ok b
  | d => .error (.wrongType d.shape .boolean)

/-- A text of exactly one character. -/
def character : Decoder Char
  | .string s =>
    match s.toList with
    | [c] => .ok c
    | _ => .error (.wrongValue (.string s) .character)
  | d => .error (.wrongType d.shape .character)

/-- The decoded items in order, or the error of the first that cannot be decoded. -/
def all {α : Type} (decode : Decoder α) : List Doc → Except DecodeError (List α)
  | [] => .ok []
  | d :: ds => do
    let x ← decode d
    let xs ← all decode ds
    .ok (x :: xs)

def list {α : Type} (decode : Decoder α) : Decoder (List α)
  | .array ds => all decode ds
  | d => .error (.wrongType d.shape .sequence)

/-- Null reads as none. -/
def nullable {α : Type} (decode : Decoder α) : Decoder (Option α)
  | .null => .ok none
  | d => (decode d).map some

/-- A variant with its payload: a bare name, or an object of exactly one field. -/
def variant : Decoder (String × Option Doc)
  | .string s => .ok (s, none)
  | .object [(name, d)] => .ok (name, some d)
  | .object _ => .error (.wrongValue .map .singleField)
  | d => .error (.wrongType d.shape .variant)

/-- The payload of a variant that has none. -/
def noPayload : Option Doc → Except DecodeError Unit
  | none => .ok ()
  | some .null => .ok ()
  | some d => .error (.wrongType d.shape .nothing)

/-- One of the variants that are names only. -/
def oneOf {α : Type} (variants : List (String × α)) : Decoder α := fun d => do
  let (name, payload) ← variant d
  match variants.lookup name with
  | some x => do
    noPayload payload
    .ok x
  | none => .error (.unknownVariant name (variants.map (·.1)))

end Decode

/-- What is wrong with one field of a record. -/
inductive Problem where
  | unreadable (field : String) (error : DecodeError)
  | absent (field : String)

/-- In an object fields are met in ascending order of names, and missing ones at its end. -/
def Problem.precedes : Problem → Problem → Bool
  | .unreadable a _, .unreadable b _ => a < b
  | .unreadable _ _, .absent _ => true
  | .absent _, _ => false

def Problem.earliest (first : Problem) (rest : List Problem) : Problem :=
  rest.foldl (fun best p => if p.precedes best then p else best) first

def Problem.error : Problem → DecodeError
  | .unreadable _ e => e
  | .absent name => .missingField name

/-- A record read field by field: its value, or all its problems in declared order. -/
inductive Reading (α : Type) where
  | ok (value : α)
  | failed (first : Problem) (rest : List Problem)

namespace Reading

def map {α β : Type} (f : α → β) : Reading α → Reading β
  | .ok a => .ok (f a)
  | .failed p ps => .failed p ps

def seq {α β : Type} : Reading (α → β) → Reading α → Reading β
  | .ok f, .ok a => .ok (f a)
  | .ok _, .failed p ps => .failed p ps
  | .failed p ps, .ok _ => .failed p ps
  | .failed p ps, .failed q qs => .failed p (ps ++ q :: qs)

instance : Applicative Reading where
  pure := .ok
  map := map
  seq f x := seq f (x ())

def ofDecoded {α : Type} (name : String) : Except DecodeError α → Reading α
  | .ok a => .ok a
  | .error e => .failed (.unreadable name e) []

end Reading

/-- How a record finds the document of a field. -/
abbrev FieldSource := String → Option Doc

namespace FieldSource

def required {α : Type} (source : FieldSource) (name : String) (decode : Decoder α) : Reading α :=
  match source name with
  | some d => .ofDecoded name (decode d)
  | none => .failed (.absent name) []

def optional {α : Type} (source : FieldSource) (name : String) (decode : Decoder α)
    (default : α) : Reading α :=
  match source name with
  | some d => .ofDecoded name (decode d)
  | none => .ok default

end FieldSource

/-- A record of the format: its name, its fields in declared order, how they are read, and
    whether it refuses fields of other names. -/
structure Record (α : Type) where
  name : String
  fields : List String
  read : FieldSource → Reading α
  closed : Bool := false

namespace Record

variable {α : Type}

def unknownFields (r : Record α) (fields : List (String × Doc)) : List Problem :=
  if r.closed then
    (fields.filter fun f => !r.fields.contains f.1).map fun f =>
      .unreadable f.1 (.unknownField f.1 r.fields)
  else []

def ofObject (r : Record α) (fields : List (String × Doc)) : Except DecodeError α :=
  match r.read (fun name => fields.lookup name), r.unknownFields fields with
  | .ok a, [] => .ok a
  | .ok _, p :: ps => .error (p.earliest ps).error
  | .failed p ps, unknown => .error (p.earliest (ps ++ unknown)).error

/-- In an array the items stand in the declared order of the fields. -/
def ofItems (r : Record α) (items : List Doc) : Except DecodeError α :=
  match r.read (fun name => (r.fields.zip items).lookup name) with
  | .ok a => if items.length ≤ r.fields.length then .ok a else .error (.tooMany items.length)
  | .failed (.unreadable _ e) _ => .error e
  | .failed (.absent _) _ => .error (.tooFew items.length r.name r.fields.length)

def decode (r : Record α) : Decoder α
  | .object fields => r.ofObject fields
  | .array items => r.ofItems items
  | d => .error (.wrongType d.shape (.record r.name))

end Record

end EndpointGen
