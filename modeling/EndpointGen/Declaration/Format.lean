/- The document format of declaration graphs: reading and writing. -/
import EndpointGen.Declaration.Basic
import EndpointGen.Document.Decode

namespace EndpointGen

namespace TypeExpr

def variants : List String := ["primitive", "named", "nullable", "container"]

/-- What is wrong with a variant of which only the name is given. -/
def bareVariantError (name : String) : DecodeError :=
  if name = "container" then .wrongType .bareVariant .recordPayload
  else if variants.contains name then .wrongType .bareVariant .payload
  else .unknownVariant name variants

mutual

def ofDoc : Doc → Except DecodeError TypeExpr
  | .string name => .error (bareVariantError name)
  | .object [(variant, d)] =>
    if variant = "primitive" then (Decode.text d).map .primitive
    else if variant = "named" then (Decode.text d).map .named
    else if variant = "nullable" then (ofDoc d).map .nullable
    else if variant = "container" then
      match d with
      | .object fields => containerOfFields fields none none
      | d => .error (.wrongType d.shape .recordPayload)
    else .error (.unknownVariant variant variants)
  | .object _ => .error (.wrongValue .map .singleField)
  | d => .error (.wrongType d.shape .variant)

/-- A container from its fields in ascending order of names, with what was read so far. -/
def containerOfFields : List (String × Doc) → Option String → Option (List TypeExpr) →
    Except DecodeError TypeExpr
  | [], none, _ => .error (.missingField "name")
  | [], some _, none => .error (.missingField "args")
  | [], some name, some args => .ok (.container name args)
  | (field, d) :: rest, name, args =>
    if field = "name" then
      match Decode.text d with
      | .ok s => containerOfFields rest (some s) args
      | .error e => .error e
    else if field = "args" then
      match d with
      | .array ds =>
        match ofDocs ds with
        | .ok ts => containerOfFields rest name (some ts)
        | .error e => .error e
      | d => .error (.wrongType d.shape .sequence)
    else containerOfFields rest name args

def ofDocs : List Doc → Except DecodeError (List TypeExpr)
  | [] => .ok []
  | d :: ds =>
    match ofDoc d with
    | .error e => .error e
    | .ok t =>
      match ofDocs ds with
      | .error e => .error e
      | .ok ts => .ok (t :: ts)

end

mutual

def toDoc : TypeExpr → Doc
  | .primitive name => .tagged "primitive" (.string name)
  | .named name => .tagged "named" (.string name)
  | .nullable t => .tagged "nullable" t.toDoc
  | .container name args =>
    .tagged "container" (.ofFields [("name", .string name), ("args", .array (toDocs args))])

def toDocs : List TypeExpr → List Doc
  | [] => []
  | t :: ts => t.toDoc :: toDocs ts

end

end TypeExpr

namespace Argument

def variants : List String :=
  ["null", "string", "bool", "char", "primitive", "type", "enum", "array"]

mutual

def ofDoc : Doc → Except DecodeError Argument
  | .string name =>
    if name = "null" then .ok .null
    else if variants.contains name then .error (.wrongType .bareVariant .payload)
    else .error (.unknownVariant name variants)
  | .object [(variant, d)] =>
    if variant = "null" then (Decode.noPayload (some d)).map fun _ => .null
    else if variant = "string" then (Decode.text d).map .string
    else if variant = "bool" then (Decode.boolean d).map .bool
    else if variant = "char" then (Decode.character d).map .char
    else if variant = "primitive" then (Decode.text d).map .primitive
    else if variant = "type" then (TypeExpr.ofDoc d).map .type
    else if variant = "enum" then (Decode.text d).map .enum
    else if variant = "array" then
      match d with
      | .array ds => (ofDocs ds).map .array
      | d => .error (.wrongType d.shape .sequence)
    else .error (.unknownVariant variant variants)
  | .object _ => .error (.wrongValue .map .singleField)
  | d => .error (.wrongType d.shape .variant)

def ofDocs : List Doc → Except DecodeError (List Argument)
  | [] => .ok []
  | d :: ds =>
    match ofDoc d with
    | .error e => .error e
    | .ok x =>
      match ofDocs ds with
      | .error e => .error e
      | .ok xs => .ok (x :: xs)

end

mutual

def toDoc : Argument → Doc
  | .null => .string "null"
  | .string s => .tagged "string" (.string s)
  | .bool b => .tagged "bool" (.bool b)
  | .char c => .tagged "char" (.string (String.ofList [c]))
  | .primitive text => .tagged "primitive" (.string text)
  | .type t => .tagged "type" t.toDoc
  | .enum text => .tagged "enum" (.string text)
  | .array xs => .tagged "array" (.array (toDocs xs))

def toDocs : List Argument → List Doc
  | [] => []
  | x :: xs => x.toDoc :: toDocs xs

end

end Argument

/-- A field that is left out when its list is empty. -/
def listField {α : Type} (name : String) (toDoc : α → Doc) (xs : List α) : List (String × Doc) :=
  if xs.isEmpty then [] else [(name, .array (xs.map toDoc))]

/-- A field that is left out when there is no text. -/
def textField (name : String) : Option String → List (String × Doc)
  | some s => [(name, .string s)]
  | none => []

namespace NamedArgument

def record : Record NamedArgument where
  name := "NamedArgument"
  fields := ["name", "value"]
  read source := NamedArgument.mk <$> source.required "name" Decode.text
    <*> source.required "value" Argument.ofDoc

def ofDoc : Decoder NamedArgument := record.decode

def toDoc (n : NamedArgument) : Doc :=
  .ofFields [("name", .string n.name), ("value", n.value.toDoc)]

end NamedArgument

namespace Annotation

def record : Record Annotation where
  name := "Annotation"
  fields := ["kind", "type_args", "args", "named"]
  read source := Annotation.mk <$> source.required "kind" Decode.text
    <*> source.optional "type_args" (Decode.list TypeExpr.ofDoc) []
    <*> source.optional "args" (Decode.list Argument.ofDoc) []
    <*> source.optional "named" (Decode.list NamedArgument.ofDoc) []

def ofDoc : Decoder Annotation := record.decode

def toDoc (a : Annotation) : Doc :=
  .ofFields (("kind", .string a.kind) :: listField "type_args" TypeExpr.toDoc a.typeArgs
    ++ listField "args" Argument.toDoc a.args ++ listField "named" NamedArgument.toDoc a.named)

end Annotation

namespace Parameter

def record : Record Parameter where
  name := "Parameter"
  fields := ["name", "type"]
  read source := Parameter.mk <$> source.required "name" Decode.text
    <*> source.required "type" TypeExpr.ofDoc

def ofDoc : Decoder Parameter := record.decode

def toDoc (p : Parameter) : Doc := .ofFields [("name", .string p.name), ("type", p.type.toDoc)]

end Parameter

def MemberKind.ofDoc : Decoder MemberKind :=
  Decode.oneOf [("method", .method), ("property", .property)]

def MemberKind.text : MemberKind → String
  | .method => "method"
  | .property => "property"

namespace Member

def record : Record Member where
  name := "Member"
  fields := ["kind", "name", "type", "parameters", "annotations", "initializer", "synthetic"]
  read source := Member.mk <$> source.required "kind" MemberKind.ofDoc
    <*> source.required "name" Decode.text
    <*> source.required "type" TypeExpr.ofDoc
    <*> source.optional "parameters" (Decode.list Parameter.ofDoc) []
    <*> source.optional "annotations" (Decode.list Annotation.ofDoc) []
    <*> source.optional "initializer" (Decode.nullable Decode.text) none
    <*> source.optional "synthetic" Decode.boolean false

def ofDoc : Decoder Member := record.decode

def toDoc (m : Member) : Doc :=
  .ofFields ([("kind", .string m.kind.text), ("name", .string m.name), ("type", m.type.toDoc)]
    ++ listField "parameters" Parameter.toDoc m.parameters
    ++ listField "annotations" Annotation.toDoc m.annotations
    ++ textField "initializer" m.initializer?
    ++ (if m.synthetic then [("synthetic", .bool true)] else []))

end Member

def DeclarationKind.ofDoc : Decoder DeclarationKind :=
  Decode.oneOf [("class", .classDecl), ("interface", .interfaceDecl)]

namespace Declaration

def record : Record Declaration where
  name := "Declaration"
  fields := ["identity", "kind", "namespace", "partial", "base_type", "interfaces", "annotations",
    "members"]
  read source := Declaration.mk <$> source.required "identity" Decode.text
    <*> source.required "kind" DeclarationKind.ofDoc
    <*> source.required "namespace" Decode.text
    <*> source.optional "partial" Decode.boolean false
    <*> source.optional "base_type" (Decode.nullable Decode.text) none
    <*> source.optional "interfaces" (Decode.list TypeExpr.ofDoc) []
    <*> source.optional "annotations" (Decode.list Annotation.ofDoc) []
    <*> source.optional "members" (Decode.list Member.ofDoc) []

def ofDoc : Decoder Declaration := record.decode

/-- The partial flag is always written, other fields only where they are not at their default. -/
def toDoc (d : Declaration) : Doc :=
  .ofFields ([("identity", .string d.identity), ("kind", .string d.kind.text),
      ("namespace", .string d.namespaceName), ("partial", .bool d.isPartial)]
    ++ textField "base_type" d.baseType?
    ++ listField "interfaces" TypeExpr.toDoc d.interfaces
    ++ listField "annotations" Annotation.toDoc d.annotations
    ++ listField "members" Member.toDoc d.members)

end Declaration

/-- A graph document: the list of its declarations. -/
def graphRecord : Record (List Declaration) where
  name := "GraphDocument"
  fields := ["declarations"]
  read source := source.optional "declarations" (Decode.list Declaration.ofDoc) []

namespace GraphDocument

def ofDoc : Decoder (List Declaration) := graphRecord.decode

def toDoc (ds : List Declaration) : Doc :=
  .ofFields [("declarations", .array (ds.map Declaration.toDoc))]

end GraphDocument

end EndpointGen
