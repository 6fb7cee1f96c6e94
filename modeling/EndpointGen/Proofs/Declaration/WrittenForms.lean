/- The forms of a graph document. Each declaration, member, parameter, annotation and named argument of a graph
   can be written as an object or as an array, with its defaults or without them, whatever the others are
   written as, and the graph is read as the same set of declarations. -/
import EndpointGen.Files.Load
import EndpointGen.Proofs.Declaration.RoundTrip
import EndpointGen.Proofs.Document.Forms

namespace EndpointGen

namespace TypeExpr

/-- The documents of a type. The fields of a container stand in any order and among any others. -/
inductive HasForm : TypeExpr → Doc → Prop
  | primitive (name : String) : HasForm (.primitive name) (.tagged "primitive" (.string name))
  | named (name : String) : HasForm (.named name) (.tagged "named" (.string name))
  | nullable {t : TypeExpr} {d : Doc} (h : HasForm t d) : HasForm (.nullable t) (.tagged "nullable" d)
  | container {name : String} {args : List TypeExpr} {fields : List (String × Doc)} {ds : List Doc}
      (hdistinct : (fields.map (·.1)).Nodup) (hname : fields.lookup "name" = some (.string name))
      (hargs : fields.lookup "args" = some (.array ds)) (h : List.Forall₂ HasForm args ds) :
      HasForm (.container name args) (.tagged "container" (.object fields))

section Container

variable {fields : List (String × Doc)} {name? : Option String} {args? : Option (List TypeExpr)}

theorem containerOfFields_name (s : String) :
    containerOfFields (("name", .string s) :: fields) name? args? =
      containerOfFields fields (some s) args? := rfl

theorem containerOfFields_args {ds : List Doc} {ts : List TypeExpr} (h : ofDocs ds = .ok ts) :
    containerOfFields (("args", .array ds) :: fields) name? args? =
      containerOfFields fields name? (some ts) := by
  have hne : "args" ≠ "name" := by decide
  rw [containerOfFields.eq_def]
  simp only [if_neg hne, if_true, h]

theorem containerOfFields_unknown {field : String} (hname : field ≠ "name") (hargs : field ≠ "args")
    (d : Doc) : containerOfFields ((field, d) :: fields) name? args? =
      containerOfFields fields name? args? := by
  rw [containerOfFields.eq_def]
  simp only [if_neg hname, if_neg hargs]

/-- The name and the arguments stand in the fields that are left, or were met before these. -/
theorem containerOfFields_eq {name : String} {args : List TypeExpr}
    (hdistinct : (fields.map (·.1)).Nodup)
    (hname : fields.lookup "name" = some (.string name) ∨
      fields.lookup "name" = none ∧ name? = some name)
    (hargs : (∃ ds, fields.lookup "args" = some (.array ds) ∧ ofDocs ds = .ok args) ∨
      fields.lookup "args" = none ∧ args? = some args) :
    containerOfFields fields name? args? = .ok (.container name args) := by
  induction fields generalizing name? args? with
  | nil =>
      obtain rfl : name? = some name := by simpa using hname
      obtain rfl : args? = some args := by simpa using hargs
      rfl
  | cons f fields ih =>
      obtain ⟨field, d⟩ := f
      obtain ⟨hnew, hrest⟩ := List.nodup_cons.mp hdistinct
      -- What is met now does not come again, which is the second way to have a name or arguments.
      have hmissing : fields.lookup field = none := lookup_of_not_mem hnew
      by_cases hfirst : field = "name"
      · subst hfirst
        obtain rfl : d = .string name := by simpa using hname
        have hother : ("args" == "name") = false := by decide
        rw [List.lookup_cons, hother] at hargs
        rw [containerOfFields_name]
        exact ih hrest (.inr ⟨hmissing, rfl⟩) hargs
      · rw [List.lookup_cons, beq_false_of_ne (Ne.symm hfirst)] at hname
        by_cases hsecond : field = "args"
        · subst hsecond
          obtain ⟨ds, rfl, hds⟩ : ∃ ds, d = .array ds ∧ ofDocs ds = .ok args := by simpa using hargs
          rw [containerOfFields_args hds]
          exact ih hrest hname (.inr ⟨hmissing, rfl⟩)
        · rw [List.lookup_cons, beq_false_of_ne (Ne.symm hsecond)] at hargs
          rw [containerOfFields_unknown hfirst hsecond]
          exact ih hrest hname hargs

end Container

theorem formed : Formed ofDoc toDoc HasForm := by
  constructor
  · intro t d h
    induction h using HasForm.rec (motive_2 := fun ts ds _ => ofDocs ds = .ok ts) with
    | primitive name => rfl
    | named name => rfl
    | nullable h ih =>
        rw [ofDoc_nullable, ih]
        rfl
    | container hdistinct hname hargs h ih =>
        rw [ofDoc_container]
        exact containerOfFields_eq hdistinct (.inl hname) (.inl ⟨_, hargs, ih⟩)
    | nil => rfl
    | cons h hs ih ihs => simp [ofDocs, ih, ihs]
  · intro t
    induction t using TypeExpr.rec (motive_2 := fun ts => List.Forall₂ HasForm ts (toDocs ts)) with
    | primitive name => exact .primitive name
    | named name => exact .named name
    | nullable t ih => exact .nullable ih
    | container name args ih =>
        rw [toDoc, Doc.ofFields, orderFields_container]
        refine .container ?_ rfl rfl ih
        simp
    | nil => exact .nil
    | cons t ts iht ihts => exact .cons iht ihts

end TypeExpr

namespace Argument

/-- The documents of an argument: there is a choice only in the types that it mentions. -/
inductive HasForm : Argument → Doc → Prop
  | null : HasForm .null (.string "null")
  | string (s : String) : HasForm (.string s) (.tagged "string" (.string s))
  | bool (b : Bool) : HasForm (.bool b) (.tagged "bool" (.bool b))
  | char (c : Char) : HasForm (.char c) (.tagged "char" (.string (String.ofList [c])))
  | primitive (text : String) : HasForm (.primitive text) (.tagged "primitive" (.string text))
  | type {t : TypeExpr} {d : Doc} (h : t.HasForm d) : HasForm (.type t) (.tagged "type" d)
  | enum (text : String) : HasForm (.enum text) (.tagged "enum" (.string text))
  | array {xs : List Argument} {ds : List Doc} (h : List.Forall₂ HasForm xs ds) :
      HasForm (.array xs) (.tagged "array" (.array ds))

theorem formed : Formed ofDoc toDoc HasForm := by
  constructor
  · intro x d h
    induction h using HasForm.rec (motive_2 := fun xs ds _ => ofDocs ds = .ok xs) with
    | type h => simp [Doc.tagged, ofDoc, TypeExpr.formed.reads _ _ h, Except.map]
    | char c => exact ofDoc_toDoc (.char c)
    | array h ih => simp [Doc.tagged, ofDoc, ih, Except.map]
    | nil => rfl
    | cons h hs ih ihs => simp [ofDocs, ih, ihs]
    | _ => rfl
  · intro x
    induction x using Argument.rec (motive_2 := fun xs => List.Forall₂ HasForm xs (toDocs xs)) with
    | null => exact .null
    | string s => exact .string s
    | bool b => exact .bool b
    | char c => exact .char c
    | primitive text => exact .primitive text
    | type t => exact .type (TypeExpr.formed.written t)
    | enum text => exact .enum text
    | array xs ih => exact .array ih
    | nil => exact .nil
    | cons x xs ihx ihxs => exact .cons ihx ihxs

end Argument

open FieldForms

theorem formed_string : Formed Decode.text .string fun s d => d = .string s := .exactly text_string

namespace NamedArgument

def forms (n : NamedArgument) : List FieldForms :=
  [.required "name" (· = .string n.name), .required "value" n.value.HasForm]

def HasForm (n : NamedArgument) : Doc → Prop := IsRecordOf n.forms

theorem formed : Formed ofDoc toDoc HasForm := by
  apply Record.formed consists (by decide) fun _ => rfl
  intro n
  exact .cons (fits_required formed_string n.name) <|
    .cons (fits_required Argument.formed n.value) .nil

end NamedArgument

namespace Annotation

def forms (a : Annotation) : List FieldForms :=
  [.required "kind" (· = .string a.kind), .list "type_args" TypeExpr.HasForm a.typeArgs,
    .list "args" Argument.HasForm a.args, .list "named" NamedArgument.HasForm a.named]

def HasForm (a : Annotation) : Doc → Prop := IsRecordOf a.forms

theorem formed : Formed ofDoc toDoc HasForm := by
  apply Record.formed consists (by decide) toDoc_eq
  intro a
  exact .cons (fits_required formed_string a.kind) <|
    .cons (fits_list TypeExpr.formed a.typeArgs) <| .cons (fits_list Argument.formed a.args) <|
    .cons (fits_list NamedArgument.formed a.named) .nil

end Annotation

namespace Parameter

def forms (p : Parameter) : List FieldForms :=
  [.required "name" (· = .string p.name), .required "type" p.type.HasForm]

def HasForm (p : Parameter) : Doc → Prop := IsRecordOf p.forms

theorem formed : Formed ofDoc toDoc HasForm := by
  apply Record.formed consists (by decide) fun _ => rfl
  intro p
  exact .cons (fits_required formed_string p.name) <|
    .cons (fits_required TypeExpr.formed p.type) .nil

end Parameter

namespace Member

def forms (m : Member) : List FieldForms :=
  [.required "kind" (· = .string m.kind.text), .required "name" (· = .string m.name),
    .required "type" m.type.HasForm, .list "parameters" Parameter.HasForm m.parameters,
    .list "annotations" Annotation.HasForm m.annotations, .text "initializer" m.initializer?,
    .flag "synthetic" m.synthetic]

def HasForm (m : Member) : Doc → Prop := IsRecordOf m.forms

theorem formed : Formed ofDoc toDoc HasForm := by
  apply Record.formed consists (by decide) toDoc_eq
  intro m
  exact .cons (fits_required (.exactly MemberKind.ofDoc_text) m.kind) <|
    .cons (fits_required formed_string m.name) <| .cons (fits_required TypeExpr.formed m.type) <|
    .cons (fits_list Parameter.formed m.parameters) <|
    .cons (fits_list Annotation.formed m.annotations) <| .cons (fits_text m.initializer?) <|
    .cons (fits_flag m.synthetic) .nil

end Member

namespace Declaration

def forms (d : Declaration) : List FieldForms :=
  [.required "identity" (· = .string d.identity), .required "kind" (· = .string d.kind.text),
    .required "namespace" (· = .string d.namespaceName), .flag "partial" d.isPartial,
    .text "base_type" d.baseType?, .list "interfaces" TypeExpr.HasForm d.interfaces,
    .list "annotations" Annotation.HasForm d.annotations, .list "members" Member.HasForm d.members]

def HasForm (d : Declaration) : Doc → Prop := IsRecordOf d.forms

theorem formed : Formed ofDoc toDoc HasForm := by
  apply Record.formed consists (by decide) toDoc_eq
  intro d
  exact .cons (fits_required formed_string d.identity) <|
    .cons (fits_required (.exactly DeclarationKind.ofDoc_text) d.kind) <|
    .cons (fits_required formed_string d.namespaceName) <|
    .cons (fits_kept formed_bool false d.isPartial) <| .cons (fits_text d.baseType?) <|
    .cons (fits_list TypeExpr.formed d.interfaces) <|
    .cons (fits_list Annotation.formed d.annotations) <|
    .cons (fits_list Member.formed d.members) .nil

end Declaration

namespace GraphDocument

def forms (ds : List Declaration) : List FieldForms :=
  [.list "declarations" Declaration.HasForm ds]

def HasForm (ds : List Declaration) : Doc → Prop := IsRecordOf (forms ds)

theorem formed : Formed ofDoc toDoc HasForm := by
  apply Record.formed consists (by decide) fun _ => rfl
  intro ds
  exact .cons (fits_kept Declaration.formed.list [] ds) .nil

end GraphDocument

namespace DeclarationSet

/-- All forms of a graph are read as the same set of its declarations, whether they are given as documents or
    are the documents that texts hold; the document that the set is written to is one of them. -/
theorem forms_read_alike (ds : List Declaration) :
    GraphDocument.HasForm ds (ofList ds).toDoc ∧
    ∀ d, GraphDocument.HasForm ds d → ofDoc d = .ok (ofList ds) ∧
      ∀ (format : GraphFormat) (text : String), format.parse text = .ok d →
        parse format text = .ok (ofList ds) := by
  refine ⟨GraphDocument.formed.written ds, ?_⟩
  intro d hd
  have hread : GraphDocument.ofDoc d = .ok ds := GraphDocument.formed.reads ds d hd
  constructor
  · rw [ofDoc, hread]
    rfl
  · intro format text htext
    rw [parse, htext]
    simp [decoding, hread, bind, Except.bind]

/-- A method that is written as an object with further names, some defaults and arrays in it. -/
def findMember : Member :=
  { Member.bare .method "Find" (.container "Map" [.named "Acme.Key"]) with
    parameters := [⟨"id", .primitive "int"⟩]
    annotations := [⟨"Get", [], [], [⟨"MethodName", .string "Lookup"⟩]⟩] }

def findDoc : Doc :=
  .object
    [("type", .tagged "container" (.object [("name", .string "Map"), ("arity", .int 1),
        ("args", .array [.tagged "named" (.string "Acme.Key")])])),
      ("synthetic", .bool false), ("name", .string "Find"), ("since", .int 2),
      ("kind", .string "method"),
      ("parameters", .array [.array [.string "id", .tagged "primitive" (.string "int")]]),
      ("annotations", .array [.object
        [("named", .array [.array [.string "MethodName", .tagged "string" (.string "Lookup")]]),
          ("kind", .string "Get")]])]

def mixedDeclarations : List Declaration :=
  [{ Declaration.bare .interfaceDecl "Acme.IUsers" "Acme" with
      annotations := [.bare "HttpFacade"]
      members := [findMember] },
    .bare .classDecl "Acme.User" "Acme"]

def mixedDoc : Doc :=
  .array [.array
    [.array [.string "Acme.IUsers", .string "interface", .string "Acme", .bool false, .null, .array [],
        .array [.array [.string "HttpFacade"]], .array [findDoc]],
      .object [("kind", .string "class"), ("base_type", .null), ("namespace", .string "Acme"),
        ("identity", .string "Acme.User")]]]

theorem hasForm_findDoc : findMember.HasForm findDoc := by
  have hget : (⟨"Get", [], [], [⟨"MethodName", .string "Lookup"⟩]⟩ : Annotation).HasForm (.object
      [("named", .array [.array [.string "MethodName", .tagged "string" (.string "Lookup")]]),
        ("kind", .string "Get")]) := by
    refine .object ⟨by decide, ?_⟩
    simp only [List.forall_mem_cons, Annotation.forms]
    refine ⟨rfl, rfl, rfl, .items (.cons ?_ .nil), List.forall_mem_nil _⟩
    exact .array (.item rfl (.item (.string "Lookup") (.omitted (List.forall_mem_nil _))))
  refine .object ⟨by decide, ?_⟩
  simp only [List.forall_mem_cons, Member.forms]
  refine ⟨rfl, rfl, ?_, .items (.cons ?_ .nil), .items (.cons hget .nil), rfl, rfl,
    List.forall_mem_nil _⟩
  · exact .container (by decide) rfl rfl (.cons (.named "Acme.Key") .nil)
  · exact .array (.item rfl (.item (.primitive "int") (.omitted (List.forall_mem_nil _))))

theorem mixed_forms_read :
    GraphDocument.HasForm mixedDeclarations mixedDoc ∧
      ofDoc mixedDoc = .ok (ofList mixedDeclarations) := by
  have hform : GraphDocument.HasForm mixedDeclarations mixedDoc := by
    refine .array (.item (.items (.cons ?_ (.cons ?_ .nil))) (.omitted (List.forall_mem_nil _)))
    · refine .array (.item rfl (.item rfl (.item rfl (.item rfl (.item rfl (.item (.items .nil)
        (.item (.items (.cons ?_ .nil)) (.item (.items (.cons hasForm_findDoc .nil))
          (.omitted (List.forall_mem_nil _))))))))))
      refine .array (.item rfl (.omitted ?_))
      simp only [List.forall_mem_cons]
      exact ⟨rfl, rfl, rfl, List.forall_mem_nil _⟩
    · refine .object ⟨by decide, ?_⟩
      simp only [List.forall_mem_cons, Declaration.forms]
      exact ⟨rfl, rfl, rfl, rfl, rfl, rfl, rfl, rfl, List.forall_mem_nil _⟩
  obtain ⟨-, hforms⟩ := forms_read_alike mixedDeclarations
  exact ⟨hform, (hforms mixedDoc hform).1⟩

end DeclarationSet

end EndpointGen
