/- Declaration graphs written as documents and read back. Reading undoes writing, and a field is left out
   exactly where the record is read the same without it, but for two fields that are always written. -/
import EndpointGen.Declaration.Format
import EndpointGen.Proofs.Document.Records
import EndpointGen.Proofs.Graph.Index

namespace EndpointGen

namespace TypeExpr

theorem ofDoc_nullable (d : Doc) : ofDoc (.tagged "nullable" d) = (ofDoc d).map .nullable := by
  cases d <;> rfl

theorem ofDoc_container (fields : List (String × Doc)) :
    ofDoc (.tagged "container" (.object fields)) = containerOfFields fields none none := rfl

/-- The arguments of a container stand before its name when they are read. -/
theorem orderFields_container (name args : Doc) :
    Doc.orderFields [("name", name), ("args", args)] = [("args", args), ("name", name)] := by
  have hbefore : "args" < "name" := by decide
  simp [Doc.orderFields, Doc.putField, hbefore]

theorem ofDoc_toDoc (t : TypeExpr) : ofDoc t.toDoc = .ok t := by
  induction t using TypeExpr.rec (motive_2 := fun ts => ofDocs (toDocs ts) = .ok ts) with
  | primitive name => rfl
  | named name => rfl
  | nullable t ih =>
      rw [toDoc, ofDoc_nullable, ih]
      rfl
  | container name args ih =>
      rw [toDoc, Doc.ofFields, orderFields_container, ofDoc_container]
      simp [containerOfFields, ih, Decode.text]
  | nil => rfl
  | cons t ts iht ihts => simp [toDocs, ofDocs, iht, ihts]

end TypeExpr

namespace Argument

theorem ofDoc_toDoc (x : Argument) : ofDoc x.toDoc = .ok x := by
  induction x using Argument.rec (motive_2 := fun xs => ofDocs (toDocs xs) = .ok xs) with
  | null => rfl
  | string s => rfl
  | bool b => rfl
  | char c => simp [toDoc, Doc.tagged, ofDoc, Decode.character, Except.map]
  | primitive text => rfl
  | type t =>
      simp [toDoc, Doc.tagged, ofDoc, TypeExpr.ofDoc_toDoc, Except.map]
  | enum text => rfl
  | array xs ih =>
      simp [toDoc, Doc.tagged, ofDoc, ih, Except.map]
  | nil => rfl
  | cons x xs ihx ihxs => simp [toDocs, ofDocs, ihx, ihxs]

end Argument

/-- The fields that are written also at their default. -/
def alwaysWritten : List String := ["partial", "declarations"]

namespace RecordField

variable {α : Type} {decode : Decoder α} {toDoc : α → Doc} {name : String}

@[simp] theorem written_nil : written [] = [] := rfl

@[simp] theorem written_required (value : α) (fs : List RecordField) :
    written (required name decode toDoc value :: fs) = (name, toDoc value) :: written fs := rfl

@[simp] theorem written_kept (default value : α) (fs : List RecordField) :
    written (kept name decode default toDoc value :: fs) = (name, toDoc value) :: written fs := rfl

@[simp] theorem written_list (values : List α) (fs : List RecordField) :
    written (list name decode toDoc values :: fs) = listField name toDoc values ++ written fs := by
  cases values <;> rfl

@[simp] theorem written_text (value : Option String) (fs : List RecordField) :
    written (text name value :: fs) = textField name value ++ written fs := by
  cases value <;> rfl

@[simp] theorem written_flag (value : Bool) (fs : List RecordField) :
    written (flag name value :: fs) =
      (if value then [(name, .bool true)] else []) ++ written fs := by
  cases value <;> rfl

end RecordField

theorem text_string (s : String) : Decode.text (.string s) = .ok s := rfl

theorem boolean_bool (b : Bool) : Decode.boolean (.bool b) = .ok b := rfl

namespace NamedArgument

def recordFields (n : NamedArgument) : List RecordField :=
  [.required "name" Decode.text .string n.name,
    .required "value" Argument.ofDoc Argument.toDoc n.value]

theorem consists (n : NamedArgument) : record.Consists n n.recordFields := by
  refine ⟨rfl, rfl, ?_⟩
  intro source
  cases n with
  | mk name value => simp [record, recordFields]

theorem writes (n : NamedArgument) : record.Writes alwaysWritten n n.toDoc := by
  apply n.consists.writes (by decide)
  simp only [recordFields, List.forall_mem_cons]
  exact ⟨RecordField.sound_required text_string n.name,
    RecordField.sound_required Argument.ofDoc_toDoc n.value, List.forall_mem_nil _⟩

theorem ofDoc_toDoc (n : NamedArgument) : ofDoc n.toDoc = .ok n := n.writes.reads

end NamedArgument

namespace Annotation

def recordFields (a : Annotation) : List RecordField :=
  [.required "kind" Decode.text .string a.kind,
    .list "type_args" TypeExpr.ofDoc TypeExpr.toDoc a.typeArgs,
    .list "args" Argument.ofDoc Argument.toDoc a.args,
    .list "named" NamedArgument.ofDoc NamedArgument.toDoc a.named]

theorem consists (a : Annotation) : record.Consists a a.recordFields := by
  refine ⟨rfl, rfl, ?_⟩
  intro source
  cases a with
  | mk kind typeArgs args named => simp [record, recordFields, and_assoc]

theorem toDoc_eq (a : Annotation) : a.toDoc = .ofFields (RecordField.written a.recordFields) := by
  simp [toDoc, recordFields]

theorem writes (a : Annotation) : record.Writes alwaysWritten a a.toDoc := by
  rw [toDoc_eq]
  apply a.consists.writes (by decide)
  simp only [recordFields, List.forall_mem_cons]
  exact ⟨RecordField.sound_required text_string a.kind,
    RecordField.sound_list TypeExpr.ofDoc_toDoc (by decide) a.typeArgs,
    RecordField.sound_list Argument.ofDoc_toDoc (by decide) a.args,
    RecordField.sound_list NamedArgument.ofDoc_toDoc (by decide) a.named, List.forall_mem_nil _⟩

theorem ofDoc_toDoc (a : Annotation) : ofDoc a.toDoc = .ok a := a.writes.reads

end Annotation

namespace Parameter

def recordFields (p : Parameter) : List RecordField :=
  [.required "name" Decode.text .string p.name,
    .required "type" TypeExpr.ofDoc TypeExpr.toDoc p.type]

theorem consists (p : Parameter) : record.Consists p p.recordFields := by
  refine ⟨rfl, rfl, ?_⟩
  intro source
  cases p with
  | mk name type => simp [record, recordFields]

theorem writes (p : Parameter) : record.Writes alwaysWritten p p.toDoc := by
  apply p.consists.writes (by decide)
  simp only [recordFields, List.forall_mem_cons]
  exact ⟨RecordField.sound_required text_string p.name,
    RecordField.sound_required TypeExpr.ofDoc_toDoc p.type, List.forall_mem_nil _⟩

theorem ofDoc_toDoc (p : Parameter) : ofDoc p.toDoc = .ok p := p.writes.reads

end Parameter

theorem MemberKind.ofDoc_text (kind : MemberKind) : ofDoc (.string kind.text) = .ok kind := by
  cases kind <;> rfl

namespace Member

def recordFields (m : Member) : List RecordField :=
  [.required "kind" MemberKind.ofDoc (fun kind => .string kind.text) m.kind,
    .required "name" Decode.text .string m.name,
    .required "type" TypeExpr.ofDoc TypeExpr.toDoc m.type,
    .list "parameters" Parameter.ofDoc Parameter.toDoc m.parameters,
    .list "annotations" Annotation.ofDoc Annotation.toDoc m.annotations,
    .text "initializer" m.initializer?,
    .flag "synthetic" m.synthetic]

theorem consists (m : Member) : record.Consists m m.recordFields := by
  refine ⟨rfl, rfl, ?_⟩
  intro source
  cases m with
  | mk kind name type parameters annotations initializer? synthetic =>
      simp [record, recordFields, and_assoc, -Bool.exists_bool]

theorem toDoc_eq (m : Member) : m.toDoc = .ofFields (RecordField.written m.recordFields) := by
  simp [toDoc, recordFields]

theorem writes (m : Member) : record.Writes alwaysWritten m m.toDoc := by
  rw [toDoc_eq]
  apply m.consists.writes (by decide)
  simp only [recordFields, List.forall_mem_cons]
  exact ⟨RecordField.sound_required MemberKind.ofDoc_text m.kind,
    RecordField.sound_required text_string m.name,
    RecordField.sound_required TypeExpr.ofDoc_toDoc m.type,
    RecordField.sound_list Parameter.ofDoc_toDoc (by decide) m.parameters,
    RecordField.sound_list Annotation.ofDoc_toDoc (by decide) m.annotations,
    RecordField.sound_text (by decide) m.initializer?,
    RecordField.sound_flag (by decide) m.synthetic, List.forall_mem_nil _⟩

theorem ofDoc_toDoc (m : Member) : ofDoc m.toDoc = .ok m := m.writes.reads

end Member

theorem DeclarationKind.ofDoc_text (kind : DeclarationKind) :
    ofDoc (.string kind.text) = .ok kind := by
  cases kind <;> rfl

namespace Declaration

def recordFields (d : Declaration) : List RecordField :=
  [.required "identity" Decode.text .string d.identity,
    .required "kind" DeclarationKind.ofDoc (fun kind => .string kind.text) d.kind,
    .required "namespace" Decode.text .string d.namespaceName,
    .kept "partial" Decode.boolean false .bool d.isPartial,
    .text "base_type" d.baseType?,
    .list "interfaces" TypeExpr.ofDoc TypeExpr.toDoc d.interfaces,
    .list "annotations" Annotation.ofDoc Annotation.toDoc d.annotations,
    .list "members" Member.ofDoc Member.toDoc d.members]

theorem consists (d : Declaration) : record.Consists d d.recordFields := by
  refine ⟨rfl, rfl, ?_⟩
  intro source
  cases d with
  | mk identity kind namespaceName isPartial baseType? interfaces annotations members =>
      simp [record, recordFields, and_assoc, -Bool.exists_bool]

theorem toDoc_eq (d : Declaration) : d.toDoc = .ofFields (RecordField.written d.recordFields) := by
  simp [toDoc, recordFields]

theorem writes (d : Declaration) : record.Writes alwaysWritten d d.toDoc := by
  rw [toDoc_eq]
  apply d.consists.writes (by decide)
  simp only [recordFields, List.forall_mem_cons]
  exact ⟨RecordField.sound_required text_string d.identity,
    RecordField.sound_required DeclarationKind.ofDoc_text d.kind,
    RecordField.sound_required text_string d.namespaceName,
    RecordField.sound_kept boolean_bool (by decide) false d.isPartial,
    RecordField.sound_text (by decide) d.baseType?,
    RecordField.sound_list TypeExpr.ofDoc_toDoc (by decide) d.interfaces,
    RecordField.sound_list Annotation.ofDoc_toDoc (by decide) d.annotations,
    RecordField.sound_list Member.ofDoc_toDoc (by decide) d.members, List.forall_mem_nil _⟩

theorem ofDoc_toDoc (d : Declaration) : ofDoc d.toDoc = .ok d := d.writes.reads

end Declaration

namespace GraphDocument

def recordFields (ds : List Declaration) : List RecordField :=
  [.kept "declarations" (Decode.list Declaration.ofDoc) []
    (fun ds => .array (ds.map Declaration.toDoc)) ds]

theorem consists (ds : List Declaration) : graphRecord.Consists ds (recordFields ds) := by
  refine ⟨rfl, rfl, ?_⟩
  intro source
  simp [graphRecord, recordFields]

theorem writes (ds : List Declaration) : graphRecord.Writes alwaysWritten ds (toDoc ds) := by
  apply (consists ds).writes (by decide)
  simp only [recordFields, List.forall_mem_cons]
  exact ⟨RecordField.sound_kept (RecordField.all_map Declaration.ofDoc_toDoc) (by decide) [] ds,
    List.forall_mem_nil _⟩

theorem ofDoc_toDoc (ds : List Declaration) : ofDoc (toDoc ds) = .ok ds := (writes ds).reads

end GraphDocument

namespace DeclarationSet

def toDoc (s : DeclarationSet) : Doc := GraphDocument.toDoc s.toList

def ofDoc (d : Doc) : Except DecodeError DeclarationSet := (GraphDocument.ofDoc d).map ofList

theorem ofDoc_toDoc (s : DeclarationSet) : ofDoc s.toDoc = .ok (ofList s.toList) := by
  rw [ofDoc, toDoc, GraphDocument.ofDoc_toDoc]
  rfl

/-- A set is read back from the document that it is written to, with its declarations in their order and
    the same answers, and is written again to the same document. Of the fields of a record those are left
    out that it is read the same without, and only `partial` and `declarations` are written nevertheless. -/
theorem read_back {s : DeclarationSet} (hs : s.Built) :
    (∃ s', ofDoc s.toDoc = .ok s' ∧ s'.toList = s.toList ∧
      (∀ identity, s'.find? identity = s.find? identity) ∧ s'.toDoc = s.toDoc) ∧
    graphRecord.Writes alwaysWritten s.toList s.toDoc ∧
    (∀ d : Declaration, Declaration.record.Writes alwaysWritten d d.toDoc) ∧
    (∀ m : Member, Member.record.Writes alwaysWritten m m.toDoc) ∧
    (∀ p : Parameter, Parameter.record.Writes alwaysWritten p p.toDoc) ∧
    (∀ a : Annotation, Annotation.record.Writes alwaysWritten a a.toDoc) ∧
    (∀ n : NamedArgument, NamedArgument.record.Writes alwaysWritten n n.toDoc) := by
  refine ⟨⟨ofList s.toList, s.ofDoc_toDoc, rfl, ?_, rfl⟩, GraphDocument.writes s.toList,
    Declaration.writes, Member.writes, Parameter.writes, Annotation.writes, NamedArgument.writes⟩
  intro identity
  rw [hs.indexed.find?, (Indexed.ofList s.toList).find?]
  rfl

/-- A method with null, a character and an empty list among its arguments, and a type nullable twice. -/
def codedMember : Member :=
  { Member.bare .method "Find" (.nullable (.nullable (.container "Map" [.named "Acme.Key"]))) with
    parameters := [⟨"codes", .container "Codes" []⟩]
    annotations :=
      [⟨"Coded", [.nullable (.primitive "int")], [.null, .char 'x', .array []],
        [⟨"Inner", .array [.null, .array [.type (.named "Acme.Key")]]⟩]⟩] }

def codedDeclaration : Declaration :=
  (Declaration.bare .interfaceDecl "Acme.ICodes" "Acme").addMember codedMember

theorem coded_read_back :
    ((empty.push codedDeclaration).push codedDeclaration.asPartial).Built ∧
      (∃ s', ofDoc ((empty.push codedDeclaration).push codedDeclaration.asPartial).toDoc = .ok s' ∧
        s'.toList = [codedDeclaration, codedDeclaration.asPartial] ∧
        s'.find? "Acme.ICodes" = some codedDeclaration) ∧
      codedDeclaration.toDoc.field? "partial" ≠ none := by
  have hbuilt : ((empty.push codedDeclaration).push codedDeclaration.asPartial).Built :=
    .push _ (.push _ .empty)
  obtain ⟨⟨s', hread, hlist, hfind, -⟩, -, hdeclarations, -⟩ := read_back hbuilt
  refine ⟨hbuilt, ⟨s', hread, hlist, ?_⟩, ?_⟩
  · rw [hfind, hbuilt.indexed.find?]
    rfl
  · intro hnone
    have homitted := ((hdeclarations codedDeclaration).omitted "partial" (by decide)).mp hnone
    exact homitted.1 (by decide)

/-- A graph without declarations is read the same without its list, which is written nevertheless. -/
theorem empty_list_written :
    graphRecord.Spares empty.toList "declarations" ∧
      empty.toDoc.field? "declarations" = some (.array []) ∧
      ¬ graphRecord.Writes ["partial"] empty.toList empty.toDoc := by
  have hspares : graphRecord.Spares empty.toList "declarations" := fun source _ => rfl
  have hwritten : empty.toDoc.field? "declarations" = some (.array []) := rfl
  refine ⟨hspares, hwritten, ?_⟩
  intro hwrites
  have homitted := (hwrites.omitted "declarations" (by decide)).mpr ⟨by decide, hspares⟩
  rw [hwritten] at homitted
  cases homitted

end DeclarationSet

end EndpointGen
