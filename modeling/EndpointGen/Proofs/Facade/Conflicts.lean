/- Conflicts within a facade: one warning for each field or record whose name an earlier one has, and none of
   them keeps an operation, a record or a field back. -/
import Mathlib.Algebra.Order.Ring.Nat
import Mathlib.Data.Finset.Card
import EndpointGen.Proofs.Facade.Endpoints
import EndpointGen.Proofs.Facade.Parameters

namespace EndpointGen

open Text

/-- The names that were seen before or stand earlier in the list, each time that they come again. -/
def repeats (seen : List String) : List String → List String
  | [] => []
  | n :: ns => if n ∈ seen then n :: repeats seen ns else repeats (n :: seen) ns

section Repeats

variable {seen ns : List String}

/-- Each new name is passed over once, and every other one is repeated. -/
theorem length_repeats (seen ns : List String) :
    (repeats seen ns).length + (ns.toFinset \ seen.toFinset).card = ns.length := by
  induction ns generalizing seen with
  | nil => simp [repeats]
  | cons n ns ih =>
      by_cases hn : n ∈ seen
      · have hsame : (n :: ns).toFinset \ seen.toFinset = ns.toFinset \ seen.toFinset := by
          rw [List.toFinset_cons, Finset.insert_sdiff_of_mem _ (List.mem_toFinset.mpr hn)]
        have hrest := ih seen
        rw [repeats, if_pos hn, hsame, List.length_cons, List.length_cons]
        omega
      · have hnew : (n :: ns).toFinset \ seen.toFinset =
            insert n (ns.toFinset \ (n :: seen).toFinset) := by
          ext x
          simp only [List.toFinset_cons, Finset.mem_sdiff, Finset.mem_insert, List.mem_toFinset]
          grind
        have hrest := ih (n :: seen)
        rw [repeats, if_neg hn, hnew, Finset.card_insert_of_notMem (by simp), List.length_cons]
        omega

theorem length_repeats_nil (ns : List String) :
    (repeats [] ns).length = ns.length - ns.toFinset.card := by
  have h := length_repeats [] ns
  rw [List.toFinset_nil, Finset.sdiff_empty] at h
  omega

theorem repeats_eq_nil_iff : repeats [] ns = [] ↔ ns.Nodup := by
  have h := length_repeats [] ns
  rw [List.toFinset_nil, Finset.sdiff_empty] at h
  rw [← List.length_eq_zero_iff, ← Multiset.coe_nodup, ← Multiset.toFinset_card_eq_card_iff_nodup]
  change _ ↔ ns.toFinset.card = ns.length
  omega

/-- An element of a list stands at its front, with nothing before it, or further on. -/
theorem exists_split_cons_iff {α : Type} {x y : α} {xs : List α} {P : List α → Prop} :
    (∃ before after, x :: xs = before ++ y :: after ∧ P before) ↔
      x = y ∧ P [] ∨ ∃ before after, xs = before ++ y :: after ∧ P (x :: before) := by
  constructor
  · rintro ⟨before, after, hsplit, hp⟩
    cases before with
    | nil =>
        obtain ⟨rfl, rfl⟩ := List.cons.inj hsplit
        exact .inl ⟨rfl, hp⟩
    | cons z before =>
        obtain ⟨rfl, rfl⟩ := List.cons.inj hsplit
        exact .inr ⟨before, after, rfl, hp⟩
  · rintro (⟨rfl, hp⟩ | ⟨before, after, rfl, hp⟩)
    · exact ⟨[], xs, rfl, hp⟩
    · exact ⟨x :: before, after, rfl, hp⟩

end Repeats

namespace RequestEnvelope

variable {seen : List String} {fs : List EnvelopeField} {f : EnvelopeField}

theorem map_repeatedFields (seen : List String) (fs : List EnvelopeField) :
    (repeatedFields seen fs).map (·.name) = repeats seen (fs.map (·.name)) := by
  induction fs generalizing seen with
  | nil => rfl
  | cons f fs ih =>
      by_cases hf : f.name ∈ seen
      · simp [repeatedFields, repeats, hf, ih]
      · simp [repeatedFields, repeats, hf, ih]

theorem repeatedFields_eq_nil_iff : repeatedFields [] fs = [] ↔ (fs.map (·.name)).Nodup := by
  rw [← repeats_eq_nil_iff, ← map_repeatedFields, List.map_eq_nil_iff]

theorem mem_repeatedFields_iff :
    f ∈ repeatedFields seen fs ↔ ∃ before after, fs = before ++ f :: after ∧
      (f.name ∈ seen ∨ ∃ other ∈ before, other.name = f.name) := by
  induction fs generalizing seen with
  | nil => simp [repeatedFields]
  | cons x fs ih =>
      rw [exists_split_cons_iff]
      by_cases hx : x.name ∈ seen
      · have hstep : repeatedFields seen (x :: fs) = x :: repeatedFields seen fs := by
          simp [repeatedFields, hx]
        rw [hstep, List.mem_cons, ih]
        refine or_congr ⟨?_, fun h => h.1.symm⟩ (exists₂_congr fun before after => ?_)
        · rintro rfl
          exact ⟨rfl, .inl hx⟩
        · refine and_congr_right fun _ => ?_
          simp only [List.mem_cons, exists_eq_or_imp]
          have hseen : x.name = f.name → f.name ∈ seen := fun heq => heq ▸ hx
          tauto
      · have hstep : repeatedFields seen (x :: fs) = repeatedFields (x.name :: seen) fs := by
          simp [repeatedFields, hx]
        rw [hstep, ih, or_iff_right]
        · refine exists₂_congr fun before after => and_congr_right fun _ => ?_
          simp only [List.mem_cons, exists_eq_or_imp, eq_comm (a := f.name) (b := x.name)]
          tauto
        · rintro ⟨rfl, h⟩
          simp [hx] at h

end RequestEnvelope

/-- The name of the record of an operation, where it has one. -/
def Operation.recordName? (op : Operation) : Option String := op.envelope?.map (·.typeName)

namespace Facade

variable {seen : List (String × String)} {ops : List Operation} {op : Operation}
  {e : RequestEnvelope} {first name : String}

/-- The record name of an operation that has a record, with the member that owns it. -/
def recordOwner? (op : Operation) : Option (String × String) :=
  op.envelope?.map fun e => (e.typeName, op.sourceMember)

theorem lookup_remembered {key value : String} (rest : List (String × String)) (name : String)
    (h : seen.lookup key ≠ none) :
    (seen ++ (key, value) :: rest).lookup name = (seen ++ rest).lookup name := by
  rw [List.lookup_append, List.lookup_append]
  by_cases hname : name = key
  · obtain ⟨v, hv⟩ := Option.ne_none_iff_exists'.mp h
    rw [hname, hv, Option.some_or, Option.some_or]
  · rw [List.lookup_cons, beq_false_of_ne hname]

theorem lookup_new {key value : String} (rest : List (String × String)) (name : String)
    (h : seen.lookup key = none) :
    (seen ++ (key, value) :: rest).lookup name = ((key, value) :: seen ++ rest).lookup name := by
  rw [List.cons_append, List.lookup_append, List.lookup_cons, List.lookup_cons, List.lookup_append]
  by_cases hname : name = key
  · simp [hname, h]
  · simp [beq_false_of_ne hname]

/-- The member that is named is the one that the records before lead to, those seen already first. -/
theorem mem_repeatedRecords_iff :
    (op, e, first) ∈ repeatedRecords seen ops ↔ ∃ before after, ops = before ++ op :: after ∧
      op.envelope? = some e ∧ (seen ++ before.filterMap recordOwner?).lookup e.typeName = some first := by
  induction ops generalizing seen with
  | nil => simp [repeatedRecords]
  | cons x ops ih =>
      rw [exists_split_cons_iff]
      cases hx : x.envelope? with
      | none =>
          have hstep : repeatedRecords seen (x :: ops) = repeatedRecords seen ops := by
            simp [repeatedRecords, hx]
          have howner : recordOwner? x = none := by rw [recordOwner?, hx, Option.map_none]
          rw [hstep, ih, or_iff_right]
          · simp only [List.filterMap_cons_none howner]
          · rintro ⟨rfl, he, -⟩
            rw [hx] at he
            cases he
      | some e' =>
          have howner : recordOwner? x = some (e'.typeName, x.sourceMember) := by
            rw [recordOwner?, hx, Option.map_some]
          simp only [List.filterMap_cons_some howner, List.filterMap_nil, List.append_nil]
          cases hseen : seen.lookup e'.typeName with
          | some first' =>
              have hstep : repeatedRecords seen (x :: ops) =
                  (x, e', first') :: repeatedRecords seen ops := by
                simp [repeatedRecords, hx, hseen]
              rw [hstep, List.mem_cons, ih]
              refine or_congr ⟨?_, ?_⟩ ?_
              · rintro ⟨⟩
                exact ⟨rfl, hx, hseen⟩
              · rintro ⟨rfl, he, hfirst⟩
                obtain rfl := Option.some.inj (hx.symm.trans he)
                rw [Option.some.inj (hseen.symm.trans hfirst)]
              · simp only [lookup_remembered _ _ (show seen.lookup e'.typeName ≠ none by simp [hseen])]
          | none =>
              have hstep : repeatedRecords seen (x :: ops) =
                  repeatedRecords ((e'.typeName, x.sourceMember) :: seen) ops := by
                simp [repeatedRecords, hx, hseen]
              rw [hstep, ih, or_iff_right]
              · simp only [lookup_new _ _ hseen]
              · rintro ⟨rfl, he, hfirst⟩
                obtain rfl := Option.some.inj (hx.symm.trans he)
                rw [hseen] at hfirst
                cases hfirst

/-- What a name leads to is the first operation with a record of that name. -/
theorem lookup_recordOwners_iff {before : List Operation} :
    (before.filterMap recordOwner?).lookup name = some first ↔ ∃ front o back,
      before = front ++ o :: back ∧ (o.recordName? = some name ∧ o.sourceMember = first) ∧
      ∀ o' ∈ front, o'.recordName? ≠ some name := by
  have hfind : (before.filterMap recordOwner?).lookup name =
      before.findSome? fun o => if o.recordName? = some name then some o.sourceMember else none := by
    induction before with
    | nil => rfl
    | cons o before ih =>
        cases he : o.envelope? with
        | none => simp [recordOwner?, Operation.recordName?, he, ih]
        | some e =>
            by_cases hname : e.typeName = name
            · simp [recordOwner?, Operation.recordName?, he, hname]
            · simp [recordOwner?, Operation.recordName?, he, hname, List.lookup_cons,
                beq_false_of_ne (Ne.symm hname), ih]
  rw [hfind, List.findSome?_eq_some_iff]
  refine exists₃_congr fun front o back => and_congr_right fun _ => ?_
  simp

theorem mem_map_of_lookup (h : seen.lookup name = some first) : name ∈ seen.map (·.1) := by
  obtain ⟨front, back, rfl, -⟩ := List.lookup_eq_some_iff.mp h
  simp

theorem map_repeatedRecords (seen : List (String × String)) (ops : List Operation) :
    (repeatedRecords seen ops).map (fun r => r.2.1.typeName) =
      repeats (seen.map (·.1)) ((ops.filterMap (·.envelope?)).map (·.typeName)) := by
  induction ops generalizing seen with
  | nil => rfl
  | cons op ops ih =>
      cases he : op.envelope? with
      | none => simp [repeatedRecords, he, ih]
      | some e =>
          cases hseen : seen.lookup e.typeName with
          | some first =>
              have hmem := mem_map_of_lookup hseen
              simp only [repeatedRecords, he, hseen, List.filterMap_cons_some he, List.map_cons, repeats,
                if_pos hmem, ih]
          | none =>
              have hmem : e.typeName ∉ seen.map (·.1) := by
                intro hmem
                obtain ⟨p, hp, hname⟩ := List.mem_map.mp hmem
                have hother := List.lookup_eq_none_iff.mp hseen p hp
                simp [hname] at hother
              simp only [repeatedRecords, he, hseen, List.filterMap_cons_some he, List.map_cons, repeats,
                if_neg hmem, ih]

end Facade

namespace Operation

variable {g : DeclarationGraph} {config : Config} {owner : Declaration} {m : Member} {op : Operation}

theorem withCode_resolve (g : DeclarationGraph) (config : Config) (owner : Declaration) (m : Member) :
    withCode .conflictingRequestEnvelope (resolve g config owner m).diagnostics =
      (resolve g config owner m).value?.toList.flatMap fun op =>
        op.fieldWarnings (owner.identity ++ "." ++ op.sourceMember) := by
  rw [resolve_eq]
  split
  · next verb marker _ =>
      obtain ⟨-, hfields⟩ := withCode_warnings (ofMarked g config m verb marker) owner m
      rw [Resolution.resolved, hfields]
      exact (List.append_nil _).symm
  · rfl

/-- The operation has the record that its method asks for, with a field for each free parameter. -/
structure KeepsRecord (op : Operation) (m : Member) : Prop where
  forwards : op.Forwards m
  envelope : op.envelope?.isSome = true ↔
    op.verb.isGet = false ∧ ∃ p ∈ m.parameters, p.name ∉ op.route.names
  fields : ∀ e, op.envelope? = some e → e.fields =
    (m.parameters.filter fun p => p.name ∉ op.route.names).map fun p =>
      ⟨capitalize p.name, p.name, p.type⟩

theorem keepsRecord_of_resolve (h : (resolve g config owner m).value? = some op)
    (hforwards : op.Forwards m) : op.KeepsRecord m := by
  have htakes := takesParameters_of_resolve h
  refine ⟨hforwards, ?_, fun e he => htakes.fields_eq he⟩
  cases hget : op.verb.isGet with
  | true => simp [htakes.envelope_of_get hget]
  | false => simp [htakes.envelope_isSome_iff hget]

end Operation

namespace Facade

variable {g : DeclarationGraph} {config : Config} {d : Declaration} {f : Facade} {w : Diagnostic}

/-- What a warning about names says: a field has the name of an earlier field of its record, or a record
    the name of an earlier one, the first of which is named. -/
inductive Conflict (f : Facade) : Diagnostic → Prop
  | field (op : Operation) (e : RequestEnvelope) (before after : List EnvelopeField)
      (x other : EnvelopeField) : op ∈ f.operations → op.envelope? = some e →
      e.fields = before ++ x :: after → other ∈ before → other.name = x.name →
      Conflict f (RequestEnvelope.fieldDiagnostic (f.source ++ "." ++ op.sourceMember) e.typeName x)
  | record (front between after : List Operation) (first op : Operation) (e : RequestEnvelope) :
      f.operations = front ++ first :: between ++ op :: after → op.envelope? = some e →
      first.recordName? = some e.typeName → (∀ o ∈ front, o.recordName? ≠ some e.typeName) →
      Conflict f (recordDiagnostic f.source op e first.sourceMember)

def fieldWarnings (f : Facade) : List Diagnostic :=
  f.operations.flatMap fun op => op.fieldWarnings (f.source ++ "." ++ op.sourceMember)

theorem withCode_of_resolve (h : (resolve g config d).value? = some f) :
    withCode .conflictingRequestEnvelope (resolve g config d).diagnostics =
      f.fieldWarnings ++ recordDiagnostics f.source f.operations := by
  rw [diagnostics_of_resolve h, withCode_append, withCode_of_forall fun e he => code_of_mem he,
    withCode_flatMap, fieldWarnings, source_of_resolve h, operations_of_resolve h, operationsOf,
    resolveOperations_eq]
  congr 1
  rw [List.filterMap_eq_flatMap_toList, List.flatMap_assoc, List.flatMap_map, List.flatMap_map]
  refine List.flatMap_congr fun m _ => ?_
  exact Operation.withCode_resolve g config d m

theorem mem_conflicts_iff (h : (resolve g config d).value? = some f) :
    w ∈ withCode .conflictingRequestEnvelope (resolve g config d).diagnostics ↔ f.Conflict w := by
  rw [withCode_of_resolve h, List.mem_append]
  constructor
  · rintro (hw | hw)
    · obtain ⟨op, hop, hw⟩ := List.mem_flatMap.mp hw
      obtain ⟨e, he, hw⟩ := List.mem_flatMap.mp hw
      obtain ⟨x, hx, rfl⟩ := List.mem_map.mp hw
      obtain ⟨before, after, hsplit, hseen⟩ := RequestEnvelope.mem_repeatedFields_iff.mp hx
      obtain ⟨other, hother, hname⟩ := hseen.resolve_left List.not_mem_nil
      exact .field op e before after x other hop (Option.mem_toList.mp he) hsplit hother hname
    · obtain ⟨⟨op, e, member⟩, hr, rfl⟩ := List.mem_map.mp hw
      obtain ⟨before, after, hsplit, he, hfirst⟩ := mem_repeatedRecords_iff.mp hr
      obtain ⟨front, first, between, rfl, ⟨hname, rfl⟩, hfront⟩ := lookup_recordOwners_iff.mp hfirst
      exact .record front between after first op e hsplit he hname hfront
  · rintro (⟨op, e, before, after, x, other, hop, he, hsplit, hother, hname⟩ |
      ⟨front, between, after, first, op, e, hsplit, he, hname, hfront⟩)
    · left
      refine List.mem_flatMap.mpr ⟨op, hop, List.mem_flatMap.mpr ⟨e, by simp [he], ?_⟩⟩
      refine List.mem_map.mpr ⟨x, RequestEnvelope.mem_repeatedFields_iff.mpr ?_, rfl⟩
      exact ⟨before, after, hsplit, .inr ⟨other, hother, hname⟩⟩
    · right
      refine List.mem_map.mpr ⟨(op, e, first.sourceMember), mem_repeatedRecords_iff.mpr ?_, rfl⟩
      refine ⟨front ++ first :: between, after, hsplit, he, ?_⟩
      exact lookup_recordOwners_iff.mpr ⟨front, first, between, rfl, ⟨hname, rfl⟩, hfront⟩

theorem length_repeatedFields (e : RequestEnvelope) :
    (RequestEnvelope.repeatedFields [] e.fields).length =
      e.fields.length - (e.fields.map (·.name)).toFinset.card := by
  have hlength := congrArg List.length (RequestEnvelope.map_repeatedFields [] e.fields)
  rwa [List.length_map, length_repeats_nil, List.length_map] at hlength

theorem length_repeatedRecords (f : Facade) :
    (repeatedRecords [] f.operations).length =
      f.envelopes.length - (f.envelopes.map (·.typeName)).toFinset.card := by
  have hlength := congrArg List.length (map_repeatedRecords [] f.operations)
  rwa [List.length_map, List.map_nil, length_repeats_nil, List.length_map] at hlength

/-- No operation repeats a record where all record names are distinct. -/
theorem repeatedRecords_eq_nil_iff :
    repeatedRecords [] f.operations = [] ↔ (f.envelopes.map (·.typeName)).Nodup := by
  have hrepeats := map_repeatedRecords [] f.operations
  rw [List.map_nil] at hrepeats
  rw [envelopes, ← repeats_eq_nil_iff, ← hrepeats, List.map_eq_nil_iff]

theorem length_fieldWarnings (f : Facade) :
    f.fieldWarnings.length =
      (f.envelopes.map fun e => e.fields.length - (e.fields.map (·.name)).toFinset.card).sum := by
  rw [fieldWarnings, envelopes]
  induction f.operations with
  | nil => rfl
  | cons op ops ih =>
      rw [List.flatMap_cons, List.length_append, ih]
      cases he : op.envelope? with
      | none => simp [Operation.fieldWarnings, he]
      | some e =>
          simp [Operation.fieldWarnings, he, RequestEnvelope.fieldDiagnostics, length_repeatedFields]

/-- The warnings about names are as many as the fields and records that repeat a name, and each of them is
    about one. Without them all names are distinct, and with them nothing is left out: each method with a
    verb marker has its operation, with the record and the fields that it asks for. -/
theorem conflicts_exact (h : (resolve g config d).value? = some f) :
    (withCode .conflictingRequestEnvelope (resolve g config d).diagnostics).length =
        (f.envelopes.map fun e => e.fields.length - (e.fields.map (·.name)).toFinset.card).sum +
          (f.envelopes.length - (f.envelopes.map (·.typeName)).toFinset.card) ∧
      (∀ w, w ∈ withCode .conflictingRequestEnvelope (resolve g config d).diagnostics ↔
        f.Conflict w) ∧
      (withCode .conflictingRequestEnvelope (resolve g config d).diagnostics = [] →
        (f.envelopes.map (·.typeName)).Nodup ∧
          ∀ e ∈ f.envelopes, (e.fields.map (·.name)).Nodup) ∧
      List.Forall₂ Operation.KeepsRecord f.operations (g.endpoints f.source) := by
  refine ⟨?_, fun w => mem_conflicts_iff h, ?_, ?_⟩
  · rw [withCode_of_resolve h, List.length_append, length_fieldWarnings, recordDiagnostics,
      List.length_map, length_repeatedRecords]
  · intro hnone
    rw [withCode_of_resolve h, List.append_eq_nil_iff] at hnone
    obtain ⟨hfields, hrecords⟩ := hnone
    refine ⟨repeatedRecords_eq_nil_iff.mp (List.map_eq_nil_iff.mp hrecords), fun e he => ?_⟩
    obtain ⟨op, hop, he⟩ := List.mem_filterMap.mp he
    have hquiet := List.flatMap_eq_nil_iff.mp hfields op hop
    rw [Operation.fieldWarnings, he, Option.toList_some, List.flatMap_singleton] at hquiet
    exact RequestEnvelope.repeatedFields_eq_nil_iff.mp (List.map_eq_nil_iff.mp hquiet)
  · rw [operations_of_resolve h, source_of_resolve h]
    exact (resolved_operationsOf g config d).imp fun _ _ hop =>
      Operation.keepsRecord_of_resolve hop.1 hop.2

def saveMember (name verb : String) (parameters : List String) : Member :=
  { Member.bare .method name (.primitive "void") with
    parameters := parameters.map fun p => ⟨p, .primitive "string"⟩
    annotations := [.bare verb] }

/-- A facade with two fields and two records of one name; a GET method with such parameters has neither. -/
def savesFacade : Declaration :=
  { Declaration.bare .interfaceDecl "Acme.IUsers" "Acme" with
    annotations := [.bare "HttpFacade"]
    members :=
      [saveMember "Find" "Get" ["text", "Text"], saveMember "Save" "Post" ["name", "Name", "age"],
        saveMember "Save" "Put" ["name"]] }

theorem savesFacade_conflicts :
    ∃ f, (resolve (.ofList [savesFacade]) .default savesFacade).value? = some f ∧
      (withCode .conflictingRequestEnvelope
        (resolve (.ofList [savesFacade]) .default savesFacade).diagnostics).length = 2 ∧
      (∀ w ∈ withCode .conflictingRequestEnvelope
        (resolve (.ofList [savesFacade]) .default savesFacade).diagnostics, f.Conflict w) ∧
      f.operations.length = 3 := by
  obtain ⟨f, hf⟩ : ∃ f, (resolve (.ofList [savesFacade]) .default savesFacade).value? = some f :=
    ⟨_, rfl⟩
  obtain ⟨-, hconflicts, -, hkeeps⟩ := conflicts_exact hf
  refine ⟨f, hf, rfl, fun w hw => (hconflicts w).mp hw, ?_⟩
  rw [hkeeps.length_eq, source_of_resolve hf]
  rfl

end Facade

end EndpointGen
