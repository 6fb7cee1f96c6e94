/- The names that an action declares: distinct where those of the method are, unless a parameter that the
   route binds has the name of the body parameter, which then takes the place of the record in the call. -/
import EndpointGen.Proofs.Facade.Wiring

namespace EndpointGen

namespace Operation

def declaredNames (op : Operation) : List String := op.declaredParameters.map (·.name)

/-- On a verb with a body the route binds a parameter named as the body parameter, and there is a record
    for that one to carry. -/
structure NamesClash (op : Operation) (ps : List Parameter) : Prop where
  body : op.verb.isGet = false
  bound : ∃ p ∈ ps, p.name = envelopeParameter ∧ p.name ∈ op.route.names
  free : ∃ p ∈ ps, p.name ∉ op.route.names

/-- What an action declares for the parameters that its route binds. -/
def boundNames (op : Operation) (ps : List Parameter) : List String :=
  (ps.filter fun p => p.name ∈ op.route.names).map (·.name)

theorem mem_boundNames {op : Operation} {ps : List Parameter} {name : String} :
    name ∈ op.boundNames ps ↔ ∃ p ∈ ps, p.name = name ∧ p.name ∈ op.route.names := by
  simp only [boundNames, List.mem_map, List.mem_filter, decide_eq_true_eq]
  grind

namespace TakesParameters

variable {V : Type} {op : Operation} {ps : List Parameter} {values : List V} {p : BoundParameter}

theorem declaredNames_of_get (h : op.TakesParameters ps) (hget : op.verb.isGet = true) :
    op.declaredNames = ps.map (·.name) := by
  unfold declaredNames declaredParameters
  rw [if_pos hget, h.parameters, Route.bind_eq, List.map_map, List.map_map]
  rfl

theorem boundNames_eq (h : op.TakesParameters ps) :
    (op.parameters.filter (·.isRouteBound)).map (·.name) = op.boundNames ps := by
  rw [h.parameters, Route.filter_bind_bound, List.map_map]
  rfl

theorem declaredNames_of_body (h : op.TakesParameters ps) (hbody : op.verb.isGet = false) :
    op.declaredNames = op.boundNames ps ++ op.envelope?.toList.map fun _ => envelopeParameter := by
  unfold declaredNames declaredParameters
  rw [hbody, if_neg Bool.false_ne_true, List.map_append, ← h.boundNames_eq, List.map_map,
    List.map_map]
  rfl

/-- Names repeat only in a clash, and then it is the name of the body parameter that is there twice. -/
theorem declaredNames_cases (h : op.TakesParameters ps) (hdistinct : (ps.map (·.name)).Nodup) :
    (op.declaredNames.Nodup ∧ ¬ op.NamesClash ps) ∨
      op.NamesClash ps ∧ ∃ bound, op.declaredNames = bound ++ [envelopeParameter] ∧
        bound.Nodup ∧ envelopeParameter ∈ bound := by
  cases hget : op.verb.isGet with
  | true =>
      left
      rw [h.declaredNames_of_get hget]
      refine ⟨hdistinct, fun hclash => ?_⟩
      simp [hclash.body] at hget
  | false =>
      have hbound : (op.boundNames ps).Nodup := hdistinct.sublist (List.filter_sublist.map _)
      have henvelope := h.envelope_isSome_iff hget
      rw [h.declaredNames_of_body hget]
      cases he : op.envelope? with
      | none =>
          left
          refine ⟨by simpa using hbound, fun hclash => ?_⟩
          have hsome := henvelope.mpr hclash.free
          simp [he] at hsome
      | some e =>
          have hfree := henvelope.mp (by simp [he])
          by_cases hmem : envelopeParameter ∈ op.boundNames ps
          · right
            exact ⟨⟨hget, mem_boundNames.mp hmem, hfree⟩, op.boundNames ps, rfl, hbound, hmem⟩
          · left
            refine ⟨?_, fun hclash => hmem (mem_boundNames.mpr hclash.bound)⟩
            refine List.nodup_append.mpr ⟨hbound, List.nodup_singleton _, ?_⟩
            intro name hname other hother heq
            have hother : other = envelopeParameter := List.mem_singleton.mp hother
            rw [heq, hother] at hname
            exact hmem hname

/-- The first of two parameters of one name is found, and that one is no record. -/
theorem lookup_of_clash (h : op.TakesParameters ps) (hclash : op.NamesClash ps)
    (hlength : values.length = op.parameters.length) :
    ∃ v, (op.environment values).lookup envelopeParameter = some (.value v) := by
  have hmem : envelopeParameter ∈
      (((op.parameters.zip values).filter fun pv => pv.1.isRouteBound).map (·.1)).map (·.name) := by
    rw [← filter_parameters hlength, h.boundNames_eq]
    exact mem_boundNames.mpr hclash.bound
  rw [environment_of_body hlength hclash.body, List.lookup_append]
  generalize (op.parameters.zip values).filter (fun pv => pv.1.isRouteBound) = bound at hmem ⊢
  induction bound with
  | nil => cases hmem
  | cons pv bound ih =>
      by_cases hname : envelopeParameter = pv.1.name
      · refine ⟨pv.2, ?_⟩
        rw [List.map_cons, ← hname, List.lookup_cons_self, Option.some_or]
      · obtain ⟨v, hv⟩ := ih (by simpa [hname] using hmem)
        refine ⟨v, ?_⟩
        rw [List.map_cons, List.lookup_cons, beq_false_of_ne hname]
        exact hv

/-- In a clash the field of the record is looked for in the value of another parameter. -/
theorem evaluate_of_clash (h : op.TakesParameters ps) (hclash : op.NamesClash ps)
    (hlength : values.length = op.parameters.length) (hp : p ∈ op.parameters)
    (hfree : p.isRouteBound = false) :
    Given.evaluate (op.environment values) (op.callArgument p) = none := by
  obtain ⟨e, he⟩ := h.envelope_of_free hclash.body hp hfree
  obtain ⟨v, hv⟩ := h.lookup_of_clash hclash hlength
  rw [h.callArgument_free he hp hfree, Given.evaluate_dotted (by decide), hv]
  rfl

end TakesParameters

/-- The action declares distinct names exactly where they do not clash. In a clash the name of the body
    parameter is declared twice and no other name is, and the call finds no record to take the free
    parameters from. -/
theorem declared_names_distinct_iff {g : DeclarationGraph} {config : Config} {owner : Declaration}
    {m : Member} {op : Operation} (h : (resolve g config owner m).value? = some op)
    (hdistinct : (m.parameters.map (·.name)).Nodup) :
    op.actionParameters = op.declaredParameters.map ActionParameter.text ∧
      (op.declaredNames.Nodup ↔ ¬ op.NamesClash m.parameters) ∧
      (op.NamesClash m.parameters →
        op.declaredNames.count envelopeParameter = 2 ∧
          (∀ name, name ≠ envelopeParameter → op.declaredNames.count name ≤ 1) ∧
          ∀ {V : Type} (values : List V), values.length = m.parameters.length →
            ∀ p ∈ op.parameters, p.isRouteBound = false →
              Given.evaluate (op.environment values) (op.callArgument p) = none) := by
  have htakes := takesParameters_of_resolve h
  refine ⟨op.actionParameters_eq, ?_, ?_⟩
  · rcases htakes.declaredNames_cases hdistinct with ⟨hnodup, hnone⟩ | ⟨hclash, bound, hnames, -, hmem⟩
    · exact iff_of_true hnodup hnone
    · refine iff_of_false (fun hnodup => ?_) (not_not_intro hclash)
      rw [hnames] at hnodup
      exact (List.nodup_append.mp hnodup).2.2 _ hmem _ List.mem_cons_self rfl
  · intro hclash
    rcases htakes.declaredNames_cases hdistinct with ⟨-, hnone⟩ | ⟨-, bound, hnames, hbound, hmem⟩
    · exact absurd hclash hnone
    · refine ⟨?_, ?_, ?_⟩
      · rw [hnames, List.count_append, List.count_eq_one_of_mem hbound hmem]
        rfl
      · intro name hname
        rw [hnames, List.count_append, List.count_singleton, beq_false_of_ne hname.symm]
        exact List.nodup_iff_count_le_one.mp hbound name
      · intro V values hlength p hp hfree
        apply htakes.evaluate_of_clash hclash _ hp hfree
        rw [hlength, htakes.parameters, Route.bind_eq, List.length_map]

def sendMarker : Annotation := ⟨"Post", [], [.string "\x7brequest\x7d"], []⟩

/-- A method whose bound parameter is named as the body parameter of its action. -/
def sendMember : Member :=
  { Member.bare .method "Send" (.primitive "void") with
    parameters := [⟨"request", .primitive "int"⟩, ⟨"text", .primitive "string"⟩]
    annotations := [sendMarker] }

def sendOperation : Operation := ofMarked (.ofList []) .default sendMember .post sendMarker

theorem send_names_clash :
    sendOperation.NamesClash sendMember.parameters ∧ ¬ sendOperation.declaredNames.Nodup := by
  have hresolve : (resolve (.ofList []) .default (.bare .interfaceDecl "Acme.IMail" "Acme")
      sendMember).value? = some sendOperation := by rfl
  have hclash : sendOperation.NamesClash sendMember.parameters :=
    ⟨rfl, by decide, by decide⟩
  obtain ⟨-, hnodup, -⟩ := declared_names_distinct_iff hresolve (by decide)
  exact ⟨hclash, fun h => hnodup.mp h hclash⟩

theorem send_declares_request_twice :
    (sendMember.parameters.map (·.name)).Nodup ∧
      (resolve (.ofList []) .default (.bare .interfaceDecl "Acme.IMail" "Acme") sendMember).value? =
        some sendOperation ∧
      sendOperation.actionParameters = ["[FromRoute] int request", "[FromBody] SendRequest request"] ∧
      sendOperation.callArguments = ["request", "request.Text"] ∧
      ¬ sendOperation.declaredNames.Nodup := by
  refine ⟨by decide, rfl, rfl, rfl, by decide⟩

end Operation

end EndpointGen
