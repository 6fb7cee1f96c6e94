/- The wiring of an action: whatever values a caller gives for the declared parameters of an action, the
   forwarded call receives the value of every source parameter in its own place. -/
import EndpointGen.Proofs.Facade.Evaluation
import EndpointGen.Proofs.Facade.Parameters

namespace EndpointGen

open Text

structure ActionParameter where
  place : String
  type : String
  name : String

def ActionParameter.text (p : ActionParameter) : String := Operation.declared p.place p.type p.name

namespace Operation

variable {V : Type}

/-- The parameters that an action declares, with their names apart from their texts. -/
def declaredParameters (op : Operation) : List ActionParameter :=
  if op.verb.isGet then
    op.parameters.map fun p => ⟨queryOrRoute p.binding, p.type.render, p.name⟩
  else
    ((op.parameters.filter (·.isRouteBound)).map fun p => ⟨"FromRoute", p.type.render, p.name⟩) ++
      op.envelope?.toList.map fun e => ⟨"FromBody", e.typeName, envelopeParameter⟩

theorem actionParameters_eq (op : Operation) :
    op.actionParameters = op.declaredParameters.map ActionParameter.text := by
  unfold actionParameters declaredParameters
  by_cases hget : op.verb.isGet = true
  · simp only [hget, if_true, List.map_map]
    rfl
  · simp only [hget, Bool.false_eq_true, if_false, List.map_append, List.map_map]
    cases op.envelope? with
    | none => rfl
    | some e => rfl

def valuesWhere (op : Operation) (keep : BoundParameter → Bool) (values : List V) : List V :=
  ((op.parameters.zip values).filter fun pv => keep pv.1).map (·.2)

/-- What is given for the declared parameters, in their order, where each source parameter has a value:
    a record holds the values of the free parameters under the names of its fields. -/
def given (op : Operation) (values : List V) : List (Given V) :=
  if op.verb.isGet then values.map .value
  else
    (op.valuesWhere (·.isRouteBound) values).map .value ++
      op.envelope?.toList.map fun e =>
        .record ((e.fields.map (·.name)).zip (op.valuesWhere (!·.isRouteBound) values))

def environment (op : Operation) (values : List V) : List (String × Given V) :=
  (op.declaredParameters.map (·.name)).zip (op.given values)

/-- The names of the declared parameters are distinct, and so are those of the fields of a record. -/
structure DistinctNames (op : Operation) : Prop where
  declared : (op.declaredParameters.map (·.name)).Nodup
  fields : ∀ e, op.envelope? = some e → (e.fields.map (·.name)).Nodup

section Environment

variable {op : Operation} {values : List V}

/-- A choice among the parameters is a choice among the parameters with their values. -/
theorem filter_parameters (hlength : values.length = op.parameters.length)
    (keep : BoundParameter → Bool) :
    op.parameters.filter keep =
      ((op.parameters.zip values).filter fun pv => keep pv.1).map (·.1) := by
  have hparameters : op.parameters = (op.parameters.zip values).map (·.1) :=
    (List.map_fst_zip (by omega)).symm
  have hkept := congrArg (List.filter keep) hparameters
  rw [List.filter_map] at hkept
  exact hkept

theorem valuesWhere_length (hlength : values.length = op.parameters.length)
    (keep : BoundParameter → Bool) :
    (op.valuesWhere keep values).length = (op.parameters.filter keep).length := by
  rw [filter_parameters hlength, valuesWhere, List.length_map, List.length_map]

/-- Where the parameters that pass a test are listed by a name, each value stands at its own. -/
theorem zip_valuesWhere (hlength : values.length = op.parameters.length)
    (keep : BoundParameter → Bool) (name : BoundParameter → String) :
    ((op.parameters.filter keep).map name).zip (op.valuesWhere keep values) =
      ((op.parameters.zip values).filter fun pv => keep pv.1).map fun pv => (name pv.1, pv.2) := by
  rw [filter_parameters hlength, valuesWhere, List.map_map, List.zip_map']
  rfl

theorem given_length (hlength : values.length = op.parameters.length) :
    (op.given values).length = op.declaredParameters.length := by
  unfold given declaredParameters
  by_cases hget : op.verb.isGet = true
  · rw [if_pos hget, if_pos hget, List.length_map, List.length_map, hlength]
  · rw [if_neg hget, if_neg hget]
    simp only [List.length_append, List.length_map, valuesWhere_length hlength]

theorem environment_names (hlength : values.length = op.parameters.length) :
    (op.environment values).map (·.1) = op.declaredParameters.map (·.name) := by
  have hle : (op.declaredParameters.map (·.name)).length ≤ (op.given values).length := by
    rw [List.length_map, given_length hlength]
  exact List.map_fst_zip hle

theorem environment_of_get (hget : op.verb.isGet = true) :
    op.environment values =
      (op.parameters.zip values).map fun pv => (pv.1.name, .value pv.2) := by
  rw [environment, declaredParameters, given, if_pos hget, if_pos hget, List.map_map, List.zip_map]
  rfl

theorem environment_of_body (hlength : values.length = op.parameters.length)
    (hbody : op.verb.isGet = false) :
    op.environment values =
      (((op.parameters.zip values).filter fun pv => pv.1.isRouteBound).map fun pv =>
        (pv.1.name, .value pv.2)) ++
      op.envelope?.toList.map fun e => (envelopeParameter,
        .record ((e.fields.map (·.name)).zip (op.valuesWhere (!·.isRouteBound) values))) := by
  have hbound := zip_valuesWhere hlength (·.isRouteBound) (·.name)
  have hnames : ((op.parameters.filter (·.isRouteBound)).map (·.name)).length =
      ((op.valuesWhere (·.isRouteBound) values).map Given.value).length := by
    rw [List.length_map, List.length_map, valuesWhere_length hlength]
  have hdeclared : op.declaredParameters.map (·.name) =
      (op.parameters.filter (·.isRouteBound)).map (·.name) ++
        op.envelope?.toList.map fun _ => envelopeParameter := by
    rw [declaredParameters, hbody, if_neg Bool.false_ne_true, List.map_append, List.map_map,
      List.map_map]
    rfl
  rw [environment, hdeclared, given, hbody, if_neg Bool.false_ne_true, List.zip_append hnames,
    List.zip_map_right, hbound, List.map_map, List.zip_map']
  rfl

end Environment

namespace TakesParameters

variable {op : Operation} {values : List V} {ps : List Parameter} {p : BoundParameter}
  {e : RequestEnvelope} {v : V}

theorem envelope_of_free (h : op.TakesParameters ps) (hbody : op.verb.isGet = false)
    (hp : p ∈ op.parameters) (hfree : p.isRouteBound = false) : ∃ e, op.envelope? = some e := by
  obtain ⟨base, hbase⟩ := h.envelope_of_body hbody
  rw [hbase]
  cases he : RequestEnvelope.ofParameters? base op.parameters with
  | some e => exact ⟨e, rfl⟩
  | none =>
      have hnone := RequestEnvelope.ofParameters?_eq_none_iff.mp he
      have hbound := List.filter_eq_nil_iff.mp hnone p hp
      simp [hfree] at hbound

theorem callArgument_plain (h : op.TakesParameters ps)
    (hplain : op.verb.isGet = true ∨ p.isRouteBound = true) : op.callArgument p = p.name := by
  rcases hplain with hget | hbound
  · have hnone : op.carrier? p.name = none := by rw [carrier?, h.envelope_of_get hget]; rfl
    rw [callArgument, hnone]
    cases p.binding with
    | route => rfl
    | free => rfl
  · have hroute : p.binding = .route := by simpa [BoundParameter.isRouteBound] using hbound
    rw [callArgument, hroute]

/-- The search by source name may stop at another parameter, but only at one of the same name. -/
theorem callArgument_free (h : op.TakesParameters ps) (he : op.envelope? = some e)
    (hp : p ∈ op.parameters) (hfree : p.isRouteBound = false) :
    op.callArgument p = envelopeParameter ++ "." ++ capitalize p.name := by
  have hbinding : p.binding = .free := by
    cases hb : p.binding with
    | route => simp [BoundParameter.isRouteBound, hb] at hfree
    | free => rfl
  have hfields := h.fields he
  have hcarrier : op.carrier? p.name = e.fields.find? fun f => f.sourceName == p.name := by
    rw [carrier?, he]
    rfl
  cases hf : e.fields.find? fun f => f.sourceName == p.name with
  | none =>
      have hmem : RequestEnvelope.fieldOf p ∈ e.fields := by
        rw [hfields]
        exact List.mem_map.mpr ⟨p, List.mem_filter.mpr ⟨hp, by simp [hfree]⟩, rfl⟩
      have hno := List.find?_eq_none.mp hf _ hmem
      simp [RequestEnvelope.fieldOf] at hno
  | some f =>
      have hname : f.sourceName = p.name := by simpa using List.find?_some hf
      have hmem := List.mem_of_find?_eq_some hf
      rw [hfields] at hmem
      obtain ⟨q, -, rfl⟩ := List.mem_map.mp hmem
      have hq : q.name = p.name := hname
      rw [callArgument, hbinding, hcarrier, hf]
      simp only [RequestEnvelope.fieldOf, hq]

theorem mem_environment_plain (hlength : values.length = op.parameters.length)
    (hpv : (p, v) ∈ op.parameters.zip values)
    (hplain : op.verb.isGet = true ∨ p.isRouteBound = true) :
    (p.name, Given.value v) ∈ op.environment values := by
  cases hget : op.verb.isGet with
  | true =>
      rw [environment_of_get hget]
      exact List.mem_map.mpr ⟨(p, v), hpv, rfl⟩
  | false =>
      have hbound : p.isRouteBound = true := by simpa [hget] using hplain
      rw [environment_of_body hlength hget]
      apply List.mem_append_left
      exact List.mem_map.mpr ⟨(p, v), List.mem_filter.mpr ⟨hpv, hbound⟩, rfl⟩

theorem field_names (h : op.TakesParameters ps) (he : op.envelope? = some e) :
    e.fields.map (·.name) =
      (op.parameters.filter (!·.isRouteBound)).map fun q => capitalize q.name := by
  rw [h.fields he, List.map_map]
  rfl

theorem lookup_record (h : op.TakesParameters ps) (he : op.envelope? = some e)
    (hnodup : (e.fields.map (·.name)).Nodup) (hlength : values.length = op.parameters.length)
    (hpv : (p, v) ∈ op.parameters.zip values) (hfree : p.isRouteBound = false) :
    ((e.fields.map (·.name)).zip (op.valuesWhere (!·.isRouteBound) values)).lookup
      (capitalize p.name) = some v := by
  apply lookup_of_mem
  · have hle : (e.fields.map (·.name)).length ≤
        (op.valuesWhere (!·.isRouteBound) values).length := by
      rw [h.field_names he, List.length_map, valuesWhere_length hlength]
    rw [List.map_fst_zip hle]
    exact hnodup
  · rw [h.field_names he, zip_valuesWhere hlength]
    exact List.mem_map.mpr ⟨(p, v), List.mem_filter.mpr ⟨hpv, by simp [hfree]⟩, rfl⟩

theorem evaluate_callArgument (h : op.TakesParameters ps) (hdistinct : op.DistinctNames)
    (hlength : values.length = op.parameters.length) (hdot : '.' ∉ p.name.toList)
    (hpv : (p, v) ∈ op.parameters.zip values) :
    Given.evaluate (op.environment values) (op.callArgument p) = some v := by
  have hnames : ((op.environment values).map (·.1)).Nodup := by
    rw [environment_names hlength]
    exact hdistinct.declared
  by_cases hplain : op.verb.isGet = true ∨ p.isRouteBound = true
  · rw [h.callArgument_plain hplain]
    exact Given.evaluate_plain hdot
      (lookup_of_mem hnames (mem_environment_plain hlength hpv hplain))
  · obtain ⟨hbody, hfree⟩ : op.verb.isGet = false ∧ p.isRouteBound = false := by
      simpa using hplain
    have hp : p ∈ op.parameters := (List.of_mem_zip hpv).1
    obtain ⟨e, he⟩ := h.envelope_of_free hbody hp hfree
    have hrecord : (envelopeParameter, Given.record ((e.fields.map (·.name)).zip
        (op.valuesWhere (!·.isRouteBound) values))) ∈ op.environment values := by
      rw [environment_of_body hlength hbody, he]
      apply List.mem_append_right
      exact List.mem_singleton.mpr rfl
    have hfield := h.lookup_record he (hdistinct.fields e he) hlength hpv hfree
    rw [h.callArgument_free he hp hfree]
    exact Given.evaluate_field (by decide) (lookup_of_mem hnames hrecord) hfield

theorem evaluate_callArguments (h : op.TakesParameters ps) (hdistinct : op.DistinctNames)
    (hlength : values.length = op.parameters.length)
    (hdots : ∀ p ∈ op.parameters, '.' ∉ p.name.toList) :
    op.callArguments.map (Given.evaluate (op.environment values)) = values.map some := by
  have hparameters : (op.parameters.zip values).map (·.1) = op.parameters :=
    List.map_fst_zip (by omega)
  have hvalues : (op.parameters.zip values).map (·.2) = values := List.map_snd_zip (by omega)
  have hforward : (op.parameters.zip values).map
      (fun pv => Given.evaluate (op.environment values) (op.callArgument pv.1)) =
        (op.parameters.zip values).map fun pv => some pv.2 := by
    apply List.map_congr_left
    rintro ⟨p, v⟩ hpv
    exact h.evaluate_callArgument hdistinct hlength (hdots p (List.of_mem_zip hpv).1) hpv
  have hsome := congrArg (List.map some) hvalues
  rw [List.map_map] at hsome
  calc op.callArguments.map (Given.evaluate (op.environment values))
      = ((op.parameters.zip values).map (·.1)).map
          (fun p => Given.evaluate (op.environment values) (op.callArgument p)) := by
        rw [hparameters, callArguments, List.map_map]
        rfl
    _ = (op.parameters.zip values).map fun pv => some pv.2 := by
        rw [List.map_map]
        exact hforward
    _ = values.map some := hsome

end TakesParameters

/-- A GET action takes every source parameter in order, from the route or the query. -/
structure WiresQuery (op : Operation) (ps : List Parameter) : Prop where
  envelope : op.envelope? = none
  parameters : op.actionParameters = ps.map fun p =>
    declared (if p.name ∈ op.route.names then "FromRoute" else "FromQuery") p.type.render p.name

/-- Another action takes the parameters that the route names, then the record of the others. -/
structure WiresBody (op : Operation) (ps : List Parameter) : Prop where
  envelope : op.envelope?.isSome = true ↔ ∃ p ∈ ps, p.name ∉ op.route.names
  fields : ∀ e, op.envelope? = some e → e.fields =
    (ps.filter fun p => p.name ∉ op.route.names).map fun p => ⟨capitalize p.name, p.name, p.type⟩
  parameters : op.actionParameters =
    ((ps.filter fun p => p.name ∈ op.route.names).map fun p =>
      declared "FromRoute" p.type.render p.name) ++
      op.envelope?.toList.map fun e => declared "FromBody" e.typeName envelopeParameter

namespace TakesParameters

variable {op : Operation} {ps : List Parameter}

theorem wiresQuery (h : op.TakesParameters ps) (hget : op.verb.isGet = true) :
    op.WiresQuery ps := by
  refine ⟨h.envelope_of_get hget, ?_⟩
  rw [actionParameters, if_pos hget, h.parameters, Route.bind_eq, List.map_map]
  refine List.map_congr_left fun p _ => ?_
  by_cases hp : p.name ∈ op.route.names
  · simp only [Function.comp_apply, Route.bound, if_pos hp, queryOrRoute]
  · simp only [Function.comp_apply, Route.bound, if_neg hp, queryOrRoute]

theorem wiresBody (h : op.TakesParameters ps) (hbody : op.verb.isGet = false) :
    op.WiresBody ps := by
  refine ⟨h.envelope_isSome_iff hbody, fun e he => h.fields_eq he, ?_⟩
  rw [actionParameters, hbody, if_neg Bool.false_ne_true, h.parameters, Route.filter_bind_bound,
    List.map_map]
  cases op.envelope? with
  | none => rfl
  | some e => rfl

end TakesParameters

/-- The action of an operation declares each parameter of its method once, with its own type and in
    order, and under distinct names its call forwards to each parameter the value given for it. -/
theorem wiring_of_resolve {g : DeclarationGraph} {config : Config} {owner : Declaration} {m : Member}
    {op : Operation} (h : (resolve g config owner m).value? = some op)
    (hdots : ∀ p ∈ m.parameters, '.' ∉ p.name.toList) :
    (op.verb.isGet = true → op.WiresQuery m.parameters) ∧
      (op.verb.isGet = false → op.WiresBody m.parameters) ∧
      op.actionParameters = op.declaredParameters.map ActionParameter.text ∧
      ∀ {V : Type} (values : List V), values.length = m.parameters.length → op.DistinctNames →
        op.callArguments.map (Given.evaluate (op.environment values)) = values.map some := by
  have htakes := takesParameters_of_resolve h
  refine ⟨htakes.wiresQuery, htakes.wiresBody, op.actionParameters_eq, ?_⟩
  intro V values hlength hdistinct
  have hparameters := htakes.parameters
  rw [Route.bind_eq] at hparameters
  apply htakes.evaluate_callArguments hdistinct
  · rw [hparameters, List.length_map, hlength]
  · intro p hp
    rw [hparameters] at hp
    obtain ⟨q, hq, rfl⟩ := List.mem_map.mp hp
    exact hdots q hq

/-- The marker of `PUT {id}`. -/
def renameMarker : Annotation := ⟨"Put", [], [.string "\x7bid\x7d"], []⟩

/-- A method whose second parameter comes from the route and whose others go into a record. -/
def renameMember : Member :=
  { Member.bare .method "Rename" (.primitive "void") with
    parameters :=
      [⟨"name", .primitive "string"⟩, ⟨"id", .primitive "int"⟩, ⟨"age", .primitive "int"⟩]
    annotations := [renameMarker] }

def renameOperation : Operation := ofMarked (.ofList []) .default renameMember .put renameMarker

theorem distinctNames_rename : renameOperation.DistinctNames := by
  refine ⟨by decide, ?_⟩
  intro e he
  obtain rfl : (⟨"RenameRequest", [⟨"Name", "name", .primitive "string"⟩,
    ⟨"Age", "age", .primitive "int"⟩]⟩ : RequestEnvelope) = e := Option.some.inj he
  decide

theorem wiring_of_rename :
    renameOperation.WiresBody renameMember.parameters ∧ renameOperation.DistinctNames ∧
      renameOperation.callArguments.map
        (Given.evaluate (renameOperation.environment ["Ann", "7", "40"])) =
        [some "Ann", some "7", some "40"] := by
  have hresolve : (resolve (.ofList []) .default (.bare .interfaceDecl "Acme.IUsers" "Acme")
      renameMember).value? = some renameOperation := by rfl
  obtain ⟨-, hbody, -, hforward⟩ := wiring_of_resolve hresolve (by decide)
  exact ⟨hbody rfl, distinctNames_rename, hforward ["Ann", "7", "40"] rfl distinctNames_rename⟩

end Operation

end EndpointGen
