/- Summaries and units: the summary of a facade puts each parameter where its action takes it from, and the
   records that the controller mentions are those of the requests unit, in a namespace that it can see. -/
import EndpointGen.CommandLine.Summary
import EndpointGen.Proofs.Facade.Endpoints
import EndpointGen.Proofs.Facade.Wiring
import EndpointGen.Proofs.Pass.Work

namespace EndpointGen

open Text

namespace Operation

/-- The action takes the parameter from the route, from the query, or in a field of the record that it takes
    from the body. -/
inductive TakesFrom (op : Operation) (p : BoundParameter) : String → Prop
  | route : ⟨"FromRoute", p.type.render, p.name⟩ ∈ op.declaredParameters → TakesFrom op p "route"
  | query : ⟨"FromQuery", p.type.render, p.name⟩ ∈ op.declaredParameters → TakesFrom op p "query"
  | body (e : RequestEnvelope) : op.envelope? = some e →
      ⟨"FromBody", e.typeName, envelopeParameter⟩ ∈ op.declaredParameters →
      RequestEnvelope.fieldOf p ∈ e.fields → TakesFrom op p "body"

/-- The types of the parameters that an action takes from the body. -/
def bodyTypes (op : Operation) : List String :=
  (op.declaredParameters.filter fun a => a.place == "FromBody").map (·.type)

variable {op : Operation} {ps : List Parameter} {p q : BoundParameter} {place : String}
  {a : ActionParameter} {e : RequestEnvelope}

theorem mem_declared_of_get (hget : op.verb.isGet = true) :
    a ∈ op.declaredParameters ↔
      ∃ q ∈ op.parameters, ⟨queryOrRoute q.binding, q.type.render, q.name⟩ = a := by
  rw [declaredParameters, if_pos hget, List.mem_map]

theorem mem_declared_of_body (hbody : op.verb.isGet = false) :
    a ∈ op.declaredParameters ↔
      (∃ q ∈ op.parameters, q.isRouteBound = true ∧ ⟨"FromRoute", q.type.render, q.name⟩ = a) ∨
        ∃ e, op.envelope? = some e ∧ ⟨"FromBody", e.typeName, envelopeParameter⟩ = a := by
  rw [declaredParameters, hbody, if_neg Bool.false_ne_true, List.mem_append]
  simp only [List.mem_map, List.mem_filter, Option.mem_toList, and_assoc]

theorem queryOrRoute_eq (p : BoundParameter) :
    queryOrRoute p.binding = if p.isRouteBound then "FromRoute" else "FromQuery" := by
  unfold queryOrRoute BoundParameter.isRouteBound
  cases p.binding <;> rfl

theorem placeOf_eq (op : Operation) (p : BoundParameter) :
    op.placeOf p = if p.isRouteBound then "route" else if op.verb.isGet then "query" else "body" := by
  unfold placeOf BoundParameter.isRouteBound
  cases p.binding <;> cases op.verb.isGet <;> rfl

namespace TakesParameters

/-- Parameters of one name are bound alike. -/
theorem isRouteBound_congr (h : op.TakesParameters ps) (hp : p ∈ op.parameters)
    (hq : q ∈ op.parameters) (hname : q.name = p.name) : q.isRouteBound = p.isRouteBound := by
  rw [h.parameters, Route.bind_eq] at hp hq
  obtain ⟨p, -, rfl⟩ := List.mem_map.mp hp
  obtain ⟨q, -, rfl⟩ := List.mem_map.mp hq
  have hname : q.name = p.name := hname
  rw [Route.isRouteBound_bound, Route.isRouteBound_bound, hname]

/-- What the action declares under the name of a parameter, other than the record, stands for the parameter
    itself. -/
theorem place_of_mem_declared (h : op.TakesParameters ps) (hp : p ∈ op.parameters)
    (hplace : place ≠ "FromBody") (hmem : ⟨place, p.type.render, p.name⟩ ∈ op.declaredParameters) :
    place = queryOrRoute p.binding ∧ (op.verb.isGet = true ∨ p.isRouteBound = true) := by
  rw [queryOrRoute_eq]
  cases hget : op.verb.isGet with
  | true =>
      obtain ⟨q, hq, heq⟩ := (mem_declared_of_get hget).mp hmem
      obtain ⟨hplace, -, hname⟩ := ActionParameter.mk.inj heq
      rw [← hplace, queryOrRoute_eq, h.isRouteBound_congr hp hq hname]
      exact ⟨rfl, .inl rfl⟩
  | false =>
      rcases (mem_declared_of_body hget).mp hmem with ⟨q, hq, hbound, heq⟩ | ⟨e, -, heq⟩
      · obtain ⟨hplace, -, hname⟩ := ActionParameter.mk.inj heq
        have hbound : p.isRouteBound = true := (h.isRouteBound_congr hp hq hname) ▸ hbound
        rw [← hplace, if_pos hbound]
        exact ⟨rfl, .inr hbound⟩
      · exact absurd (ActionParameter.mk.inj heq).1.symm hplace

theorem mem_declared (hp : p ∈ op.parameters) (hplain : op.verb.isGet = true ∨ p.isRouteBound = true) :
    ⟨queryOrRoute p.binding, p.type.render, p.name⟩ ∈ op.declaredParameters := by
  cases hget : op.verb.isGet with
  | true => exact (mem_declared_of_get hget).mpr ⟨p, hp, rfl⟩
  | false =>
      have hbound : p.isRouteBound = true := by simpa [hget] using hplain
      refine (mem_declared_of_body hget).mpr (.inl ⟨p, hp, hbound, ?_⟩)
      rw [queryOrRoute_eq, if_pos hbound]

theorem isRouteBound_of_field (h : op.TakesParameters ps) (he : op.envelope? = some e)
    (hp : p ∈ op.parameters) (hfield : RequestEnvelope.fieldOf p ∈ e.fields) :
    op.verb.isGet = false ∧ p.isRouteBound = false := by
  constructor
  · cases hget : op.verb.isGet with
    | true =>
        rw [h.envelope_of_get hget] at he
        cases he
    | false => rfl
  · rw [h.fields he] at hfield
    obtain ⟨q, hq, heq⟩ := List.mem_map.mp hfield
    obtain ⟨hq, hfree⟩ := List.mem_filter.mp hq
    have hname : q.name = p.name := congrArg EnvelopeField.sourceName heq
    rw [← h.isRouteBound_congr hp hq hname]
    simpa using hfree

/-- A parameter is shown at the one place that its action takes it from. -/
theorem placeOf_eq_iff (h : op.TakesParameters ps) (hp : p ∈ op.parameters) :
    op.placeOf p = place ↔ op.TakesFrom p place := by
  rw [placeOf_eq]
  constructor
  · rintro rfl
    have hdeclared := mem_declared hp
    rw [queryOrRoute_eq] at hdeclared
    cases hbound : p.isRouteBound with
    | true => exact .route (by simpa [hbound] using hdeclared)
    | false =>
        cases hget : op.verb.isGet with
        | true => exact .query (by simpa [hbound, hget] using hdeclared)
        | false =>
            obtain ⟨e, he⟩ := h.envelope_of_free hget hp hbound
            refine .body e he ((mem_declared_of_body hget).mpr (.inr ⟨e, he, rfl⟩)) ?_
            rw [h.fields he]
            exact List.mem_map.mpr ⟨p, List.mem_filter.mpr ⟨hp, by simp [hbound]⟩, rfl⟩
  · rintro (hmem | hmem | ⟨e, he, -, hfield⟩)
    · obtain ⟨hplace, -⟩ := h.place_of_mem_declared hp (by decide) hmem
      rw [queryOrRoute_eq] at hplace
      cases hbound : p.isRouteBound with
      | true => rfl
      | false => simp [hbound] at hplace
    · obtain ⟨hplace, hplain⟩ := h.place_of_mem_declared hp (by decide) hmem
      rw [queryOrRoute_eq] at hplace
      cases hbound : p.isRouteBound with
      | true => simp [hbound] at hplace
      | false => simpa [hbound] using hplain
    · obtain ⟨hbody, hfree⟩ := h.isRouteBound_of_field he hp hfield
      rw [hfree, hbody]
      rfl

theorem bodyTypes_eq (h : op.TakesParameters ps) :
    op.bodyTypes = op.envelope?.toList.map (·.typeName) := by
  unfold bodyTypes declaredParameters
  cases hget : op.verb.isGet with
  | true =>
      rw [if_pos rfl, h.envelope_of_get hget, List.filter_map, List.filter_eq_nil_iff.mpr]
      · rfl
      · intro p _
        rw [Function.comp_apply, queryOrRoute_eq]
        cases p.isRouteBound <;> simp
  | false =>
      rw [if_neg Bool.false_ne_true, List.filter_append, List.filter_map, List.filter_map,
        List.filter_eq_nil_iff.mpr, List.filter_eq_self.mpr]
      · simp
      · intro e _
        rfl
      · intro p _
        simp

end TakesParameters

/-- The summary of an operation tells of each parameter where its action takes it from, and has a line for
    the body exactly where the operation has a record. -/
structure SummaryAgrees (op : Operation) (dtoNamespace : String) : Prop where
  declared : op.actionParameters = op.declaredParameters.map ActionParameter.text
  places : ∀ p ∈ op.parameters, ∀ place, op.placeOf p = place ↔ op.TakesFrom p place
  lines : op.summary dtoNamespace =
    "      " ++ op.verb.text ++ " " ++ op.route.template ++ " → " ++ op.methodName ++ "\n" ++
      String.join (op.parameters.map fun p =>
        "         " ++ p.type.render ++ " " ++ p.name ++ " (" ++ op.placeOf p ++ ")\n") ++
      String.join (op.envelope?.toList.map fun e =>
        "         body: " ++ dtoNamespace ++ "." ++ e.typeName ++ "\n")

theorem summaryAgrees (h : op.TakesParameters ps) (dtoNamespace : String) :
    op.SummaryAgrees dtoNamespace := by
  refine ⟨op.actionParameters_eq, fun p hp place => h.placeOf_eq_iff hp, ?_⟩
  have hbody : (op.envelope?.map (bodyLine dtoNamespace)).getD "" =
      String.join (op.envelope?.toList.map (bodyLine dtoNamespace)) := by
    cases op.envelope? with
    | none => rfl
    | some e => simp
  unfold summary
  rewrite [hbody]
  rfl

end Operation

/-- The text of an item stands among the texts of all. -/
theorem exists_join_split {α : Type} {x : α} {xs : List α} (text : α → String) (h : x ∈ xs) :
    ∃ before after, String.join (xs.map text) = before ++ text x ++ after := by
  obtain ⟨front, back, rfl⟩ := List.append_of_mem h
  refine ⟨String.join (front.map text), String.join (back.map text), ?_⟩
  simp [String.append_assoc]

theorem Resolved.summary_split {r : Resolved} {f : Facade} (hf : f ∈ r.facades) :
    ∃ before after, r.summary = before ++ f.summary ++ after := by
  obtain ⟨before, after, hsplit⟩ := exists_join_split Facade.summary hf
  refine ⟨"📋 Facades: " ++ toString r.facades.length ++ "\n" ++ before, after ++ "📋 Dtos: " ++
    toString r.dtos.length ++ "\n" ++ String.join (r.dtos.map Dto.summary), ?_⟩
  unfold summary
  rw [hsplit]
  generalize f.summary = text
  simp only [← String.append_assoc]

namespace Facade

variable {g : DeclarationGraph} {config : Config} {d : Declaration} {f : Facade}

/-- The types that the actions of a controller take from the body. -/
def bodyTypes (f : Facade) : List String := f.operations.flatMap (·.bodyTypes)

/-- The controller class up to its actions. -/
def classOpening (f : Facade) : String :=
  "\n    [ApiController]\n    [Route(\"[controller]\")]\n    public partial class " ++
    f.controllerClass ++ " : ControllerBase\n    \x7b\n        private readonly " ++
    f.serviceType.render ++ " _service;\n\n        public " ++ f.controllerClass ++ "(" ++
    f.serviceType.render ++ " service)\n        \x7b\n            _service = service;\n        \x7d"

/-- The requests unit is there exactly where an operation has a record, and declares the records in the
    order of the operations, which are those that the controller mentions. The controller has the usings of
    the settings, and sees the namespace of the records where it mentions one. -/
structure UnitsAgree (f : Facade) (config : Config) : Prop where
  emitted : (∃ u ∈ f.units config, u.key = f.requestsKey) ↔
    ∃ op ∈ f.operations, op.envelope?.isSome = true
  requests : ∀ u ∈ f.units config, u.key = f.requestsKey → u.source =
    SourceUnit.header f.source config.dtoUsings f.dtoNamespace ++
      SourceUnit.concat ((f.operations.filterMap (·.envelope?)).map RequestEnvelope.declaration) ++
      "\n\x7d\n"
  mentioned : f.bodyTypes = (f.operations.filterMap (·.envelope?)).map (·.typeName)
  controller : ∀ u ∈ f.units config, u.key = f.controllerKey → ∃ added,
    u.source = SourceUnit.header f.source (config.controllerUsings ++ added) f.controllerNamespace ++
      f.classOpening ++ SourceUnit.concat (f.operations.map Operation.action) ++
      "\n    \x7d\n\x7d\n" ∧
    (added = [] ∨ added = [f.dtoNamespace] ∧ f.dtoNamespace ∉ config.controllerUsings) ∧
    (f.bodyTypes ≠ [] → f.dtoNamespace = f.controllerNamespace ∨
      f.dtoNamespace ∈ config.controllerUsings ++ added)

theorem takesParameters_of_mem (h : (resolve g config d).value? = some f) {op : Operation}
    (hop : op ∈ f.operations) : ∃ ps, op.TakesParameters ps := by
  rw [operations_of_resolve h, operationsOf_eq] at hop
  obtain ⟨m, -, hop⟩ := List.mem_filterMap.mp hop
  exact ⟨m.parameters, Operation.takesParameters_of_resolve hop⟩

theorem bodyTypes_eq (h : (resolve g config d).value? = some f) :
    f.bodyTypes = f.envelopes.map (·.typeName) := by
  rw [bodyTypes, envelopes, List.filterMap_eq_flatMap_toList, List.map_flatMap]
  refine List.flatMap_congr fun op hop => ?_
  obtain ⟨ps, htakes⟩ := takesParameters_of_mem h hop
  exact htakes.bodyTypes_eq

theorem envelopes_ne_nil_iff : f.envelopes ≠ [] ↔ ∃ op ∈ f.operations, op.envelope?.isSome = true := by
  rw [envelopes, ne_eq, List.filterMap_eq_nil_iff]
  simp [Option.isSome_iff_ne_none]

theorem needsEnvelopes_iff : f.needsEnvelopes = true ↔ f.envelopes ≠ [] := by
  rw [envelopes_ne_nil_iff, needsEnvelopes, List.any_eq_true]

theorem controllerSource_eq (f : Facade) (config : Config) :
    f.controllerSource config =
      SourceUnit.header f.source (f.controllerUsings config) f.controllerNamespace ++
        f.classOpening ++ SourceUnit.concat (f.operations.map Operation.action) ++
        "\n    \x7d\n\x7d\n" := by
  unfold controllerSource classOpening
  simp only [← String.append_assoc]

/-- Of the two units the keys tell which is which. -/
theorem mem_units_iff {u : SourceUnit} : u ∈ f.units config ↔
    u = ⟨f.controllerKey, f.controllerSource config⟩ ∨
      f.envelopes ≠ [] ∧ u = ⟨f.requestsKey, f.requestsSource config⟩ := by
  rw [units, List.mem_cons]
  cases f.envelopes with
  | nil => simp
  | cons e es => simp

theorem controllerUsings_cases (f : Facade) (config : Config) : ∃ added,
    f.controllerUsings config = config.controllerUsings ++ added ∧
    (added = [] ∨ added = [f.dtoNamespace] ∧ f.dtoNamespace ∉ config.controllerUsings) ∧
    (f.envelopes ≠ [] → f.dtoNamespace = f.controllerNamespace ∨
      f.dtoNamespace ∈ config.controllerUsings ++ added) := by
  rw [← needsEnvelopes_iff]
  unfold controllerUsings
  split
  · next h =>
      simp only [Bool.and_eq_true, Bool.not_eq_true', bne_iff_ne] at h
      refine ⟨[f.dtoNamespace], rfl, .inr ⟨rfl, by simpa using h.2⟩, fun _ => .inr (by simp)⟩
  · next h =>
      refine ⟨[], (List.append_nil _).symm, .inl rfl, fun hneeds => ?_⟩
      by_contra hapart
      rw [not_or] at hapart
      apply h
      rw [hneeds, Bool.true_and, Bool.and_eq_true, bne_iff_ne, Bool.not_eq_true']
      exact ⟨hapart.1, by simpa using hapart.2⟩

theorem unitsAgree (h : (resolve g config d).value? = some f) (config' : Config) :
    f.UnitsAgree config' := by
  refine ⟨?_, ?_, bodyTypes_eq h, ?_⟩
  · rw [← envelopes_ne_nil_iff]
    simp only [mem_units_iff]
    constructor
    · rintro ⟨u, rfl | ⟨hrecords, -⟩, hkey⟩
      · exact absurd hkey f.controllerKey_ne_requestsKey
      · exact hrecords
    · exact fun hrecords => ⟨_, .inr ⟨hrecords, rfl⟩, rfl⟩
  · intro u hu hkey
    rcases mem_units_iff.mp hu with rfl | ⟨-, rfl⟩
    · exact absurd hkey f.controllerKey_ne_requestsKey
    · rfl
  · intro u hu hkey
    rcases mem_units_iff.mp hu with rfl | ⟨-, rfl⟩
    · obtain ⟨added, husings, hadded, hseen⟩ := f.controllerUsings_cases config'
      refine ⟨added, ?_, hadded, ?_⟩
      · rw [controllerSource_eq, husings]
      · rwa [bodyTypes_eq h, ne_eq, List.map_eq_nil_iff]
    · exact absurd hkey.symm f.controllerKey_ne_requestsKey

theorem summary_split {op : Operation} (hop : op ∈ f.operations) :
    ∃ before after, f.summary = before ++ op.summary f.dtoNamespace ++ after := by
  obtain ⟨before, after, hsplit⟩ := exists_join_split (Operation.summary · f.dtoNamespace) hop
  refine ⟨"   " ++ f.source ++ " → " ++ f.controllerNamespace ++ "." ++ f.controllerClass ++
    " (service " ++ f.serviceType.render ++ ")\n" ++ before, after, ?_⟩
  unfold summary
  rw [hsplit]
  generalize op.summary f.dtoNamespace = text
  simp only [← String.append_assoc]

/-- What is shown of a facade and what is generated from it tell the same of its parameters and records. -/
theorem summary_and_units_agree (h : (resolve g config d).value? = some f) (config' : Config) :
    (∀ r : Resolved, f ∈ r.facades → ∃ before after, r.summary = before ++ f.summary ++ after) ∧
      (∀ op ∈ f.operations, op.SummaryAgrees f.dtoNamespace ∧
        (∃ before after, f.summary = before ++ op.summary f.dtoNamespace ++ after)) ∧
      f.UnitsAgree config' := by
  refine ⟨fun r => Resolved.summary_split, fun op hop => ⟨?_, summary_split hop⟩, unitsAgree h config'⟩
  obtain ⟨ps, htakes⟩ := takesParameters_of_mem h hop
  exact Operation.summaryAgrees htakes f.dtoNamespace

/-- A facade with a method of each kind, whose records have a namespace of their own. -/
def usersFacade : Declaration :=
  { Declaration.bare .interfaceDecl "Acme.IUsers" "Acme" with
    annotations := [⟨"HttpFacade", [], [], [⟨"DtoNamespace", .string "Acme.Requests"⟩]⟩]
    members :=
      [{ Member.bare .method "Find" (.primitive "string") with
          parameters := [⟨"id", .primitive "int"⟩, ⟨"page", .primitive "int"⟩]
          annotations := [⟨"Get", [], [.string "users/\x7bid\x7d"], []⟩] },
        { Member.bare .method "Save" (.primitive "bool") with
          parameters := [⟨"id", .primitive "int"⟩, ⟨"name", .primitive "string"⟩]
          annotations := [⟨"Post", [], [.string "users/\x7bid\x7d"], []⟩] }] }

theorem usersFacade_agrees :
    ∃ f, (resolve (.ofList [usersFacade]) .default usersFacade).value? = some f ∧
      (∀ op ∈ f.operations, op.SummaryAgrees "Acme.Requests") ∧ f.UnitsAgree .default ∧
      f.bodyTypes = ["SaveRequest"] ∧
      f.controllerUsings .default = Config.default.controllerUsings ++ ["Acme.Requests"] := by
  obtain ⟨f, hf⟩ : ∃ f, (resolve (.ofList [usersFacade]) .default usersFacade).value? = some f :=
    ⟨_, rfl⟩
  obtain ⟨-, hsummaries, hunits⟩ := summary_and_units_agree hf .default
  have hf' := Option.some.inj hf
  subst hf'
  exact ⟨_, rfl, fun op hop => (hsummaries op hop).1, hunits, rfl, rfl⟩

end Facade

end EndpointGen
