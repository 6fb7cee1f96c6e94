/- Resolving a facade: what it gives, and that all it reports is advice at the facade or its members. -/
import Mathlib.Data.List.Basic
import EndpointGen.Facade.Basic
import EndpointGen.Proofs.Report.Diagnostics

namespace EndpointGen

variable {g : DeclarationGraph} {config : Config} {d owner : Declaration} {m : Member}
  {e : Diagnostic}

theorem Route.code_of_mem {r : Route} {ps : List Parameter} {place member : String}
    (h : e ∈ r.unmatchedDiagnostics ps place member) : e.code = .unmatchedRouteParameter := by
  obtain ⟨name, -, rfl⟩ := List.mem_map.mp h
  rfl

theorem RequestEnvelope.code_of_mem {envelope : RequestEnvelope} {place : String}
    (h : e ∈ envelope.fieldDiagnostics place) : e.code = .conflictingRequestEnvelope := by
  obtain ⟨f, -, rfl⟩ := List.mem_map.mp h
  rfl

theorem Facade.code_of_mem {identity : String} {ops : List Operation}
    (h : e ∈ recordDiagnostics identity ops) : e.code = .conflictingRequestEnvelope := by
  obtain ⟨⟨op, envelope, first⟩, -, rfl⟩ := List.mem_map.mp h
  rfl

namespace Operation

/-- The warnings about the fields of the record of an operation, where it has one. -/
def fieldWarnings (place : String) (op : Operation) : List Diagnostic :=
  op.envelope?.toList.flatMap fun envelope => envelope.fieldDiagnostics place

theorem code_of_mem_fieldWarnings {place : String} {op : Operation} (h : e ∈ op.fieldWarnings place) :
    e.code = .conflictingRequestEnvelope := by
  obtain ⟨envelope, -, h⟩ := List.mem_flatMap.mp h
  exact RequestEnvelope.code_of_mem h

theorem warnings_eq (op : Operation) (owner : Declaration) (m : Member) :
    op.warnings owner m = op.route.unmatchedDiagnostics m.parameters (location owner m) m.name ++
      op.fieldWarnings (location owner m) := by
  rw [warnings, fieldWarnings]
  cases op.envelope? with
  | none => rfl
  | some envelope => simp

/-- The two kinds of warnings are told apart by their codes. -/
theorem withCode_warnings (op : Operation) (owner : Declaration) (m : Member) :
    withCode .unmatchedRouteParameter (op.warnings owner m) =
        op.route.unmatchedDiagnostics m.parameters (location owner m) m.name ∧
      withCode .conflictingRequestEnvelope (op.warnings owner m) =
        op.fieldWarnings (location owner m) := by
  rw [warnings_eq, withCode_append, withCode_append]
  constructor
  · rw [withCode_of_forall fun e h => Route.code_of_mem h, withCode_of_forall_ne, List.append_nil]
    intro e h
    rw [code_of_mem_fieldWarnings h]
    exact DiagnosticCode.noConfusion
  · rw [withCode_of_forall fun e h => code_of_mem_fieldWarnings h, withCode_of_forall_ne,
      List.nil_append]
    intro e h
    rw [Route.code_of_mem h]
    exact DiagnosticCode.noConfusion

theorem warnings_advice (op : Operation) (h : e ∈ op.warnings owner m) : e.IsAdvice := by
  rw [warnings_eq] at h
  rcases List.mem_append.mp h with h | h
  · obtain ⟨name, -, rfl⟩ := List.mem_map.mp h
    exact ⟨.inl rfl, rfl⟩
  · obtain ⟨envelope, -, h⟩ := List.mem_flatMap.mp h
    obtain ⟨f, -, rfl⟩ := List.mem_map.mp h
    exact ⟨.inr rfl, rfl⟩

/-- Only a method with a verb marker is an operation, and the warnings are its only report. -/
theorem resolve_eq (g : DeclarationGraph) (config : Config) (owner : Declaration) (m : Member) :
    resolve g config owner m =
      match if m.isMethod then m.verbMarker? else none with
      | some (verb, marker) =>
        .resolved (ofMarked g config m verb marker) ((ofMarked g config m verb marker).warnings owner m)
      | none => .skipped := by
  unfold resolve
  split
  · rfl
  · rfl

theorem resolve_advice (h : e ∈ (resolve g config owner m).diagnostics) : e.IsAdvice := by
  rw [resolve_eq] at h
  split at h
  · exact warnings_advice _ h
  · simp [Resolution.skipped] at h

theorem warnings_located (op : Operation) (h : e ∈ op.warnings owner m) :
    e.LocatedAt owner.identity := by
  refine .inr ⟨m.name, ?_⟩
  rw [warnings_eq] at h
  rcases List.mem_append.mp h with h | h
  · obtain ⟨name, -, rfl⟩ := List.mem_map.mp h
    rfl
  · obtain ⟨envelope, -, h⟩ := List.mem_flatMap.mp h
    obtain ⟨f, -, rfl⟩ := List.mem_map.mp h
    rfl

theorem resolve_located (h : e ∈ (resolve g config owner m).diagnostics) :
    e.LocatedAt owner.identity := by
  rw [resolve_eq] at h
  split at h
  · exact warnings_located _ h
  · simp [Resolution.skipped] at h

theorem ignores_nothing (g : DeclarationGraph) (kind : String) : g.ignores [] kind = false := by
  have hwalks : walksToIgnored kind [] = [] := rfl
  rw [DeclarationGraph.ignores, hwalks, List.any_nil]

/-- Nothing is ignored on a method, so that no base type is looked up. -/
theorem resolve_eq_of_graphs (g g' : DeclarationGraph) (config : Config) (owner : Declaration)
    (m : Member) : resolve g' config owner m = resolve g config owner m := by
  simp only [resolve, ofMarked, DeclarationGraph.propagate, ignores_nothing]

/-- Of the declaration that a method stands in only the identity matters. -/
theorem resolve_eq_of_owners (g : DeclarationGraph) (config : Config) {owner' : Declaration}
    (h : owner'.identity = owner.identity) (m : Member) :
    resolve g config owner' m = resolve g config owner m := by
  simp only [resolve, warnings, location, h]

end Operation

namespace Facade

/-- The operations of a declaration in the order of its fragments and members. -/
def operationsOf (g : DeclarationGraph) (config : Config) (d : Declaration) : List Operation :=
  (resolveOperations g config d).filterMap (·.value?)

/-- How resolving a facade can end. -/
inductive Resolves (g : DeclarationGraph) (config : Config) (d : Declaration) :
    Resolution Facade → Prop
  | unmarked : d.marker? facadeMarker = none → Resolves g config d .skipped
  | unserved (marker : Annotation) (note : Event) : d.marker? facadeMarker = some marker →
      serviceType? d marker = none → Resolves g config d (.noted note)
  | served (marker : Annotation) (service : TypeExpr) (ds : List Diagnostic) (log : List Event) :
      d.marker? facadeMarker = some marker → serviceType? d marker = some service →
      (∀ e ∈ ds, e.IsAdvice) →
      Resolves g config d ⟨some (ofMarked d marker service (operationsOf g config d)), ds, log⟩

theorem recordDiagnostics_advice {identity : String} {ops : List Operation}
    (h : e ∈ recordDiagnostics identity ops) : e.IsAdvice := by
  obtain ⟨⟨op, envelope, first⟩, -, rfl⟩ := List.mem_map.mp h
  exact ⟨.inr rfl, rfl⟩

theorem resolveOperations_advice
    (h : e ∈ (resolveOperations g config d).flatMap (·.diagnostics)) : e.IsAdvice := by
  obtain ⟨r, hr, he⟩ := List.mem_flatMap.mp h
  obtain ⟨fragment, -, hr⟩ := List.mem_flatMap.mp hr
  obtain ⟨member, -, rfl⟩ := List.mem_map.mp hr
  exact Operation.resolve_advice he

theorem resolve_cases (g : DeclarationGraph) (config : Config) (d : Declaration) :
    Resolves g config d (resolve g config d) := by
  unfold resolve
  cases hm : d.marker? facadeMarker with
  | none => exact .unmarked hm
  | some marker =>
      cases hs : serviceType? d marker with
      | none => simpa only [hs] using Resolves.unserved marker _ hm hs
      | some service =>
          simp only [hs]
          refine .served marker service _ _ hm hs ?_
          intro e he
          rcases List.mem_append.mp he with he | he
          · exact resolveOperations_advice he
          · exact recordDiagnostics_advice he

theorem diagnostics_of_resolve {f : Facade} (h : (resolve g config d).value? = some f) :
    (resolve g config d).diagnostics = (resolveOperations g config d).flatMap (·.diagnostics) ++
      recordDiagnostics d.identity f.operations := by
  unfold resolve at h ⊢
  cases hm : d.marker? facadeMarker with
  | none => simp [hm, Resolution.skipped] at h
  | some marker =>
      cases hs : serviceType? d marker with
      | none => simp [hm, hs, Resolution.noted] at h
      | some service =>
          simp only [hm, hs, Option.some.injEq] at h ⊢
          rw [← h]

theorem diagnostics_of_unresolved (h : (resolve g config d).value? = none) :
    (resolve g config d).diagnostics = [] := by
  have hr := resolve_cases g config d
  generalize resolve g config d = r at h hr
  cases hr with
  | served => cases h
  | _ => rfl

theorem resolveOperations_located
    (h : e ∈ (resolveOperations g config d).flatMap (·.diagnostics)) : e.LocatedAt d.identity := by
  obtain ⟨r, hr, he⟩ := List.mem_flatMap.mp h
  obtain ⟨fragment, hfragment, hr⟩ := List.mem_flatMap.mp hr
  obtain ⟨member, -, rfl⟩ := List.mem_map.mp hr
  have hidentity : fragment.identity = d.identity := by
    simpa using (List.mem_filter.mp hfragment).2
  exact hidentity ▸ Operation.resolve_located he

theorem resolve_located (h : e ∈ (resolve g config d).diagnostics) : e.LocatedAt d.identity := by
  cases hr : (resolve g config d).value? with
  | none => simp [diagnostics_of_unresolved hr] at h
  | some f =>
      rw [diagnostics_of_resolve hr] at h
      rcases List.mem_append.mp h with h | h
      · exact resolveOperations_located h
      · obtain ⟨⟨op, envelope, first⟩, -, rfl⟩ := List.mem_map.mp h
        exact .inr ⟨op.sourceMember, rfl⟩

/-- The operations are those of the methods of all fragments, each as if declared by the facade itself. -/
theorem resolveOperations_eq (g : DeclarationGraph) (config : Config) (d : Declaration) :
    resolveOperations g config d =
      ((g.fragments d.identity).flatMap (·.methods)).map (Operation.resolve g config d) := by
  unfold resolveOperations
  rw [List.map_flatMap]
  refine List.flatMap_congr fun fragment hfragment => List.map_congr_left fun m _ => ?_
  have hidentity : fragment.identity = d.identity := by
    simpa using (List.mem_filter.mp hfragment).2
  exact Operation.resolve_eq_of_owners g config hidentity m

theorem source_of_resolve {f : Facade} (h : (resolve g config d).value? = some f) :
    f.source = d.identity := by
  have hr := resolve_cases g config d
  generalize resolve g config d = r at h hr
  cases hr with
  | served marker service ds log _ _ _ =>
      obtain rfl := Option.some.inj h
      rfl
  | _ => cases h

end Facade

end EndpointGen
