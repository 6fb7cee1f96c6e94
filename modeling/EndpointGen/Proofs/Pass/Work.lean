/- The work that a pass does for one discovered declaration before it is committed. -/
import EndpointGen.Pass
import EndpointGen.Proofs.Discovery
import EndpointGen.Proofs.Dto.Resolution
import EndpointGen.Proofs.Facade.Resolution

namespace EndpointGen

namespace Facade

theorem controllerKey_ne_requestsKey (f : Facade) : f.controllerKey ≠ f.requestsKey := by
  intro h
  have hl := congrArg String.toList h
  simp [controllerKey, controllerClass, requestsKey, String.toList_append] at hl

theorem units_ne_nil (f : Facade) (config : Config) : f.units config ≠ [] := by
  simp [units]

theorem units_keys_nodup (f : Facade) (config : Config) :
    ((f.units config).map (·.key)).Nodup := by
  unfold units
  by_cases h : f.envelopes.isEmpty = true
  · simp [h]
  · simp [h, f.controllerKey_ne_requestsKey]

end Facade

namespace DeclarationGraph

variable {g : DeclarationGraph} {config : Config} {d : Declaration}

/-- The descriptor of a facade is found among all by its source. -/
theorem facade_resolved_iff {f : Facade} (hd : d ∈ g.discover.facades) :
    (Facade.resolve g config d).value? = some f ↔
      f ∈ (g.resolveAll config).facades ∧ f.source = d.identity := by
  simp only [resolveAll, List.filterMap_map, List.mem_filterMap, Function.comp_apply]
  constructor
  · exact fun h => ⟨⟨d, hd, h⟩, Facade.source_of_resolve h⟩
  · rintro ⟨⟨d', hd', h⟩, hsource⟩
    have hsame : d'.identity = d.identity := (Facade.source_of_resolve h).symm.trans hsource
    obtain rfl := eq_of_discovered (List.mem_append_left _ hd) (List.mem_append_left _ hd') hsame
    exact h

/-- The units generated from the descriptor of a discovered declaration. -/
def generated? (g : DeclarationGraph) (config : Config) (d : Declaration) :
    Option (List SourceUnit) :=
  if (d.marker? facadeMarker).isSome then
    (Facade.resolve g config d).value?.map fun f => f.units config
  else (Dto.resolve g d).value?.map fun t => [t.unit g config]

/-- The findings about a discovered declaration before its units are committed. -/
def findings (g : DeclarationGraph) (config : Config) (d : Declaration) : List Diagnostic :=
  if (d.marker? facadeMarker).isSome then (Facade.resolve g config d).diagnostics
  else (Dto.resolve g d).diagnostics

theorem generated?_units {us : List SourceUnit} (h : g.generated? config d = some us) :
    us ≠ [] ∧ (us.map (·.key)).Nodup := by
  unfold generated? at h
  split at h
  · obtain ⟨f, -, rfl⟩ := Option.map_eq_some_iff.mp h
    exact ⟨f.units_ne_nil config, f.units_keys_nodup config⟩
  · obtain ⟨t, -, rfl⟩ := Option.map_eq_some_iff.mp h
    simp

/-- A facade without a service, or a dto whose entity type is not given or not in the graph. -/
def Unresolvable (g : DeclarationGraph) (d : Declaration) : Prop :=
  (d ∈ g.discover.facades ∧
    ∃ marker, d.marker? facadeMarker = some marker ∧ Facade.serviceType? d marker = none) ∨
  (d ∈ g.discover.dtos ∧ Dto.Extensible g d ∧
    ∃ marker, d.marker? dtoMarker = some marker ∧ Dto.knownEntity? g marker = none)

/-- A dto of which no fragment is partial. -/
def Closed (g : DeclarationGraph) (d : Declaration) : Prop :=
  d ∈ g.discover.dtos ∧ ¬ Dto.Extensible g d

/-- What the work for a discovered declaration can be: its units and its findings. -/
inductive Worked (g : DeclarationGraph) (d : Declaration) :
    Option (List SourceUnit) → List Diagnostic → Prop
  | generated (us : List SourceUnit) (ds : List Diagnostic) : (∀ e ∈ ds, e.IsAdvice) →
      ¬ g.Unresolvable d → ¬ g.Closed d → Worked g d (some us) ds
  | unresolvable : g.Unresolvable d → ¬ g.Closed d → Worked g d none []
  | closed : g.Closed d → ¬ g.Unresolvable d → Worked g d none [Dto.notPartial d]

theorem worked_facade (config : Config) (h : d ∈ g.discover.facades) :
    Worked g d (g.generated? config d) (g.findings config d) := by
  have hmarked := (marked_of_mem_facades h).2
  have hdto := not_mem_dtos_of_mem_facades h
  have hclosed : ¬ g.Closed d := fun hc => hdto hc.1
  have hr := Facade.resolve_cases g config d
  simp only [generated?, findings, if_pos hmarked]
  generalize Facade.resolve g config d = r at hr ⊢
  cases hr with
  | unmarked hm => simp [hm] at hmarked
  | unserved marker note hm hs => exact .unresolvable (.inl ⟨h, marker, hm, hs⟩) hclosed
  | served marker service ds log hm hs hadvice =>
      refine .generated _ ds hadvice ?_ hclosed
      rintro (⟨-, marker', hm', hs'⟩ | ⟨hd, -⟩)
      · obtain rfl : marker = marker' := Option.some.inj (hm.symm.trans hm')
        simp [hs] at hs'
      · exact hdto hd

theorem worked_dto (config : Config) (h : d ∈ g.discover.dtos) :
    Worked g d (g.generated? config d) (g.findings config d) := by
  obtain ⟨hmem, hnone, hmarked⟩ := marked_of_mem_dtos h
  have hfacade : d ∉ g.discover.facades := fun hf => not_mem_dtos_of_mem_facades hf h
  have hr := Dto.resolve_cases hmem
  simp only [generated?, findings, hnone, Option.isSome_none, Bool.false_eq_true, if_false]
  generalize Dto.resolve g d = r at hr ⊢
  cases hr with
  | unmarked hm => simp [hm] at hmarked
  | refused marker hm hx =>
      refine .closed ⟨h, hx⟩ ?_
      rintro (⟨hf, -⟩ | ⟨-, hx', -⟩)
      · exact hfacade hf
      · exact hx hx'
  | noted marker note hm hx hk =>
      exact .unresolvable (.inr ⟨h, hx, marker, hm, hk⟩) fun hc => hc.2 hx
  | resolved marker entity hm hx hk =>
      refine .generated _ [] (by simp) ?_ fun hc => hc.2 hx
      rintro (⟨hf, -⟩ | ⟨-, -, marker', hm', hk'⟩)
      · exact hfacade hf
      · obtain rfl : marker = marker' := Option.some.inj (hm.symm.trans hm')
        simp [hk] at hk'

theorem worked (config : Config) (h : d ∈ g.discover.declarations) :
    Worked g d (g.generated? config d) (g.findings config d) := by
  rcases List.mem_append.mp h with h | h
  · exact worked_facade config h
  · exact worked_dto config h

/-- Before a commit the only error is that of a class without a partial fragment. -/
theorem mem_findings (h : d ∈ g.discover.declarations) {e : Diagnostic}
    (he : e ∈ g.findings config d) : e.IsAdvice ∨ e = Dto.notPartial d := by
  have hw := worked config h
  generalize g.generated? config d = us? at hw
  generalize g.findings config d = ds at hw he
  cases hw with
  | generated us ds hadvice _ _ => exact .inl (hadvice e he)
  | unresolvable => cases he
  | closed => exact .inr (List.mem_singleton.mp he)

end DeclarationGraph

namespace Pending

def ofDeclaration (g : DeclarationGraph) (config : Config) (d : Declaration) : Pending :=
  if (d.marker? facadeMarker).isSome then ofFacade g config d else ofDto g config d

variable {g : DeclarationGraph} {config : Config} {d : Declaration}

@[simp] theorem ofDeclaration_identity : (ofDeclaration g config d).identity = d.identity := by
  unfold ofDeclaration
  split <;> rfl

@[simp] theorem ofDeclaration_units :
    (ofDeclaration g config d).units = (g.generated? config d).getD [] := by
  unfold ofDeclaration DeclarationGraph.generated?
  split <;> rfl

@[simp] theorem ofDeclaration_diagnostics :
    (ofDeclaration g config d).diagnostics = g.findings config d := by
  unfold ofDeclaration DeclarationGraph.findings
  split <;> rfl

end Pending

namespace DeclarationGraph

theorem pending_eq (g : DeclarationGraph) (config : Config) :
    g.pending config = g.discover.declarations.map (Pending.ofDeclaration g config) := by
  unfold pending Discovery.declarations
  rw [List.map_append]
  congr 1
  · refine List.map_congr_left fun d hd => ?_
    simp [Pending.ofDeclaration, (marked_of_mem_facades hd).2]
  · refine List.map_congr_left fun d hd => ?_
    simp [Pending.ofDeclaration, (marked_of_mem_dtos hd).2.1]

end DeclarationGraph

end EndpointGen
