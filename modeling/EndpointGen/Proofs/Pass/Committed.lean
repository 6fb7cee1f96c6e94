/- The facades and dtos whose units a run has. -/
import EndpointGen.Proofs.Pass.Commit
import EndpointGen.Proofs.Pass.Work

namespace EndpointGen

namespace DeclarationGraph

variable {g : DeclarationGraph} {config : Config}

/-- The resolved facades of which a run has the units. -/
def committedFacades (g : DeclarationGraph) (config : Config) : List Facade :=
  (g.resolveAll config).facades.filter fun f => (g.run config).Owns f.source

def committedDtos (g : DeclarationGraph) (config : Config) : List Dto :=
  (g.resolveAll config).dtos.filter fun t => (g.run config).Owns t.source

theorem mem_facades_iff {f : Facade} :
    f ∈ (g.resolveAll config).facades ↔
      ∃ d ∈ g.discover.facades, (Facade.resolve g config d).value? = some f := by
  simp [resolveAll, List.mem_filterMap]

theorem pending_identities_nodup (g : DeclarationGraph) (config : Config) :
    ((g.pending config).map (·.identity)).Nodup := by
  rw [pending_eq, List.map_map]
  simpa [Function.comp_def] using g.discover_identities_nodup

theorem mem_units_run {u : SourceUnit} :
    u ∈ (g.run config).units ↔
      ∃ w ∈ g.pending config, u ∈ w.units ∧ (g.run config).Owns w.identity := by
  have hnone : ∀ w ∈ g.pending config,
      ¬ ({ Pass.empty with log := g.discover.log } : Pass).Owns w.identity := by
    rintro w - ⟨key, hkey⟩
    cases hkey
  have hunits := Pass.mem_units_foldl_commit (u := u) (g.pending_identities_nodup config) hnone
  exact hunits.trans (or_iff_right List.not_mem_nil)

/-- The units of the owned work for some declarations are the units made of what these resolve to. -/
theorem exists_units_iff {α : Type} {ds : List Declaration} {value? : Declaration → Option α}
    {source : α → String} {units : α → List SourceUnit} {owned : String → Prop} {u : SourceUnit}
    (hsource : ∀ d ∈ ds, ∀ x, value? d = some x → source x = d.identity) :
    (∃ d ∈ ds, u ∈ ((value? d).map units).getD [] ∧ owned d.identity) ↔
      ∃ x ∈ ds.filterMap value?, owned (source x) ∧ u ∈ units x := by
  constructor
  · rintro ⟨d, hd, hu, howned⟩
    cases hvalue : value? d with
    | none => simp [hvalue] at hu
    | some x =>
        have hx : x ∈ ds.filterMap value? := List.mem_filterMap.mpr ⟨d, hd, hvalue⟩
        exact ⟨x, hx, hsource d hd x hvalue ▸ howned, by simpa [hvalue] using hu⟩
  · rintro ⟨x, hx, howned, hu⟩
    obtain ⟨d, hd, hvalue⟩ := List.mem_filterMap.mp hx
    exact ⟨d, hd, by simpa [hvalue] using hu, hsource d hd x hvalue ▸ howned⟩

/-- The units of a run are all those of the committed facades and dtos. -/
theorem mem_units_run_iff {u : SourceUnit} :
    u ∈ (g.run config).units ↔
      (∃ f ∈ g.committedFacades config, u ∈ f.units config) ∨
        ∃ t ∈ g.committedDtos config, u = t.unit g config := by
  have hfacades : (∃ d ∈ g.discover.facades, u ∈ (Pending.ofFacade g config d).units ∧
      (g.run config).Owns d.identity) ↔ ∃ f ∈ g.committedFacades config, u ∈ f.units config := by
    simp only [committedFacades, resolveAll, List.mem_filter, List.filterMap_map, decide_eq_true_eq,
      and_assoc]
    exact exists_units_iff fun d _ f hf => Facade.source_of_resolve hf
  have hdtos : (∃ d ∈ g.discover.dtos, u ∈ (Pending.ofDto g config d).units ∧
      (g.run config).Owns d.identity) ↔ ∃ t ∈ g.committedDtos config, u ∈ [t.unit g config] := by
    simp only [committedDtos, resolveAll, List.mem_filter, List.filterMap_map, decide_eq_true_eq,
      and_assoc]
    exact exists_units_iff fun d hd t ht => Dto.source_of_resolve (marked_of_mem_dtos hd).1 ht
  simp only [List.mem_singleton] at hdtos
  rw [mem_units_run, ← hfacades, ← hdtos]
  simp only [pending, List.mem_append, or_and_right, exists_or, List.mem_map,
    exists_exists_and_eq_and]
  rfl

end DeclarationGraph

end EndpointGen
