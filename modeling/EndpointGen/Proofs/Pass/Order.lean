/- The order of declarations: a reordering that keeps the fragments of each identity in order permutes what
   a graph resolves to, and the output of a run as long as no output key is taken twice. -/
import EndpointGen.Proofs.Pass.Alike
import EndpointGen.Proofs.Pass.Ownership

namespace EndpointGen

/-- Declarations in another order, with the fragments of each identity in the same order among themselves. -/
structure Reorders (ds ds' : List Declaration) : Prop where
  perm : ds'.Perm ds
  fragments : ∀ name, ds'.filter (fun d => d.identity = name) = ds.filter fun d => d.identity = name

theorem Reorders.swap (before after : List Declaration) {d e : Declaration}
    (h : d.identity ≠ e.identity) :
    Reorders (before ++ d :: e :: after) (before ++ e :: d :: after) := by
  refine ⟨(List.Perm.swap d e after).append_left before, fun name => ?_⟩
  rw [List.filter_append, List.filter_append]
  by_cases hd : d.identity = name
  · have he : e.identity ≠ name := fun he => h (hd.trans he.symm)
    simp [hd, he]
  · simp [List.filter_cons, hd]

/-- What two graphs resolve to is the same up to order, and one identity has equal descriptors. -/
structure Resolved.Permutes (r r' : Resolved) : Prop where
  facades : r'.facades.Perm r.facades
  dtos : r'.dtos.Perm r.dtos
  diagnostics : r'.diagnostics.Perm r.diagnostics
  same_facade : ∀ f' ∈ r'.facades, ∀ f ∈ r.facades, f'.source = f.source → f' = f
  same_dto : ∀ t' ∈ r'.dtos, ∀ t ∈ r.dtos, t'.source = t.source → t' = t

namespace DeclarationGraph

variable {g : DeclarationGraph} {config : Config}

theorem facade_eq_of_source {f f' : Facade} (hf : f ∈ (g.resolveAll config).facades)
    (hf' : f' ∈ (g.resolveAll config).facades) (h : f'.source = f.source) : f' = f := by
  obtain ⟨r, hr, hresolved⟩ := List.mem_filterMap.mp hf
  obtain ⟨d, hd, rfl⟩ := List.mem_map.mp hr
  have hsource : f'.source = d.identity := h.trans (Facade.source_of_resolve hresolved)
  have hresolved' := (facade_resolved_iff hd).mpr ⟨hf', hsource⟩
  exact Option.some.inj (hresolved'.symm.trans hresolved)

theorem dto_eq_of_source {t t' : Dto} (ht : t ∈ (g.resolveAll config).dtos)
    (ht' : t' ∈ (g.resolveAll config).dtos) (h : t'.source = t.source) : t' = t := by
  simp only [resolveAll, List.filterMap_map] at ht ht'
  obtain ⟨d, hd, hr⟩ := List.mem_filterMap.mp ht
  obtain ⟨d', hd', hr'⟩ := List.mem_filterMap.mp ht'
  rw [Dto.source_of_resolve (marked_of_mem_dtos hd).1 hr,
    Dto.source_of_resolve (marked_of_mem_dtos hd').1 hr'] at h
  obtain rfl := eq_of_discovered (List.mem_append_right _ hd) (List.mem_append_right _ hd') h
  exact Option.some.inj (hr'.symm.trans hr)

end DeclarationGraph

namespace Reorders

open DeclarationGraph

variable {ds ds' : List Declaration} (h : Reorders ds ds')
include h

theorem fragments_eq (name : String) : (ofList ds').fragments name = (ofList ds).fragments name := by
  have hkept := h.fragments name
  simpa only [DeclarationGraph.fragments, ofList, beq_eq_decide] using hkept

theorem alike : AlikeOn (fun _ => True) (ofList ds) (ofList ds') := by
  refine (AgreeOn.ofList (fun name _ => h.fragments_eq name) ?_).alike
  intros
  trivial

theorem discovered_iff {d : Declaration} :
    d ∈ (ofList ds').discover.declarations ↔ d ∈ (ofList ds).discover.declarations := by
  rw [mem_discovered_iff, mem_discovered_iff, h.fragments_eq]

theorem discover_facades : (ofList ds').discover.facades.Perm (ofList ds).discover.facades := by
  refine (List.perm_ext_iff_of_nodup (discover_facades_nodup _) (discover_facades_nodup _)).mpr ?_
  intro d
  rw [mem_facades_of_discovered, mem_facades_of_discovered, h.discovered_iff]

theorem discover_dtos : (ofList ds').discover.dtos.Perm (ofList ds).discover.dtos := by
  refine (List.perm_ext_iff_of_nodup (discover_dtos_nodup _) (discover_dtos_nodup _)).mpr ?_
  intro d
  rw [mem_dtos_of_discovered, mem_dtos_of_discovered, h.discovered_iff]

theorem resolved (config : Config) :
    ((ofList ds).resolveAll config).Permutes ((ofList ds').resolveAll config) := by
  have hfacades : ((ofList ds').discover.facades.map (Facade.resolve (ofList ds') config)).Perm
      ((ofList ds).discover.facades.map (Facade.resolve (ofList ds) config)) := by
    rw [List.map_congr_left fun d _ => h.alike.facade config d]
    exact h.discover_facades.map _
  have hdtos : ((ofList ds').discover.dtos.map (Dto.resolve (ofList ds'))).Perm
      ((ofList ds).discover.dtos.map (Dto.resolve (ofList ds))) := by
    rw [List.map_congr_left fun d _ => h.alike.propertiesAlike.dto d]
    exact h.discover_dtos.map _
  have hresolved : ((ofList ds').resolveAll config).facades.Perm
      ((ofList ds).resolveAll config).facades := hfacades.filterMap _
  have hresolved' : ((ofList ds').resolveAll config).dtos.Perm
      ((ofList ds).resolveAll config).dtos := hdtos.filterMap _
  refine ⟨hresolved, hresolved', ?_, ?_, ?_⟩
  · exact (hfacades.flatMap_right _).append (hdtos.flatMap_right _)
  · intro f' hf' f hf hsource
    exact facade_eq_of_source hf (hresolved.subset hf') hsource
  · intro t' ht' t ht hsource
    exact dto_eq_of_source ht (hresolved'.subset ht') hsource

theorem candidates (config : Config) :
    (((ofList ds').resolveAll config).candidates (ofList ds') config).Perm
      (((ofList ds).resolveAll config).candidates (ofList ds) config) := by
  have hunits : ∀ t ∈ ((ofList ds').resolveAll config).dtos,
      (⟨t.source, [t.unit (ofList ds') config]⟩ : Candidate) =
        ⟨t.source, [t.unit (ofList ds) config]⟩ := by
    intro t _
    rw [h.alike.propertiesAlike.dto_unit]
  have hresolved := h.resolved config
  unfold Resolved.candidates
  rw [List.map_congr_left hunits]
  exact (hresolved.facades.map _).append (hresolved.dtos.map _)

end Reorders

namespace DeclarationGraph

/-- The order of declarations shows in the order of the output only, as long as no key is taken twice; and
    whether one is does not depend on the order. -/
theorem reorder_permutes {ds ds' : List Declaration} (h : Reorders ds ds') (config : Config) :
    ((ofList ds).resolveAll config).Permutes ((ofList ds').resolveAll config) ∧
      ((∀ e ∈ ((ofList ds).run config).diagnostics, e.code ≠ .duplicateOutputKey) →
        (∀ e ∈ ((ofList ds').run config).diagnostics, e.code ≠ .duplicateOutputKey) ∧
          ((ofList ds').run config).units.Perm ((ofList ds).run config).units ∧
          ((ofList ds').run config).diagnostics.Perm ((ofList ds).run config).diagnostics) := by
  refine ⟨h.resolved config, fun hquiet => ?_⟩
  obtain ⟨hdistinct, hunits⟩ := (ofList ds).run_unrefused config
  obtain ⟨hdistinct', hunits'⟩ := (ofList ds').run_unrefused config
  -- Distinct keys are a property of the candidates whatever their order.
  have hquiet' : ∀ e ∈ ((ofList ds').run config).diagnostics, e.code ≠ .duplicateOutputKey := by
    rw [hdistinct', ((h.candidates config).flatMap_right _).nodup_iff]
    exact hdistinct.mp hquiet
  obtain ⟨hall, hfindings⟩ := hunits hquiet
  obtain ⟨hall', hfindings'⟩ := hunits' hquiet'
  refine ⟨hquiet', ?_, ?_⟩
  · rw [hall, hall']
    exact (h.candidates config).flatMap_right _
  · rw [hfindings, hfindings']
    exact (h.resolved config).diagnostics

def listFacade (identity : String) : Declaration :=
  { Declaration.bare .interfaceDecl identity "Acme" with
    annotations := [.bare "HttpFacade"]
    members := [{ Member.bare .method "List" (.primitive "string") with annotations := [.bare "Get"] }] }

def interleaved : List Declaration :=
  [listFacade "Acme.IUsers", listFacade "Acme.IOrders", listFacade "Acme.IUsers"]

def regrouped : List Declaration :=
  [listFacade "Acme.IOrders", listFacade "Acme.IUsers", listFacade "Acme.IUsers"]

/-- A facade that comes to stand before the first of two fragments of another. -/
theorem regrouped_permutes :
    Reorders interleaved regrouped ∧
      (∀ e ∈ ((ofList interleaved).run .default).diagnostics, e.code ≠ .duplicateOutputKey) ∧
      ((ofList regrouped).run .default).units.Perm ((ofList interleaved).run .default).units := by
  have hreorders : Reorders interleaved regrouped := .swap [] [listFacade "Acme.IUsers"] (by decide)
  have hdiagnostics : ((ofList interleaved).run .default).diagnostics = [] := rfl
  have hquiet : ∀ e ∈ ((ofList interleaved).run .default).diagnostics,
      e.code ≠ .duplicateOutputKey := by
    rw [hdiagnostics]
    simp
  exact ⟨hreorders, hquiet, ((reorder_permutes hreorders .default).2 hquiet).2.1⟩

end DeclarationGraph

end EndpointGen
