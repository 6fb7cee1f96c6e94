/- Graphs that resolution cannot tell apart. From the same discovered declarations, members and base types
   aside, they resolve to the same descriptors and run to the same pass. -/
import EndpointGen.Proofs.Dto.Agreement
import EndpointGen.Proofs.Facade.Endpoints
import EndpointGen.Proofs.Pass.Work

namespace EndpointGen

theorem map_eq_of_map_eq {α β κ : Type} {xs ys : List α} {k : α → κ} {f f' : α → β}
    (h : ys.map k = xs.map k) (hf : ∀ y ∈ ys, ∀ x ∈ xs, k y = k x → f' y = f x) :
    ys.map f' = xs.map f := by
  induction xs generalizing ys with
  | nil =>
      obtain rfl := List.map_eq_nil_iff.mp h
      rfl
  | cons x xs ih =>
      obtain ⟨y, ys, rfl, hy, hys⟩ := List.map_eq_cons_iff.mp h
      have hfirst := hf y List.mem_cons_self x List.mem_cons_self hy
      have hrest := ih hys fun y' hy' x' hx' =>
        hf y' (List.mem_cons_of_mem y hy') x' (List.mem_cons_of_mem x hx')
      rw [List.map_cons, List.map_cons, hfirst, hrest]

/-- What resolution reads of a discovered declaration itself. -/
def Declaration.header (d : Declaration) : Declaration := { d with members := [], baseType? := none }

namespace DeclarationGraph

theorem discover_header (ds : List Declaration) :
    (ofList (ds.map Declaration.header)).discover = (ofList ds).discover.map Declaration.header :=
  discover_map (f := Declaration.header) (fun _ => rfl) (fun _ => rfl) ds

variable {g g' : DeclarationGraph} {config : Config}

namespace PropertiesAlikeOn

section Everywhere

variable (h : PropertiesAlikeOn (fun _ => True) g g')
include h

theorem dto (d : Declaration) : Dto.resolve g' d = Dto.resolve g d :=
  Dto.resolve_agree h fun _ _ => trivial

theorem dto_unit (config : Config) (t : Dto) : t.unit g' config = t.unit g config :=
  Dto.unit_agree h fun _ _ => trivial

theorem dto_work (config : Config) (d : Declaration) :
    Pending.ofDto g' config d = Pending.ofDto g config d :=
  Dto.pending_agree h fun _ _ => trivial

end Everywhere

/-- Where the declarations that are discovered resolve alike in pairs, so do the graphs. -/
theorem same_pass (h : PropertiesAlikeOn (fun _ => True) g g') {k : Declaration → Declaration}
    (hidentity : ∀ d, (k d).identity = d.identity)
    (hfound : g'.discover.map k = g.discover.map k)
    (hfacade : ∀ d' ∈ g'.discover.facades, ∀ d ∈ g.discover.facades, k d' = k d →
      Facade.resolve g' config d' = Facade.resolve g config d)
    (hdto : ∀ d' d, k d' = k d → Dto.resolve g d' = Dto.resolve g d) :
    g'.resolveAll config = g.resolveAll config ∧ g'.run config = g.run config := by
  obtain ⟨hfacades, hdtos, hlog⟩ := Discovery.mk.inj hfound
  have hsame : ∀ d' d, k d' = k d → d'.identity = d.identity := by
    intro d' d hk
    rw [← hidentity d', hk, hidentity]
  constructor
  · have hresolved : g'.discover.facades.map (Facade.resolve g' config) =
        g.discover.facades.map (Facade.resolve g config) :=
      map_eq_of_map_eq hfacades hfacade
    have hresolved' : g'.discover.dtos.map (Dto.resolve g') = g.discover.dtos.map (Dto.resolve g) :=
      map_eq_of_map_eq hdtos fun d' _ d _ hk => (h.dto d').trans (hdto d' d hk)
    simp only [resolveAll, hresolved, hresolved', hlog]
  · have hwork : g'.discover.facades.map (Pending.ofFacade g' config) =
        g.discover.facades.map (Pending.ofFacade g config) := by
      refine map_eq_of_map_eq hfacades fun d' hd' d hd hk => ?_
      rw [Pending.ofFacade, Pending.ofFacade, hsame d' d hk, hfacade d' hd' d hd hk]
    have hwork' : g'.discover.dtos.map (Pending.ofDto g' config) =
        g.discover.dtos.map (Pending.ofDto g config) := by
      refine map_eq_of_map_eq hdtos fun d' _ d _ hk => ?_
      rw [h.dto_work, Pending.ofDto, Pending.ofDto, hsame d' d hk, hdto d' d hk]
    simp only [run, pending, hwork, hwork', hlog]

/-- The header of a declaration is all that resolving it reads of the declaration itself. -/
theorem same_pass_of_served (h : PropertiesAlikeOn (fun _ => True) g g')
    (hfound : g'.discover.map Declaration.header = g.discover.map Declaration.header)
    (hfacade : ∀ d ∈ g.discover.facades, Facade.resolve g' config d = Facade.resolve g config d) :
    g'.resolveAll config = g.resolveAll config ∧ g'.run config = g.run config := by
  refine h.same_pass (k := Declaration.header) (fun _ => rfl) hfound ?_ ?_
  · intro d' _ d hd hheader
    have hresolved : Facade.resolve g' config d'.header = Facade.resolve g' config d.header := by
      rw [hheader]
    exact hresolved.trans (hfacade d hd)
  · intro d' d hheader
    have hresolved : Dto.resolve g d'.header = Dto.resolve g d.header := by rw [hheader]
    exact hresolved

end PropertiesAlikeOn

namespace AlikeOn

variable (h : AlikeOn (fun _ => True) g g')
include h

theorem facade (config : Config) (d : Declaration) :
    Facade.resolve g' config d = Facade.resolve g config d :=
  Facade.resolve_eq_of_members (h.members d.identity trivial)

/-- Members and base types of the discovered declarations themselves are not read. -/
theorem same_pass_of_headers
    (hfound : g'.discover.map Declaration.header = g.discover.map Declaration.header)
    (config : Config) :
    g'.resolveAll config = g.resolveAll config ∧ g'.run config = g.run config :=
  h.propertiesAlike.same_pass_of_served hfound fun d _ => h.facade config d

end AlikeOn

end DeclarationGraph

end EndpointGen
