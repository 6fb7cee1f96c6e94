/- Resolving a dto: the ways it can end. It reports nothing but the refusal of a class without a
   partial fragment. -/
import EndpointGen.Dto.Basic
import EndpointGen.Proofs.Graph.Queries
import EndpointGen.Proofs.Report.Diagnostics

namespace EndpointGen

namespace Dto

variable {g : DeclarationGraph} {d : Declaration}

def Extensible (g : DeclarationGraph) (d : Declaration) : Prop :=
  ∃ f ∈ g.fragments d.identity, f.isPartial = true

/-- A declaration of the graph is one of its own fragments. -/
theorem extensible_iff (h : d ∈ g.declarations) :
    Extensible g d ↔ (d.isPartial || (g.fragments d.identity).any (·.isPartial)) = true := by
  rw [Bool.or_eq_true, List.any_eq_true]
  constructor
  · exact fun hf => .inr hf
  · rintro (hd | hf)
    · exact ⟨d, DeclarationGraph.mem_fragments.mpr ⟨h, rfl⟩, hd⟩
    · exact hf

/-- The entity type that a marker names, where the graph knows it. -/
def knownEntity? (g : DeclarationGraph) (marker : Annotation) : Option TypeExpr :=
  (entityType? marker).filter fun entity => (g.resolve? entity).isSome

/-- How resolving a declaration of the graph can end. -/
inductive Resolves (g : DeclarationGraph) (d : Declaration) : Resolution Dto → Prop
  | unmarked : d.marker? dtoMarker = none → Resolves g d .skipped
  | refused (marker : Annotation) : d.marker? dtoMarker = some marker → ¬ Extensible g d →
      Resolves g d (.refused (notPartial d))
  | noted (marker : Annotation) (note : Event) : d.marker? dtoMarker = some marker →
      Extensible g d → knownEntity? g marker = none → Resolves g d (.noted note)
  | resolved (marker : Annotation) (entity : TypeExpr) : d.marker? dtoMarker = some marker →
      Extensible g d → knownEntity? g marker = some entity →
      Resolves g d (.resolved (ofMarked g d marker entity) [])

theorem resolve_cases (h : d ∈ g.declarations) : Resolves g d (resolve g d) := by
  unfold resolve
  cases hm : d.marker? dtoMarker with
  | none => exact .unmarked hm
  | some marker =>
      by_cases hx : Extensible g d
      · simp only [if_pos ((extensible_iff h).mp hx)]
        cases he : entityType? marker with
        | none => exact .noted marker _ hm hx (by simp [knownEntity?, he])
        | some entity =>
            cases hr : g.resolve? entity with
            | none =>
                simp only [hr]
                exact .noted marker _ hm hx (by simp [knownEntity?, he, hr])
            | some _ =>
                simp only [hr]
                exact .resolved marker entity hm hx (by simp [knownEntity?, he, hr])
      · simp only [if_neg (mt (extensible_iff h).mpr hx)]
        exact .refused marker hm hx

theorem source_of_resolve {t : Dto} (hd : d ∈ g.declarations)
    (h : (resolve g d).value? = some t) : t.source = d.identity := by
  have hr := resolve_cases hd
  generalize resolve g d = r at h hr
  cases hr with
  | resolved marker entity _ _ _ =>
      obtain rfl : ofMarked g d marker entity = t := by simpa [Resolution.resolved] using h
      rfl
  | _ => cases h

theorem resolve_located {e : Diagnostic} (h : e ∈ (resolve g d).diagnostics) :
    e.LocatedAt d.identity := by
  unfold resolve at h
  split at h
  · cases h
  · split at h
    · split at h
      · cases h
      · split at h
        · cases h
        · cases h
    · obtain rfl := List.mem_singleton.mp h
      exact .inl rfl

end Dto

end EndpointGen
