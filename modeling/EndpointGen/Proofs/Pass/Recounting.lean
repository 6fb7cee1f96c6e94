/- The log of a pass and its diagnostics: what is reported while declarations are resolved and committed
   is logged when it is reported, and stands in the result once and in the same order. -/
import EndpointGen.Proofs.Pass.Commit
import EndpointGen.Proofs.Pass.Work
import EndpointGen.Proofs.Report.Recounting

namespace EndpointGen

namespace DeclarationGraph

variable {g : DeclarationGraph}

theorem ascentLog_silent (identity ancestor : String) :
    Recounts (g.ascentLog identity ancestor) [] := by
  unfold ascentLog
  split
  · exact .silent rfl
  · exact .nil

theorem ignoresLog_silent (ignored : List TypeExpr) (kind : String) :
    Recounts (g.ignoresLog ignored kind) [] := by
  apply Recounts.flatMap_silent
  rintro ⟨start, ancestor⟩ -
  exact ascentLog_silent start ancestor

theorem propagateLog_silent (ignored : List TypeExpr) (consumed : Annotation → Bool)
    (annotations : List Annotation) :
    Recounts (g.propagateLog ignored consumed annotations) [] := by
  apply Recounts.flatMap_silent
  intro a _
  exact ignoresLog_silent ignored a.kind

theorem discover_silent (g : DeclarationGraph) : Recounts g.discover.log [] := by
  refine Recounts.append_silent (Recounts.flatMap_silent ?_) (.silent rfl)
  intro s _
  cases s with
  | unmarked => exact .nil
  | repeated d => exact .silent rfl
  | facade d alsoDto =>
      cases alsoDto with
      | false => exact .nil
      | true => exact .silent rfl
  | dto d => exact .nil

end DeclarationGraph

namespace Operation

theorem resolve_recounted (g : DeclarationGraph) (config : Config) (owner : Declaration)
    (m : Member) : (resolve g config owner m).Recounted := by
  rw [resolve_eq]
  split
  · exact Resolution.recounted_resolved _ _
  · exact Resolution.recounted_skipped

end Operation

namespace Facade

theorem resolveOperations_recounts (g : DeclarationGraph) (config : Config) (d : Declaration) :
    Recounts ((resolveOperations g config d).flatMap (·.log))
      ((resolveOperations g config d).flatMap (·.diagnostics)) := by
  apply Recounts.flatMap
  intro r hr
  rw [resolveOperations_eq] at hr
  obtain ⟨m, -, rfl⟩ := List.mem_map.mp hr
  exact Operation.resolve_recounted g config d m

theorem resolve_recounted (g : DeclarationGraph) (config : Config) (d : Declaration) :
    (resolve g config d).Recounted := by
  unfold resolve
  cases d.marker? facadeMarker with
  | none => exact Resolution.recounted_skipped
  | some marker =>
      cases hservice : serviceType? d marker with
      | none =>
          simp only [hservice]
          exact Resolution.recounted_noted rfl
      | some service =>
          simp only [hservice]
          have hfindings := (resolveOperations_recounts g config d).append
            (Recounts.reported (recordDiagnostics d.identity (operationsOf g config d)))
          exact hfindings.append_silent (.silent rfl)

end Facade

namespace Dto

variable {g : DeclarationGraph}

theorem resolve_recounted (g : DeclarationGraph) (d : Declaration) : (resolve g d).Recounted := by
  unfold resolve
  split
  · exact Resolution.recounted_skipped
  · split
    · split
      · exact Resolution.recounted_noted rfl
      · split
        · exact Resolution.recounted_noted rfl
        · exact Resolution.recounted_resolved _ _
    · exact Resolution.recounted_refused _

theorem decisionLog_silent (t : Dto) (p : Member) : Recounts (t.decisionLog g p) [] := by
  unfold decisionLog
  split
  · exact .nil
  · exact .nil
  · exact .nil
  · apply Recounts.flatMap_silent
    intro a _
    exact DeclarationGraph.ignoresLog_silent t.ignoredAttributeTypes a.kind

theorem projectionLog_silent (t : Dto) : Recounts (t.projectionLog g) [] := by
  apply Recounts.flatMap_silent
  intro p _
  refine (t.decisionLog_silent p).append_silent ?_
  cases t.skipReason? g p with
  | some reason => exact .silent rfl
  | none => exact DeclarationGraph.propagateLog_silent _ _ _

end Dto

namespace Pending

variable {g : DeclarationGraph} {config : Config} {d : Declaration}

def Recounted (w : Pending) : Prop := Recounts w.log w.diagnostics

theorem ofFacade_recounted : (ofFacade g config d).Recounted := Facade.resolve_recounted g config d

theorem ofDto_recounted : (ofDto g config d).Recounted := by
  refine Recounts.append_silent (Dto.resolve_recounted g d) ?_
  cases (Dto.resolve g d).value? with
  | none => exact .nil
  | some t => exact t.projectionLog_silent

theorem recounted_of_mem {w : Pending} (h : w ∈ g.pending config) : w.Recounted := by
  rcases List.mem_append.mp h with h | h
  · obtain ⟨d, -, rfl⟩ := List.mem_map.mp h
    exact ofFacade_recounted
  · obtain ⟨d, -, rfl⟩ := List.mem_map.mp h
    exact ofDto_recounted

end Pending

namespace Pass

variable {p : Pass} {w : Pending}

def Recounted (p : Pass) : Prop := Recounts p.log p.diagnostics

/-- A refusal is logged after all that was logged for its declaration, and its units never are. -/
theorem Recounted.commit (h : p.Recounted) (hw : w.Recounted) : (p.commit w).Recounted := by
  have hboth : Recounts (p.log ++ w.log) (p.diagnostics ++ w.diagnostics) := h.append hw
  unfold Pass.commit
  split
  · next key owner _ => exact hboth.append (.reported [duplicateKey w.identity key owner])
  · refine hboth.append_silent ?_
    rw [List.map_eq_flatMap]
    apply Recounts.flatMap_silent
    intro u _
    exact .silent rfl

theorem Recounted.foldl_commit {ws : List Pending} (h : p.Recounted)
    (hws : ∀ w ∈ ws, w.Recounted) : (ws.foldl Pass.commit p).Recounted := by
  induction ws generalizing p with
  | nil => exact h
  | cons w ws ih =>
      obtain ⟨hw, hws⟩ := List.forall_mem_cons.mp hws
      exact ih (h.commit hw) hws

end Pass

namespace DeclarationGraph

theorem run_recounted (g : DeclarationGraph) (config : Config) : (g.run config).Recounted := by
  have hstart : ({ Pass.empty with log := g.discover.log } : Pass).Recounted := discover_silent g
  have hpending : ∀ w ∈ g.pending config, w.Recounted := fun w hw => Pending.recounted_of_mem hw
  have hcommitted := hstart.foldl_commit hpending
  exact hcommitted.append_silent (.silent rfl)

theorem resolveAll_recounts (g : DeclarationGraph) (config : Config) :
    Recounts (g.resolveAll config).log (g.resolveAll config).diagnostics := by
  have hfacades : Recounts ((g.discover.facades.map (Facade.resolve g config)).flatMap (·.log))
      ((g.discover.facades.map (Facade.resolve g config)).flatMap (·.diagnostics)) := by
    apply Recounts.flatMap
    intro r hr
    obtain ⟨d, -, rfl⟩ := List.mem_map.mp hr
    exact Facade.resolve_recounted g config d
  have hdtos : Recounts ((g.discover.dtos.map (Dto.resolve g)).flatMap (·.log))
      ((g.discover.dtos.map (Dto.resolve g)).flatMap (·.diagnostics)) := by
    apply Recounts.flatMap
    intro r hr
    obtain ⟨d, -, rfl⟩ := List.mem_map.mp hr
    exact Dto.resolve_recounted g d
  exact ((discover_silent g).silent_append hfacades).append hdtos

/-- The events of a pass that carry a diagnostic code, read in order, are its diagnostics in order, errors
    on the error level and the others as warnings; so are those of resolving alone. -/
theorem findings_logged (g : DeclarationGraph) (config : Config) :
    (g.run config).log.filterMap Event.finding? =
        (g.run config).diagnostics.map Diagnostic.finding ∧
      (g.resolveAll config).log.filterMap Event.finding? =
        (g.resolveAll config).diagnostics.map Diagnostic.finding :=
  ⟨g.run_recounted config, g.resolveAll_recounts config⟩

end DeclarationGraph

end EndpointGen
