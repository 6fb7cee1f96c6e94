/- Logs that recount diagnostics: the events of a log that carry a diagnostic code say, in order and with
   nothing left out or repeated, what a list of diagnostics says. -/
import EndpointGen.Report.Resolution

namespace EndpointGen

/-- A diagnostic as far as a log shows it. -/
structure Finding where
  level : Level
  code : String
  location : String
  message : String
deriving DecidableEq, Repr

/-- What is read off an event that carries a diagnostic code, whatever the event is otherwise. -/
def Event.finding? (e : Event) : Option Finding :=
  (e.fields.lookup "code").map fun code =>
    ⟨e.level, code, (e.fields.lookup "location").getD "", e.message⟩

def Diagnostic.finding (d : Diagnostic) : Finding :=
  ⟨if d.isError then .error else .warn, d.code.text, d.location, d.message⟩

theorem Event.finding?_reported (d : Diagnostic) : (reported d).finding? = some d.finding := by
  have hlevel : d.severity.level = if d.isError then Level.error else .warn := by
    unfold Diagnostic.isError
    cases d.severity with
    | warning => rfl
    | error => rfl
  simp [finding?, fields, level, message, Diagnostic.finding, hlevel, List.lookup_cons]

/-- The log says of diagnostics what the list says. -/
def Recounts (log : List Event) (ds : List Diagnostic) : Prop :=
  log.filterMap Event.finding? = ds.map Diagnostic.finding

namespace Recounts

variable {α : Type} {log log' : List Event} {ds ds' : List Diagnostic} {xs : List α}
  {logOf : α → List Event} {diagnosticsOf : α → List Diagnostic}

theorem nil : Recounts [] [] := rfl

theorem append (h : Recounts log ds) (h' : Recounts log' ds') :
    Recounts (log ++ log') (ds ++ ds') := by
  unfold Recounts at h h' ⊢
  rw [List.filterMap_append, List.map_append, h, h']

/-- An event without a code adds nothing to say. -/
theorem silent {e : Event} (h : e.finding? = none) : Recounts [e] [] := by
  simp [Recounts, h]

theorem append_silent (h : Recounts log ds) (h' : Recounts log' []) :
    Recounts (log ++ log') ds := by
  have happend := h.append h'
  rwa [List.append_nil] at happend

theorem silent_append (h : Recounts log []) (h' : Recounts log' ds) :
    Recounts (log ++ log') ds := h.append h'

theorem reported (ds : List Diagnostic) : Recounts (ds.map .reported) ds := by
  induction ds with
  | nil => exact nil
  | cons d ds ih =>
      unfold Recounts at ih ⊢
      rw [List.map_cons, List.filterMap_cons_some (Event.finding?_reported d), ih, List.map_cons]

theorem flatMap (h : ∀ x ∈ xs, Recounts (logOf x) (diagnosticsOf x)) :
    Recounts (xs.flatMap logOf) (xs.flatMap diagnosticsOf) := by
  induction xs with
  | nil => exact nil
  | cons x xs ih =>
      rw [List.flatMap_cons, List.flatMap_cons]
      exact (h x List.mem_cons_self).append (ih fun y hy => h y (List.mem_cons_of_mem x hy))

theorem flatMap_silent (h : ∀ x ∈ xs, Recounts (logOf x) []) : Recounts (xs.flatMap logOf) [] := by
  have hnone : xs.flatMap (fun _ => ([] : List Diagnostic)) = [] :=
    List.flatMap_eq_nil_iff.mpr fun _ _ => rfl
  have hall := flatMap h
  rwa [hnone] at hall

end Recounts

namespace Resolution

variable {α : Type}

/-- What is resolved logs each of its diagnostics once. -/
def Recounted (r : Resolution α) : Prop := Recounts r.log r.diagnostics

theorem recounted_skipped : (skipped : Resolution α).Recounted := Recounts.nil

theorem recounted_noted {e : Event} (h : e.finding? = none) : (noted e : Resolution α).Recounted :=
  Recounts.silent h

theorem recounted_refused (d : Diagnostic) : (refused d : Resolution α).Recounted :=
  Recounts.reported [d]

theorem recounted_resolved (a : α) (ds : List Diagnostic) : (resolved a ds).Recounted :=
  Recounts.reported ds

end Resolution

end EndpointGen
