/- The outcome of resolving one declaration or member, with what was reported on the way. -/
import EndpointGen.Report.Event

namespace EndpointGen

structure Resolution (α : Type) where
  value? : Option α
  diagnostics : List Diagnostic
  log : List Event

namespace Resolution

variable {α : Type}

def skipped : Resolution α := ⟨none, [], []⟩

/-- Left out with a note in the log. -/
def noted (e : Event) : Resolution α := ⟨none, [], [e]⟩

def refused (d : Diagnostic) : Resolution α := ⟨none, [d], [.reported d]⟩

/-- Resolved, with the diagnostics reported in order. -/
def resolved (a : α) (ds : List Diagnostic) : Resolution α := ⟨some a, ds, ds.map .reported⟩

end Resolution

end EndpointGen
