/- Diagnostics apart from errors: advice, and the errors of a report, all of them or those at one
   identity. -/
import EndpointGen.Report.Diagnostic

namespace EndpointGen

/-- A finding that keeps no output back. -/
structure Diagnostic.IsAdvice (e : Diagnostic) : Prop where
  code : e.code = .unmatchedRouteParameter ∨ e.code = .conflictingRequestEnvelope
  severity : e.severity = .warning

theorem Diagnostic.IsAdvice.isError {e : Diagnostic} (h : e.IsAdvice) : e.isError = false := by
  simp [Diagnostic.isError, h.severity]

theorem Diagnostic.IsAdvice.code_ne {e : Diagnostic} (h : e.IsAdvice) :
    e.code ≠ .duplicateOutputKey := by
  rcases h.code with hc | hc <;> simp [hc]

/-- A finding about the declaration of the identity or about one of its members. -/
def Diagnostic.LocatedAt (e : Diagnostic) (identity : String) : Prop :=
  e.location = identity ∨ ∃ member, e.location = identity ++ "." ++ member

def errorsOf (ds : List Diagnostic) : List Diagnostic := ds.filter (·.isError)

/-- The diagnostics of one code, in order. -/
def withCode (code : DiagnosticCode) (ds : List Diagnostic) : List Diagnostic :=
  ds.filter fun e => e.code == code

def errorsAt (identity : String) (ds : List Diagnostic) : List Diagnostic :=
  (errorsOf ds).filter fun e => e.location == identity

section WithCode

variable {code : DiagnosticCode} {ds : List Diagnostic}

theorem withCode_append (code : DiagnosticCode) (ds es : List Diagnostic) :
    withCode code (ds ++ es) = withCode code ds ++ withCode code es := List.filter_append ..

theorem withCode_flatMap {α : Type} (code : DiagnosticCode) (xs : List α) (f : α → List Diagnostic) :
    withCode code (xs.flatMap f) = xs.flatMap fun x => withCode code (f x) := List.filter_flatMap

theorem withCode_of_forall (h : ∀ e ∈ ds, e.code = code) : withCode code ds = ds := by
  rw [withCode, List.filter_eq_self]
  exact fun e he => beq_iff_eq.mpr (h e he)

theorem withCode_of_forall_ne (h : ∀ e ∈ ds, e.code ≠ code) : withCode code ds = [] := by
  rw [withCode, List.filter_eq_nil_iff]
  exact fun e he => by simp [h e he]

end WithCode

theorem hasErrors_iff {ds : List Diagnostic} :
    hasErrors ds = true ↔ ∃ d ∈ ds, d.severity = .error := by
  simp [hasErrors, Diagnostic.isError]

theorem errorsOf_advice {ds : List Diagnostic} (h : ∀ e ∈ ds, e.IsAdvice) : errorsOf ds = [] := by
  rw [errorsOf, List.filter_eq_nil_iff]
  exact fun e he => by simp [(h e he).isError]

theorem errorsOf_append (ds es : List Diagnostic) :
    errorsOf (ds ++ es) = errorsOf ds ++ errorsOf es := List.filter_append ..

theorem mem_errorsOf_flatMap {α : Type} {xs : List α} {f : α → List Diagnostic} {e : Diagnostic} :
    e ∈ errorsOf (xs.flatMap f) ↔ ∃ x ∈ xs, e ∈ errorsOf (f x) := by
  simp only [errorsOf, List.mem_filter, List.mem_flatMap]
  grind

theorem errorsAt_append (identity : String) (ds es : List Diagnostic) :
    errorsAt identity (ds ++ es) = errorsAt identity ds ++ errorsAt identity es := by
  rw [errorsAt, errorsOf_append, List.filter_append, errorsAt, errorsAt]

theorem errorsAt_own {identity : String} {ds : List Diagnostic}
    (h : ∀ e ∈ errorsOf ds, e.location = identity) : errorsAt identity ds = errorsOf ds := by
  rw [errorsAt, List.filter_eq_self]
  exact fun e he => by simp [h e he]

theorem errorsAt_foreign {identity : String} {ds : List Diagnostic}
    (h : ∀ e ∈ errorsOf ds, e.location ≠ identity) : errorsAt identity ds = [] := by
  rw [errorsAt, List.filter_eq_nil_iff]
  exact fun e he => by simp [h e he]

end EndpointGen
