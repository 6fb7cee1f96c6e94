/- The outcome of each discovered declaration in a pass: all of its units are committed, or it is
   left out without a word, or it fails with one error at its identity. -/
import EndpointGen.Proofs.Pass.Commit
import EndpointGen.Proofs.Pass.Work

namespace EndpointGen

theorem Pass.hasErrors_iff {p : Pass} :
    p.hasErrors = true ↔ 0 < (errorsOf p.diagnostics).length := by
  rw [Pass.hasErrors, EndpointGen.hasErrors, List.any_eq_true, List.length_pos_iff_exists_mem]
  simp only [errorsOf, List.mem_filter]

/-- A declaration of a run with the pass before and after its commit. -/
structure PassStep where
  declaration : Declaration
  before : Pass
  after : Pass

namespace PassStep

def units (s : PassStep) : List SourceUnit := s.after.units.drop s.before.units.length

def diagnostics (s : PassStep) : List Diagnostic :=
  s.after.diagnostics.drop s.before.diagnostics.length

end PassStep

namespace DeclarationGraph

/-- The steps of a pass over the given declarations. -/
def stepsFrom (g : DeclarationGraph) (config : Config) (p : Pass) : List Declaration → List PassStep
  | [] => []
  | d :: ds =>
    let q := p.commit (Pending.ofDeclaration g config d)
    ⟨d, p, q⟩ :: g.stepsFrom config q ds

def steps (g : DeclarationGraph) (config : Config) : List PassStep :=
  g.stepsFrom config { Pass.empty with log := g.discover.log } g.discover.declarations

end DeclarationGraph

inductive Outcome where
  | committed
  | silent
  | failed
deriving DecidableEq, Repr

/-- An outcome as the output of the run shows it. -/
def PassStep.Shows (s : PassStep) (g : DeclarationGraph) (config : Config) : Outcome → Prop
  | .committed => g.generated? config s.declaration = some s.units ∧
      errorsAt s.declaration.identity (g.run config).diagnostics = []
  | .silent => s.units = [] ∧ s.diagnostics = []
  | .failed => s.units = [] ∧ ∃ e, errorsOf s.diagnostics = [e] ∧
      e.location = s.declaration.identity ∧
      errorsAt s.declaration.identity (g.run config).diagnostics = [e]

namespace PassStep

variable {g : DeclarationGraph} {config : Config} {s : PassStep}

/-- A step of a run: the pass before it is consistent, and its commit makes the pass after it. -/
structure Commits (g : DeclarationGraph) (config : Config) (s : PassStep) : Prop where
  discovered : s.declaration ∈ g.discover.declarations
  consistent : s.before.Consistent
  after : s.after = s.before.commit (Pending.ofDeclaration g config s.declaration)

theorem Commits.units (h : Commits g config s) :
    s.units = s.before.taken (Pending.ofDeclaration g config s.declaration) := by
  rw [PassStep.units, h.after, Pass.commit_units, List.drop_left]

theorem Commits.diagnostics (h : Commits g config s) :
    s.diagnostics = g.findings config s.declaration ++
      (s.before.refusal (Pending.ofDeclaration g config s.declaration)).toList := by
  rw [PassStep.diagnostics, h.after, Pass.commit_diagnostics, List.drop_left,
    Pending.ofDeclaration_diagnostics]

/-- The descriptor of the declaration has a key that is committed already. -/
def Collides (g : DeclarationGraph) (config : Config) (s : PassStep) : Prop :=
  ∃ us, g.generated? config s.declaration = some us ∧ ∃ u ∈ us, u.key ∈ s.before.keys

/-- The ways a step can go, each with its cause. -/
inductive Goes (g : DeclarationGraph) (config : Config) (s : PassStep) : Outcome → Prop
  | committed : g.generated? config s.declaration = some s.units → s.units ≠ [] →
      errorsOf s.diagnostics = [] → ¬ g.Unresolvable s.declaration →
      ¬ (g.Closed s.declaration ∨ s.Collides g config) → Goes g config s .committed
  | silent : s.units = [] → s.diagnostics = [] → g.Unresolvable s.declaration →
      ¬ (g.Closed s.declaration ∨ s.Collides g config) → Goes g config s .silent
  | failed (e : Diagnostic) : s.units = [] → errorsOf s.diagnostics = [e] →
      e.location = s.declaration.identity → ¬ g.Unresolvable s.declaration →
      (g.Closed s.declaration ∨ s.Collides g config) → Goes g config s .failed

theorem not_collides_of_none (hnone : g.generated? config s.declaration = none) :
    ¬ s.Collides g config := by
  rintro ⟨us, hus, -⟩
  simp [hnone] at hus

theorem Commits.of_free (h : Commits g config s) (hfree : ¬ s.Collides g config) :
    s.units = (g.generated? config s.declaration).getD [] ∧
      s.diagnostics = g.findings config s.declaration := by
  have hkeys : ∀ u ∈ (Pending.ofDeclaration g config s.declaration).units,
      u.key ∉ s.before.keys := by
    intro u hu hk
    rw [Pending.ofDeclaration_units] at hu
    cases hgen : g.generated? config s.declaration with
    | none => simp [hgen] at hu
    | some us => exact hfree ⟨us, hgen, u, by simpa [hgen] using hu, hk⟩
  obtain ⟨htaken, hrefusal⟩ := Pass.commit_free h.consistent hkeys
  constructor
  · rw [h.units, htaken, Pending.ofDeclaration_units]
  · rw [h.diagnostics, hrefusal, Option.toList_none, List.append_nil]

theorem Commits.of_collides (h : Commits g config s) (hkey : s.Collides g config) :
    s.units = [] ∧ ∃ key owner, s.diagnostics = g.findings config s.declaration ++
      [Pass.duplicateKey s.declaration.identity key owner] := by
  obtain ⟨us, hus, hkey⟩ := hkey
  have hw : (Pending.ofDeclaration g config s.declaration).units = us := by simp [hus]
  obtain ⟨htaken, key, owner, hrefusal⟩ := Pass.commit_refused
    (w := Pending.ofDeclaration g config s.declaration) h.consistent (hw.symm ▸ hkey)
  refine ⟨by rw [h.units, htaken], key, owner, ?_⟩
  rw [h.diagnostics, hrefusal, Pending.ofDeclaration_identity]
  rfl

theorem Commits.goes (h : Commits g config s) : ∃ o, Goes g config s o := by
  have hworked := DeclarationGraph.worked config h.discovered
  generalize hgen : g.generated? config s.declaration = us? at hworked
  generalize hfound : g.findings config s.declaration = ds at hworked
  cases hworked with
  | generated us ds hadvice hresolvable hopen =>
      have hquiet := errorsOf_advice hadvice
      by_cases hkey : s.Collides g config
      · obtain ⟨hunits, key, owner, hds⟩ := h.of_collides hkey
        refine ⟨.failed, .failed (Pass.duplicateKey s.declaration.identity key owner) hunits ?_ rfl
          hresolvable (.inr hkey)⟩
        rw [hds, hfound, errorsOf_append, hquiet]
        rfl
      · obtain ⟨hunits, hds⟩ := h.of_free hkey
        have htaken : s.units = us := by simpa [hgen] using hunits
        refine ⟨.committed, .committed (htaken ▸ hgen) ?_ ?_ hresolvable ?_⟩
        · exact htaken ▸ (DeclarationGraph.generated?_units hgen).1
        · rw [hds, hfound, hquiet]
        · rintro (hclosed | hkey')
          · exact hopen hclosed
          · exact hkey hkey'
  | unresolvable hun hopen =>
      have hfree := not_collides_of_none hgen
      obtain ⟨hunits, hds⟩ := h.of_free hfree
      rw [hgen] at hunits
      refine ⟨.silent, .silent hunits (hds.trans hfound) hun ?_⟩
      rintro (hclosed | hkey)
      · exact hopen hclosed
      · exact hfree hkey
  | closed hclosed hresolvable =>
      obtain ⟨hunits, hds⟩ := h.of_free (not_collides_of_none hgen)
      rw [hgen] at hunits
      refine ⟨.failed, .failed (Dto.notPartial s.declaration) hunits ?_ rfl hresolvable
        (.inl hclosed)⟩
      rw [hds, hfound]
      rfl

theorem Goes.error_location {o : Outcome} (h : Goes g config s o) {e : Diagnostic}
    (he : e ∈ errorsOf s.diagnostics) : e.location = s.declaration.identity := by
  cases h with
  | committed _ _ hnone _ _ => simp [hnone] at he
  | silent _ hnone _ _ => simp [hnone, errorsOf] at he
  | failed e' _ hone hlocation _ _ =>
      obtain rfl : e = e' := by simpa [hone] using he
      exact hlocation

theorem Goes.unresolvable_iff {o : Outcome} (h : Goes g config s o) :
    g.Unresolvable s.declaration ↔ o = .silent := by
  cases h with
  | committed _ _ _ hresolvable _ => simp [hresolvable]
  | silent _ _ hun _ => simp [hun]
  | failed _ _ _ _ hresolvable _ => simp [hresolvable]

theorem Goes.fault_iff {o : Outcome} (h : Goes g config s o) :
    g.Closed s.declaration ∨ s.Collides g config ↔ o = .failed := by
  cases h with
  | committed _ _ _ _ hsound => simp only [hsound, reduceCtorEq]
  | silent _ _ _ hsound => simp only [hsound, reduceCtorEq]
  | failed _ _ _ _ _ hfault => simp only [hfault]

theorem Goes.errors_length {o : Outcome} (h : Goes g config s o) :
    (errorsOf s.diagnostics).length = if o = .failed then 1 else 0 := by
  cases h with
  | committed _ _ hnone _ _ => simp [hnone]
  | silent _ hnone _ _ => simp [hnone, errorsOf]
  | failed _ _ hone _ _ _ => simp [hone]

/-- A step that goes one way shows that outcome and no other. -/
theorem Goes.shows_iff {o o' : Outcome} (h : Goes g config s o)
    (herrors : errorsAt s.declaration.identity (g.run config).diagnostics = errorsOf s.diagnostics) :
    s.Shows g config o' ↔ o' = o := by
  cases h with
  | committed hgen hunits hnone _ _ =>
      cases o' with
      | committed => simp [Shows, hgen, herrors, hnone]
      | silent => simp [Shows, hunits]
      | failed => simp [Shows, hunits]
  | silent hunits hds _ _ =>
      cases o' with
      | committed =>
          simp only [Shows, reduceCtorEq, iff_false]
          rintro ⟨hgen, -⟩
          exact (DeclarationGraph.generated?_units hgen).1 hunits
      | silent => simp [Shows, hunits, hds]
      | failed => simp [Shows, hds, errorsOf]
  | failed e hunits hone hlocation _ _ =>
      cases o' with
      | committed => simp [Shows, herrors, hone]
      | silent =>
          simp only [Shows, reduceCtorEq, iff_false]
          rintro ⟨-, hds⟩
          simp [hds, errorsOf] at hone
      | failed => simp [Shows, hunits, herrors, hone, hlocation]

end PassStep

namespace DeclarationGraph

variable {g : DeclarationGraph} {config : Config}

theorem stepsFrom_declarations (g : DeclarationGraph) (config : Config) (p : Pass)
    (ds : List Declaration) :
    (g.stepsFrom config p ds).map (·.declaration) = ds := by
  induction ds generalizing p with
  | nil => rfl
  | cons d ds ih => simp [stepsFrom, ih]

theorem foldl_commit_eq_steps (g : DeclarationGraph) (config : Config) (p : Pass)
    (ds : List Declaration) :
    ((ds.map (Pending.ofDeclaration g config)).foldl Pass.commit p).units =
        p.units ++ (g.stepsFrom config p ds).flatMap (·.units) ∧
      ((ds.map (Pending.ofDeclaration g config)).foldl Pass.commit p).diagnostics =
        p.diagnostics ++ (g.stepsFrom config p ds).flatMap (·.diagnostics) := by
  induction ds generalizing p with
  | nil => simp [stepsFrom]
  | cons d ds ih =>
      obtain ⟨hunits, hdiagnostics⟩ := ih (p.commit (Pending.ofDeclaration g config d))
      simp only [List.map_cons, List.foldl_cons, stepsFrom, List.flatMap_cons, hunits, hdiagnostics]
      constructor
      · rw [PassStep.units, Pass.commit_units, List.drop_left, List.append_assoc]
      · rw [PassStep.diagnostics, Pass.commit_diagnostics, List.drop_left, List.append_assoc]

theorem commits_of_mem_stepsFrom {p : Pass} (hp : p.Consistent) {ds : List Declaration}
    (hds : ∀ d ∈ ds, d ∈ g.discover.declarations) {s : PassStep}
    (hs : s ∈ g.stepsFrom config p ds) : s.Commits g config := by
  induction ds generalizing p with
  | nil => simp [stepsFrom] at hs
  | cons d ds ih =>
      rcases List.mem_cons.mp hs with rfl | hs
      · exact ⟨hds d List.mem_cons_self, hp, rfl⟩
      · exact ih (hp.commit _) (fun d' hd' => hds d' (List.mem_cons_of_mem _ hd')) hs

theorem goes_of_mem_steps {s : PassStep} (hs : s ∈ g.steps config) : ∃ o, s.Goes g config o :=
  (commits_of_mem_stepsFrom (p := { Pass.empty with log := g.discover.log }) rfl
    (fun _ hd => hd) hs).goes

theorem run_eq_steps (g : DeclarationGraph) (config : Config) :
    (g.run config).units = (g.steps config).flatMap (·.units) ∧
      (g.run config).diagnostics = (g.steps config).flatMap (·.diagnostics) := by
  have h := foldl_commit_eq_steps g config { Pass.empty with log := g.discover.log }
    g.discover.declarations
  rw [← pending_eq] at h
  exact h

/-- The errors at an identity are those of the one step that the identity belongs to. -/
theorem errorsAt_flatMap {steps : List PassStep}
    (hnodup : (steps.map fun s => s.declaration.identity).Nodup)
    (hlocation : ∀ s ∈ steps, ∀ e ∈ errorsOf s.diagnostics, e.location = s.declaration.identity)
    {s : PassStep} (hs : s ∈ steps) :
    errorsAt s.declaration.identity (steps.flatMap (·.diagnostics)) = errorsOf s.diagnostics := by
  induction steps with
  | nil => cases hs
  | cons t steps ih =>
      obtain ⟨hnew, hnodup⟩ := List.nodup_cons.mp hnodup
      have hrest : ∀ s ∈ steps, ∀ e ∈ errorsOf s.diagnostics,
          e.location = s.declaration.identity :=
        fun s hs => hlocation s (List.mem_cons_of_mem _ hs)
      -- Identities are distinct, so only one of the first step and the rest has errors there.
      rw [List.flatMap_cons, errorsAt_append]
      rcases List.mem_cons.mp hs with rfl | hs
      · rw [errorsAt_own (hlocation s List.mem_cons_self), errorsAt_foreign, List.append_nil]
        intro e he
        obtain ⟨t, ht, he⟩ := mem_errorsOf_flatMap.mp he
        rw [hrest t ht e he]
        exact fun heq => hnew (List.mem_map.mpr ⟨t, ht, heq⟩)
      · rw [ih hnodup hrest hs, errorsAt_foreign, List.nil_append]
        intro e he
        rw [hlocation t List.mem_cons_self e he]
        exact fun heq => hnew (List.mem_map.mpr ⟨s, hs, heq.symm⟩)

theorem errorsAt_run {s : PassStep} (hs : s ∈ g.steps config) :
    errorsAt s.declaration.identity (g.run config).diagnostics = errorsOf s.diagnostics := by
  rw [(run_eq_steps g config).2]
  refine errorsAt_flatMap ?_ ?_ hs
  · have hnodup := g.discover_identities_nodup
    rw [← stepsFrom_declarations g config { Pass.empty with log := g.discover.log }
      g.discover.declarations, List.map_map] at hnodup
    exact hnodup
  · intro t ht e he
    obtain ⟨o, ho⟩ := goes_of_mem_steps ht
    exact ho.error_location he

open Classical in
theorem errors_length {steps : List PassStep} {failed : PassStep → Prop}
    (h : ∀ s ∈ steps, (errorsOf s.diagnostics).length = if failed s then 1 else 0) :
    (errorsOf (steps.flatMap (·.diagnostics))).length = steps.countP fun s => failed s := by
  induction steps with
  | nil => rfl
  | cons s steps ih =>
      have hrest := ih fun t ht => h t (List.mem_cons_of_mem _ ht)
      rw [List.flatMap_cons, errorsOf_append, List.length_append, hrest, h s List.mem_cons_self,
        List.countP_cons, Nat.add_comm]
      simp only [decide_eq_true_eq]

open Classical in
/-- Each discovered declaration has exactly one outcome, with its cause, and the errors of a run are
    one for each declaration that failed. -/
theorem run_accounts (g : DeclarationGraph) (config : Config) :
    (g.steps config).map (·.declaration) = g.discover.declarations ∧
      (g.run config).units = (g.steps config).flatMap (·.units) ∧
      (g.run config).diagnostics = (g.steps config).flatMap (·.diagnostics) ∧
      (∀ s ∈ g.steps config,
        (∃! o, s.Shows g config o) ∧
        (s.Shows g config .silent ↔ g.Unresolvable s.declaration) ∧
        (s.Shows g config .failed ↔ g.Closed s.declaration ∨ s.Collides g config)) ∧
      ((g.run config).hasErrors = true ↔ ∃ s ∈ g.steps config, s.Shows g config .failed) ∧
      (errorsOf (g.run config).diagnostics).length =
        (g.steps config).countP fun s => s.Shows g config .failed := by
  obtain ⟨hunits, hdiagnostics⟩ := run_eq_steps g config
  have hlength : (errorsOf (g.run config).diagnostics).length =
      (g.steps config).countP fun s => s.Shows g config .failed := by
    rw [hdiagnostics]
    refine errors_length fun s hs => ?_
    obtain ⟨o, ho⟩ := goes_of_mem_steps hs
    rw [ho.errors_length]
    simp only [ho.shows_iff (errorsAt_run hs), eq_comm]
  refine ⟨stepsFrom_declarations _ _ _ _, hunits, hdiagnostics, ?_, ?_, hlength⟩
  · intro s hs
    obtain ⟨o, ho⟩ := goes_of_mem_steps hs
    have hshows : ∀ o', s.Shows g config o' ↔ o' = o := fun _ => ho.shows_iff (errorsAt_run hs)
    refine ⟨⟨o, (hshows o).mpr rfl, fun o' ho' => (hshows o').mp ho'⟩, ?_, ?_⟩
    · rw [hshows, ho.unresolvable_iff, eq_comm]
    · rw [hshows, ho.fault_iff, eq_comm]
  · rw [Pass.hasErrors_iff, hlength, List.countP_pos_iff]
    simp only [decide_eq_true_eq]

end DeclarationGraph

end EndpointGen
