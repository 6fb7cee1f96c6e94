/- Greedy ownership of output keys: a pass takes the candidates of its graph in order, each as a
   whole, unless one that it took before has a key of it. -/
import EndpointGen.Proofs.Pass.Commit
import EndpointGen.Proofs.Pass.Work

namespace EndpointGen

/-- A descriptor's declaration with the units generated from the descriptor. -/
structure Candidate where
  identity : String
  units : List SourceUnit

namespace Candidate

def keys (c : Candidate) : List String := c.units.map (·.key)

/-- No key of the candidate is a key of one accepted before. -/
def Free (accepted : List Candidate) (keys : List String) : Prop :=
  ∀ key ∈ keys, ∀ a ∈ accepted, key ∉ a.keys

end Candidate

/-- The candidates of resolved descriptors, facades first. -/
def Resolved.candidates (r : Resolved) (g : DeclarationGraph) (config : Config) : List Candidate :=
  (r.facades.map fun f => ⟨f.source, f.units config⟩) ++
    r.dtos.map fun t => ⟨t.source, [t.unit g config]⟩

/-- A rejected candidate with its first taken key and the accepted candidate that has the key. -/
structure Collision where
  candidate : Candidate
  key : String
  owner : Candidate

/-- The error of a rejected candidate, located at its declaration. -/
def Collision.diagnostic (c : Collision) : Diagnostic :=
  .ofCode .duplicateOutputKey c.candidate.identity
    ("Output key '" ++ c.key ++ "' is already produced by '" ++ c.owner.identity ++ "'")
    (some "Give one of the declarations a distinct controller or class name")

/-- From the candidates accepted so far and those to come, all that are accepted in the end, and
    the collisions of the others. -/
inductive Greedy : List Candidate → List Candidate → List Candidate → List Collision → Prop
  | done (accepted : List Candidate) : Greedy accepted [] accepted []
  | accept {accepted cs final : List Candidate} {c : Candidate} {collisions : List Collision} :
      Candidate.Free accepted c.keys → Greedy (accepted ++ [c]) cs final collisions →
      Greedy accepted (c :: cs) final collisions
  | reject {accepted cs final : List Candidate} {c owner : Candidate}
      {collisions : List Collision} {free rest : List String} {key : String} :
      c.keys = free ++ key :: rest → Candidate.Free accepted free → owner ∈ accepted →
      key ∈ owner.keys → Greedy accepted cs final collisions →
      Greedy accepted (c :: cs) final (⟨c, key, owner⟩ :: collisions)

theorem Candidate.Free.keys_nodup {accepted : List Candidate} {c : Candidate}
    (hfree : Candidate.Free accepted c.keys) (hacc : (accepted.flatMap Candidate.keys).Nodup)
    (hc : c.keys.Nodup) : ((accepted ++ [c]).flatMap Candidate.keys).Nodup := by
  rw [List.flatMap_append, List.nodup_append]
  refine ⟨hacc, by simpa using hc, ?_⟩
  rintro key hkey _ hc rfl
  obtain ⟨a, ha, hkey⟩ := List.mem_flatMap.mp hkey
  exact hfree key (by simpa using hc) a ha hkey

namespace Greedy

variable {accepted cs final : List Candidate} {collisions : List Collision}

/-- Candidates are only ever accepted next to candidates with other keys. -/
theorem keys_nodup (h : Greedy accepted cs final collisions) (hcs : ∀ c ∈ cs, c.keys.Nodup)
    (hacc : (accepted.flatMap Candidate.keys).Nodup) : (final.flatMap Candidate.keys).Nodup := by
  induction h with
  | done accepted => exact hacc
  | @accept accepted cs final c collisions hfree _ ih =>
      refine ih (fun c' hc' => hcs c' (List.mem_cons_of_mem _ hc')) ?_
      exact hfree.keys_nodup hacc (hcs c List.mem_cons_self)
  | reject _ _ _ _ _ ih => exact ih (fun c' hc' => hcs c' (List.mem_cons_of_mem _ hc')) hacc

theorem final_eq (h : Greedy accepted cs final collisions) (hnone : collisions = []) :
    final = accepted ++ cs := by
  induction h with
  | done accepted => simp
  | accept _ _ ih => simpa using ih hnone
  | reject => cases hnone

/-- No candidate is rejected exactly where no key is there twice. -/
theorem collisions_eq_nil_iff (h : Greedy accepted cs final collisions)
    (hcs : ∀ c ∈ cs, c.keys.Nodup) (hacc : (accepted.flatMap Candidate.keys).Nodup) :
    collisions = [] ↔ ((accepted ++ cs).flatMap Candidate.keys).Nodup := by
  induction h with
  | done accepted => simpa using hacc
  | @accept accepted cs final c collisions hfree _ ih =>
      have hnext := hfree.keys_nodup hacc (hcs c List.mem_cons_self)
      simpa using ih (fun c' hc' => hcs c' (List.mem_cons_of_mem _ hc')) hnext
  | @reject accepted cs final c owner collisions free rest key hkeys _ howner hkey _ _ =>
      refine iff_of_false (List.cons_ne_nil _ _) fun hnodup => ?_
      rw [List.flatMap_append] at hnodup
      have htaken : key ∈ accepted.flatMap Candidate.keys := List.mem_flatMap.mpr ⟨owner, howner, hkey⟩
      have hwanted : key ∈ (c :: cs).flatMap Candidate.keys :=
        List.mem_flatMap.mpr ⟨c, List.mem_cons_self, by simp [hkeys]⟩
      exact (List.nodup_append.mp hnodup).2.2 key htaken key hwanted rfl

end Greedy

/-- The candidate of a declaration's work, none where the work has no units. -/
def Pending.candidate? (w : Pending) : Option Candidate :=
  if w.units.isEmpty then none else some ⟨w.identity, w.units⟩

def duplicateFindings (ds : List Diagnostic) : List Diagnostic :=
  ds.filter fun e => e.code = .duplicateOutputKey

def otherFindings (ds : List Diagnostic) : List Diagnostic :=
  ds.filter fun e => e.code ≠ .duplicateOutputKey

namespace Pass

/-- The units and owners of a pass are those of the accepted candidates. -/
structure Holds (p : Pass) (accepted : List Candidate) : Prop where
  units : p.units = accepted.flatMap (·.units)
  owners : p.owners = accepted.flatMap fun c => c.units.map fun u => (u.key, c.identity)

variable {p : Pass} {accepted : List Candidate} {w : Pending}

theorem Holds.keys (h : p.Holds accepted) : p.keys = accepted.flatMap Candidate.keys := by
  rw [Pass.keys, h.units, List.map_flatMap]
  rfl

theorem Holds.consistent (h : p.Holds accepted) : p.Consistent := by
  rw [Consistent, h.keys, h.owners, List.map_flatMap]
  simp only [List.map_map]
  rfl

theorem Holds.owner_accepted (h : p.Holds accepted) {key owner : String}
    (hl : p.owners.lookup key = some owner) :
    ∃ a ∈ accepted, key ∈ a.keys ∧ a.identity = owner := by
  obtain ⟨before, after, heq, -⟩ := List.lookup_eq_some_iff.mp hl
  have hmem : (key, owner) ∈ p.owners := by simp [heq]
  rw [h.owners] at hmem
  obtain ⟨a, ha, hmem⟩ := List.mem_flatMap.mp hmem
  obtain ⟨u, hu, heq⟩ := List.mem_map.mp hmem
  obtain ⟨rfl, rfl⟩ := Prod.mk.inj heq
  exact ⟨a, ha, List.mem_map.mpr ⟨u, hu, rfl⟩, rfl⟩

theorem Holds.not_owned_iff (h : p.Holds accepted) {key : String} :
    p.owners.lookup key = none ↔ ∀ a ∈ accepted, key ∉ a.keys := by
  simp [h.consistent.lookup_eq_none_iff, h.keys]

/-- A collision is the first taken key of the candidate, with the identity of its owner. -/
theorem Holds.first_taken (h : p.Holds accepted) {us : List SourceUnit} {key owner : String}
    (hc : p.collision? us = some (key, owner)) :
    ∃ free rest, us.map (·.key) = free ++ key :: rest ∧ Candidate.Free accepted free ∧
      ∃ a ∈ accepted, key ∈ a.keys ∧ a.identity = owner := by
  obtain ⟨before, u, after, rfl, hu, hfree⟩ := List.findSome?_eq_some_iff.mp hc
  obtain ⟨owner', hl, heq⟩ := Option.map_eq_some_iff.mp hu
  obtain ⟨rfl, rfl⟩ := Prod.mk.inj heq
  refine ⟨before.map (·.key), after.map (·.key), by simp, ?_, h.owner_accepted hl⟩
  intro k hk
  obtain ⟨v, hv, rfl⟩ := List.mem_map.mp hk
  exact h.not_owned_iff.mp (Option.map_eq_none_iff.mp (hfree v hv))

theorem Holds.commit_accepted (h : p.Holds accepted) (hc : p.collision? w.units = none) :
    (p.commit w).Holds (accepted ++ [⟨w.identity, w.units⟩]) := by
  constructor
  · simp [commit_units, taken, hc, h.units]
  · simp [commit_owners, taken, hc, h.owners]

theorem Holds.commit_rejected (h : p.Holds accepted) (hc : p.taken w = []) :
    (p.commit w).Holds accepted := by
  constructor
  · simp [commit_units, hc, h.units]
  · simp [commit_owners, hc, h.owners]

theorem otherFindings_commit (hw : ∀ e ∈ w.diagnostics, e.code ≠ .duplicateOutputKey) :
    otherFindings (p.commit w).diagnostics = otherFindings p.diagnostics ++ w.diagnostics := by
  have hkept : otherFindings w.diagnostics = w.diagnostics := by
    rw [otherFindings, List.filter_eq_self]
    exact fun e he => by simpa using hw e he
  have hrefusal : otherFindings (p.refusal w).toList = [] := by
    unfold refusal
    cases p.collision? w.units <;> simp [otherFindings, duplicateKey, Diagnostic.ofCode]
  unfold otherFindings at hkept hrefusal ⊢
  rw [commit_diagnostics, List.filter_append, List.filter_append, hkept, hrefusal, List.append_nil]

theorem duplicateFindings_commit (hw : ∀ e ∈ w.diagnostics, e.code ≠ .duplicateOutputKey) :
    duplicateFindings (p.commit w).diagnostics =
      duplicateFindings p.diagnostics ++ (p.refusal w).toList := by
  have hnone : duplicateFindings w.diagnostics = [] := by
    rw [duplicateFindings, List.filter_eq_nil_iff]
    exact fun e he => by simpa using hw e he
  have hrefusal : duplicateFindings (p.refusal w).toList = (p.refusal w).toList := by
    unfold refusal
    cases p.collision? w.units <;> simp [duplicateFindings, duplicateKey, Diagnostic.ofCode]
  unfold duplicateFindings at hnone hrefusal ⊢
  rw [commit_diagnostics, List.filter_append, List.filter_append, hnone, hrefusal, List.nil_append]

/-- One commit accepts or rejects the candidate of its work, and does nothing where there is none. -/
theorem Holds.commit (h : p.Holds accepted) (w : Pending) :
    ∃ next collisions, (p.commit w).Holds next ∧
      (p.refusal w).toList = collisions.map Collision.diagnostic ∧
      ∀ {cs final later}, Greedy next cs final later →
        Greedy accepted (w.candidate?.toList ++ cs) final (collisions ++ later) := by
  cases hc : p.collision? w.units with
  | none =>
      have hrefusal : p.refusal w = none := by simp [refusal, hc]
      by_cases hempty : w.units = []
      · have hcand : w.candidate? = none := by simp [Pending.candidate?, hempty]
        have htaken : p.taken w = [] := by simp [taken, hempty]
        exact ⟨accepted, [], h.commit_rejected htaken, by simp [hrefusal], by simp [hcand]⟩
      · have hcand : w.candidate? = some ⟨w.identity, w.units⟩ := by
          simp [Pending.candidate?, hempty]
        refine ⟨_, [], h.commit_accepted hc, by simp [hrefusal], ?_⟩
        intro cs final later hlater
        rw [hcand]
        refine .accept ?_ hlater
        intro key hkey
        obtain ⟨u, hu, rfl⟩ := List.mem_map.mp hkey
        have hfree := (collision?_eq_none_iff h.consistent).mp hc u hu
        exact h.not_owned_iff.mp (h.consistent.lookup_eq_none_iff.mpr hfree)
  | some found =>
      obtain ⟨key, owner⟩ := found
      obtain ⟨free, rest, hkeys, hfree, a, ha, hkey, rfl⟩ := h.first_taken hc
      have hcand : w.candidate? = some ⟨w.identity, w.units⟩ := by
        have hne : w.units ≠ [] := by
          intro hempty
          simp [hempty] at hkeys
        simp [Pending.candidate?, hne]
      have htaken : p.taken w = [] := by simp [taken, hc]
      refine ⟨accepted, [⟨⟨w.identity, w.units⟩, key, a⟩], h.commit_rejected htaken, ?_, ?_⟩
      · simp [refusal, hc, duplicateKey, Collision.diagnostic]
      · intro cs final later hlater
        rw [hcand]
        exact .reject hkeys hfree ha hkey hlater

theorem Holds.foldl_commit (h : p.Holds accepted) (ws : List Pending)
    (hws : ∀ w ∈ ws, ∀ e ∈ w.diagnostics, e.code ≠ .duplicateOutputKey) :
    ∃ final collisions, Greedy accepted (ws.filterMap Pending.candidate?) final collisions ∧
      (ws.foldl Pass.commit p).Holds final ∧
      otherFindings (ws.foldl Pass.commit p).diagnostics =
        otherFindings p.diagnostics ++ ws.flatMap (·.diagnostics) ∧
      duplicateFindings (ws.foldl Pass.commit p).diagnostics =
        duplicateFindings p.diagnostics ++ collisions.map Collision.diagnostic := by
  induction ws generalizing p accepted with
  | nil => exact ⟨accepted, [], .done accepted, h, by simp, by simp⟩
  | cons w ws ih =>
      have hw := hws w List.mem_cons_self
      obtain ⟨next, collisions, hnext, hrefusal, hstep⟩ := h.commit w
      obtain ⟨final, later, hlater, hfinal, hother, hdup⟩ :=
        ih hnext fun v hv => hws v (List.mem_cons_of_mem w hv)
      refine ⟨final, collisions ++ later, ?_, hfinal, ?_, ?_⟩
      · rw [List.filterMap_cons]
        have hall := hstep hlater
        cases hcand : w.candidate? with
        | none => simpa [hcand] using hall
        | some c => simpa [hcand] using hall
      · rw [List.foldl_cons, hother, otherFindings_commit hw, List.append_assoc, List.flatMap_cons]
      · rw [List.foldl_cons, hdup, duplicateFindings_commit hw, hrefusal, List.append_assoc,
          List.map_append]

end Pass

namespace DeclarationGraph

variable {g : DeclarationGraph} {config : Config} {d : Declaration}

theorem candidate?_ofFacade :
    (Pending.ofFacade g config d).candidate? =
      (Facade.resolve g config d).value?.map fun f => ⟨f.source, f.units config⟩ := by
  cases hr : (Facade.resolve g config d).value? with
  | none => simp [Pending.candidate?, Pending.ofFacade, hr]
  | some f =>
      simp [Pending.candidate?, Pending.ofFacade, hr, f.units_ne_nil config,
        Facade.source_of_resolve hr]

theorem candidate?_ofDto (hd : d ∈ g.declarations) :
    (Pending.ofDto g config d).candidate? =
      (Dto.resolve g d).value?.map fun t => ⟨t.source, [t.unit g config]⟩ := by
  cases hr : (Dto.resolve g d).value? with
  | none => simp [Pending.candidate?, Pending.ofDto, hr]
  | some t => simp [Pending.candidate?, Pending.ofDto, hr, Dto.source_of_resolve hd hr]

/-- The work with units is the work of the declarations that have a descriptor. -/
theorem filterMap_candidate?_pending (g : DeclarationGraph) (config : Config) :
    (g.pending config).filterMap Pending.candidate? = (g.resolveAll config).candidates g config := by
  simp only [pending, Resolved.candidates, resolveAll, List.filterMap_append, List.filterMap_map,
    List.map_filterMap]
  congr 1
  · exact List.filterMap_congr fun d _ => candidate?_ofFacade
  · exact List.filterMap_congr fun d hd => candidate?_ofDto (marked_of_mem_dtos hd).1

theorem flatMap_diagnostics_pending (g : DeclarationGraph) (config : Config) :
    (g.pending config).flatMap (·.diagnostics) = (g.resolveAll config).diagnostics := by
  simp [pending, resolveAll, List.flatMap_append, List.flatMap_map, Pending.ofFacade, Pending.ofDto]

theorem code_ne_of_mem_pending {w : Pending} (hw : w ∈ g.pending config) {e : Diagnostic}
    (he : e ∈ w.diagnostics) : e.code ≠ .duplicateOutputKey := by
  rw [pending_eq] at hw
  obtain ⟨d, hd, rfl⟩ := List.mem_map.mp hw
  rw [Pending.ofDeclaration_diagnostics] at he
  rcases mem_findings hd he with hadvice | rfl
  · exact hadvice.code_ne
  · simp [Dto.notPartial, Diagnostic.ofCode]

theorem keys_nodup_of_mem_candidates {c : Candidate}
    (hc : c ∈ (g.resolveAll config).candidates g config) : c.keys.Nodup := by
  rcases List.mem_append.mp hc with hc | hc
  · obtain ⟨f, -, rfl⟩ := List.mem_map.mp hc
    exact f.units_keys_nodup config
  · obtain ⟨t, -, rfl⟩ := List.mem_map.mp hc
    simp [Candidate.keys]

theorem duplicateFindings_eq_nil_iff {ds : List Diagnostic} :
    duplicateFindings ds = [] ↔ ∀ e ∈ ds, e.code ≠ .duplicateOutputKey := by
  simp [duplicateFindings]

/-- No output key is reported as taken exactly where the keys of all candidates are distinct; a run then
    has the units of all of them, and the diagnostics of its graph. -/
theorem run_unrefused (g : DeclarationGraph) (config : Config) :
    ((∀ e ∈ (g.run config).diagnostics, e.code ≠ .duplicateOutputKey) ↔
        (((g.resolveAll config).candidates g config).flatMap Candidate.keys).Nodup) ∧
      ((∀ e ∈ (g.run config).diagnostics, e.code ≠ .duplicateOutputKey) →
        (g.run config).units = ((g.resolveAll config).candidates g config).flatMap (·.units) ∧
          (g.run config).diagnostics = (g.resolveAll config).diagnostics) := by
  have hstart : ({ Pass.empty with log := g.discover.log } : Pass).Holds [] := ⟨rfl, rfl⟩
  obtain ⟨accepted, collisions, hgreedy, hfinal, hother, hdup⟩ :=
    hstart.foldl_commit (g.pending config) fun w hw e he => code_ne_of_mem_pending hw he
  rw [filterMap_candidate?_pending] at hgreedy
  have hdup : duplicateFindings (g.run config).diagnostics = collisions.map Collision.diagnostic := hdup
  have hnone : (∀ e ∈ (g.run config).diagnostics, e.code ≠ .duplicateOutputKey) ↔ collisions = [] := by
    rw [← duplicateFindings_eq_nil_iff, hdup, List.map_eq_nil_iff]
  refine ⟨?_, fun hquiet => ⟨?_, ?_⟩⟩
  · rw [hnone, hgreedy.collisions_eq_nil_iff (fun c hc => keys_nodup_of_mem_candidates hc)
      List.nodup_nil, List.nil_append]
  · obtain rfl := hgreedy.final_eq (hnone.mp hquiet)
    exact hfinal.units
  · have hall : otherFindings (g.run config).diagnostics = (g.run config).diagnostics := by
      rw [otherFindings, List.filter_eq_self]
      exact fun e he => by simpa using hquiet e he
    rw [← hall, ← flatMap_diagnostics_pending]
    exact hother

/-- A pass generates from what its graph resolves to by greedy ownership of keys: each candidate is
    taken as a whole or not at all, and each one not taken is reported once. -/
theorem run_greedy (g : DeclarationGraph) (config : Config) :
    ∃ accepted collisions,
      Greedy [] ((g.resolveAll config).candidates g config) accepted collisions ∧
      (g.run config).units = accepted.flatMap (·.units) ∧
      (g.run config).keys.Nodup ∧
      otherFindings (g.run config).diagnostics = (g.resolveAll config).diagnostics ∧
      duplicateFindings (g.run config).diagnostics = collisions.map Collision.diagnostic := by
  have hstart : ({ Pass.empty with log := g.discover.log } : Pass).Holds [] := ⟨rfl, rfl⟩
  obtain ⟨accepted, collisions, hgreedy, hfinal, hother, hdup⟩ :=
    hstart.foldl_commit (g.pending config) fun w hw e he => code_ne_of_mem_pending hw he
  rw [filterMap_candidate?_pending] at hgreedy
  refine ⟨accepted, collisions, hgreedy, hfinal.units, ?_, ?_, hdup⟩
  · have hkeys := hgreedy.keys_nodup (fun c hc => keys_nodup_of_mem_candidates hc) List.nodup_nil
    rw [← hfinal.keys] at hkeys
    exact hkeys
  · rw [flatMap_diagnostics_pending] at hother
    exact hother

end DeclarationGraph

end EndpointGen
