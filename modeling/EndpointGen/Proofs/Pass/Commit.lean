/- What one commit adds to a pass: all units of a declaration or none, and every diagnostic of it. -/
import EndpointGen.Pass

namespace EndpointGen

namespace Pass

variable {p : Pass} {w : Pending} {us : List SourceUnit}

def taken (p : Pass) (w : Pending) : List SourceUnit :=
  if (p.collision? w.units).isSome then [] else w.units

/-- The error of a declaration whose units are not taken. -/
def refusal (p : Pass) (w : Pending) : Option Diagnostic :=
  (p.collision? w.units).map fun (key, owner) => duplicateKey w.identity key owner

theorem commit_units (p : Pass) (w : Pending) : (p.commit w).units = p.units ++ p.taken w := by
  unfold commit taken
  cases p.collision? w.units <;> simp

theorem commit_owners (p : Pass) (w : Pending) :
    (p.commit w).owners = p.owners ++ (p.taken w).map fun u => (u.key, w.identity) := by
  unfold commit taken
  cases p.collision? w.units <;> simp

theorem commit_diagnostics (p : Pass) (w : Pending) :
    (p.commit w).diagnostics = p.diagnostics ++ (w.diagnostics ++ (p.refusal w).toList) := by
  unfold commit refusal
  cases p.collision? w.units <;> simp

/-- The owned keys are the keys of the units. -/
def Consistent (p : Pass) : Prop := p.owners.map (·.1) = p.keys

theorem Consistent.commit (h : p.Consistent) (w : Pending) : (p.commit w).Consistent := by
  unfold Consistent at h ⊢
  rw [keys, commit_units, commit_owners, List.map_append, List.map_append, h, keys, List.map_map]
  rfl

theorem Consistent.lookup_eq_none_iff (h : p.Consistent) {key : String} :
    p.owners.lookup key = none ↔ key ∉ p.keys := by
  unfold Consistent at h
  rw [List.lookup_eq_none_iff, ← h, List.mem_map]
  constructor
  · rintro hfree ⟨o, ho, heq⟩
    simpa [heq] using hfree o ho
  · intro hfree o ho
    have hne : key ≠ o.1 := fun heq => hfree ⟨o, ho, heq.symm⟩
    simpa using hne

theorem collision?_eq_none_iff (h : p.Consistent) :
    p.collision? us = none ↔ ∀ u ∈ us, u.key ∉ p.keys := by
  simp only [collision?, List.findSome?_eq_none_iff, Option.map_eq_none_iff, h.lookup_eq_none_iff]

theorem commit_free (h : p.Consistent) (hfree : ∀ u ∈ w.units, u.key ∉ p.keys) :
    p.taken w = w.units ∧ p.refusal w = none := by
  have hc := (collision?_eq_none_iff h).mpr hfree
  simp [taken, refusal, hc]

theorem commit_refused (h : p.Consistent) (hkey : ∃ u ∈ w.units, u.key ∈ p.keys) :
    p.taken w = [] ∧ ∃ key owner, p.refusal w = some (duplicateKey w.identity key owner) := by
  obtain ⟨u, hu, hk⟩ := hkey
  cases hc : p.collision? w.units with
  | none => exact absurd hk ((collision?_eq_none_iff h).mp hc u hu)
  | some found => exact ⟨by simp [taken, hc], found.1, found.2, by simp [refusal, hc]⟩

/-- The declaration of the identity has units in the pass. -/
def Owns (p : Pass) (identity : String) : Prop := ∃ key, (key, identity) ∈ p.owners

instance (p : Pass) (identity : String) : Decidable (p.Owns identity) :=
  decidable_of_iff (identity ∈ p.owners.map (·.2)) (by simp [Owns])

variable {identity : String}

theorem owns_commit_iff :
    (p.commit w).Owns identity ↔ p.Owns identity ∨ w.identity = identity ∧ p.taken w ≠ [] := by
  simp only [Owns, commit_owners, List.mem_append]
  constructor
  · rintro ⟨key, hkey | hkey⟩
    · exact .inl ⟨key, hkey⟩
    · obtain ⟨u, hu, heq⟩ := List.mem_map.mp hkey
      exact .inr ⟨(Prod.mk.inj heq).2, List.ne_nil_of_mem hu⟩
  · rintro (⟨key, hkey⟩ | ⟨rfl, htaken⟩)
    · exact ⟨key, .inl hkey⟩
    · obtain ⟨u, hu⟩ := List.exists_mem_of_ne_nil _ htaken
      exact ⟨u.key, .inr (List.mem_map.mpr ⟨u, hu, rfl⟩)⟩

theorem Owns.foldl_commit (h : p.Owns identity) (ws : List Pending) :
    (ws.foldl Pass.commit p).Owns identity := by
  induction ws generalizing p with
  | nil => exact h
  | cons w ws ih => exact ih (owns_commit_iff.mpr (.inl h))

/-- A declaration of which no later pass has units had none of them taken. -/
theorem taken_eq_nil {ws : List Pending}
    (h : ¬ (ws.foldl Pass.commit (p.commit w)).Owns w.identity) : p.taken w = [] := by
  cases htaken : p.taken w with
  | nil => rfl
  | cons u us =>
      have howns : (p.commit w).Owns w.identity := owns_commit_iff.mpr (.inr ⟨rfl, by simp [htaken]⟩)
      exact absurd (howns.foldl_commit ws) h

theorem owns_foldl_commit_iff {ws : List Pending} (h : ∀ w ∈ ws, w.identity ≠ identity) :
    (ws.foldl Pass.commit p).Owns identity ↔ p.Owns identity := by
  induction ws generalizing p with
  | nil => exact .rfl
  | cons w ws ih =>
      have hother : w.identity ≠ identity := h w List.mem_cons_self
      rw [List.foldl_cons, ih fun w' hw' => h w' (List.mem_cons_of_mem w hw'), owns_commit_iff]
      simp [hother]

theorem mem_taken_iff {u : SourceUnit} (h : ¬ p.Owns w.identity) :
    u ∈ p.taken w ↔ u ∈ w.units ∧ (p.commit w).Owns w.identity := by
  rw [owns_commit_iff]
  unfold taken
  split
  · simp [h]
  · simpa [h] using List.ne_nil_of_mem

/-- Of declarations with distinct identities a pass has all units or none. -/
theorem mem_units_foldl_commit {ws : List Pending} {u : SourceUnit}
    (hdistinct : (ws.map (·.identity)).Nodup) (hnew : ∀ w ∈ ws, ¬ p.Owns w.identity) :
    u ∈ (ws.foldl Pass.commit p).units ↔
      u ∈ p.units ∨ ∃ w ∈ ws, u ∈ w.units ∧ (ws.foldl Pass.commit p).Owns w.identity := by
  induction ws generalizing p with
  | nil => simp
  | cons w ws ih =>
      obtain ⟨hfirst, hdistinct⟩ := List.nodup_cons.mp hdistinct
      have hother : ∀ w' ∈ ws, w'.identity ≠ w.identity :=
        fun w' hw' heq => hfirst (List.mem_map.mpr ⟨w', hw', heq⟩)
      have hrest : ∀ w' ∈ ws, ¬ (p.commit w).Owns w'.identity := by
        intro w' hw'
        rw [owns_commit_iff]
        rintro (howns | ⟨heq, -⟩)
        · exact hnew w' (List.mem_cons_of_mem w hw') howns
        · exact hother w' hw' heq.symm
      have hhead : u ∈ p.taken w ↔
          u ∈ w.units ∧ (ws.foldl Pass.commit (p.commit w)).Owns w.identity := by
        rw [owns_foldl_commit_iff hother, mem_taken_iff (hnew w List.mem_cons_self)]
      -- No later work has the identity, so that owning is decided by the first commit.
      rw [List.foldl_cons, ih hdistinct hrest, commit_units, List.mem_append, hhead, or_assoc]
      simp only [List.mem_cons, exists_eq_or_imp]

/-- Passes that differ in their diagnostics and logs at most. -/
structure SameUnits (p q : Pass) : Prop where
  units : p.units = q.units
  owners : p.owners = q.owners

variable {q : Pass}

theorem SameUnits.taken (h : p.SameUnits q) (w : Pending) : p.taken w = q.taken w := by
  rw [Pass.taken, Pass.taken, collision?, collision?, h.owners]

theorem SameUnits.refusal (h : p.SameUnits q) (w : Pending) : p.refusal w = q.refusal w := by
  rw [Pass.refusal, Pass.refusal, collision?, collision?, h.owners]

theorem SameUnits.commit (h : p.SameUnits q) (w : Pending) :
    (p.commit w).SameUnits (q.commit w) := by
  constructor
  · rw [commit_units, commit_units, h.units, h.taken]
  · rw [commit_owners, commit_owners, h.owners, h.taken]

/-- Nothing that a pass takes or reports depends on its earlier diagnostics. -/
theorem SameUnits.foldl_commit (h : p.SameUnits q) (ws : List Pending) :
    (ws.foldl Pass.commit p).SameUnits (ws.foldl Pass.commit q) ∧
      ∃ ds, (ws.foldl Pass.commit p).diagnostics = p.diagnostics ++ ds ∧
        (ws.foldl Pass.commit q).diagnostics = q.diagnostics ++ ds := by
  induction ws generalizing p q with
  | nil => exact ⟨h, [], by simp, by simp⟩
  | cons w ws ih =>
      obtain ⟨hsame, ds, hp, hq⟩ := ih (h.commit w)
      refine ⟨hsame, w.diagnostics ++ (p.refusal w).toList ++ ds, ?_, ?_⟩
      · rw [List.foldl_cons, hp, commit_diagnostics, List.append_assoc]
      · rw [List.foldl_cons, hq, commit_diagnostics, h.refusal, List.append_assoc]

theorem mem_diagnostics_foldl_commit {ws : List Pending} (hw : w ∈ ws) {e : Diagnostic}
    (he : e ∈ w.diagnostics) : e ∈ (ws.foldl Pass.commit p).diagnostics := by
  obtain ⟨before, after, rfl⟩ := List.append_of_mem hw
  have hsame : ((before.foldl Pass.commit p).commit w).SameUnits
      ((before.foldl Pass.commit p).commit w) := ⟨rfl, rfl⟩
  obtain ⟨-, ds, hds, -⟩ := hsame.foldl_commit after
  rw [List.foldl_append, List.foldl_cons, hds, commit_diagnostics]
  simp [he]

theorem sameUnits_commit (h : p.taken w = []) : (p.commit w).SameUnits p := by
  constructor
  · rw [commit_units, h, List.append_nil]
  · rw [commit_owners, h, List.map_nil, List.append_nil]

end Pass

end EndpointGen
