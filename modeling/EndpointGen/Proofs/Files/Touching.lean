/- What writing units into a directory changes in a file tree: missing directories on the way to it, and
   the files of the units right inside. -/
import EndpointGen.Proofs.Files.Grounding

namespace EndpointGen

/-- A change at a location, from the entry before to the entry after, where units are written into a
    directory. -/
inductive Change (directory : String) (us : List SourceUnit) (l : Location) :
    Option Entry → Option Entry → Prop where
  | kept (held : Option Entry) : Change directory us l held held
  | made (hway : Location.IsOn directory l) : Change directory us l none (some .directory)
  | written {before : Option Entry} (u : SourceUnit) (hmem : u ∈ us)
      (hplain : isPlainFileName u.key = true) (hplace : l = Location.ofPath directory ++ [u.key])
      (hfree : before ≠ some .directory) :
      Change directory us l before (some (.file (.text u.source)))

variable {directory : String} {us vs : List SourceUnit} {l : Location} {t t' t'' : FileTree}

/-- No change gives way to another: a directory stays, and a file is written over by files alone. -/
theorem Change.trans {before mid after : Option Entry} (h : Change directory us l before mid)
    (h' : Change directory us l mid after) : Change directory us l before after := by
  cases h with
  | kept => exact h'
  | made hway =>
      cases h' with
      | kept => exact .made hway
      | written _ _ _ _ hfree => exact absurd rfl hfree
  | written u hmem hplain hplace hfree =>
      cases h' with
      | kept => exact .written u hmem hplain hplace hfree
      | written v hmem' hplain' hplace' _ => exact .written v hmem' hplain' hplace' hfree

namespace FileTree

/-- Everywhere in a tree nothing else happened than writing units into a directory may do. -/
def Touches (directory : String) (us : List SourceUnit) (t t' : FileTree) : Prop :=
  ∀ l, Change directory us l (t.entry? l) (t'.entry? l)

theorem Touches.refl (t : FileTree) : Touches directory us t t := fun _ => .kept _

theorem Touches.trans (h : Touches directory us t t') (h' : Touches directory us t' t'') :
    Touches directory us t t'' :=
  fun l => (h l).trans (h' l)

theorem touches_set {e : Entry} (hroom : t.HasRoom l)
    (h : Change directory us l (t.entry? l) (some e)) : Touches directory us t (t.set l e) := by
  intro m
  by_cases hm : m = l
  · rw [hm, entry?_set_self hroom]
    exact h
  · rw [entry?_set_of_ne hm]
    exact .kept _

theorem makeDirectory_touches {path : String} (hway : Path.Leads path directory)
    (h : t.makeDirectory path = .ok t') : Touches directory us t t' := by
  unfold makeDirectory at h
  split at h
  · cases h
  · rename_i l hl
    split at h
    · cases h
    · cases h
    · rename_i hnone
      split at h
      · cases h
      · obtain rfl := Except.ok.inj h
        apply touches_set (hasRoom_of_locate hl (by simp [hnone]))
        rw [hnone, eq_ofPath_of_locate hl]
        exact .made (Location.isOn_of_leads hway)

theorem makeHighest_touches {missing above left : List String}
    (hmissing : ∀ p ∈ missing, Path.Leads p directory)
    (habove : ∀ p ∈ above, Path.Leads p directory)
    (h : t.makeHighest missing above = .ok (t', left)) :
    Touches directory us t t' ∧ ∀ p ∈ left, Path.Leads p directory := by
  induction above generalizing missing with
  | nil =>
      cases h
      exact ⟨.refl t, hmissing⟩
  | cons path above ih =>
      obtain ⟨hpath, habove⟩ := List.forall_mem_cons.mp habove
      simp only [makeHighest] at h
      split at h
      · cases h
        exact ⟨.refl t, hmissing⟩
      · split at h
        · rename_i hmade
          cases h
          exact ⟨makeDirectory_touches hpath hmade, hmissing⟩
        · -- A path whose parent is missing is put aside, and it lies on the way as well.
          exact ih (List.forall_mem_cons.mpr ⟨hpath, hmissing⟩) habove h
        · split at h
          · cases h
            exact ⟨.refl t, hmissing⟩
          · cases h
        · cases h

theorem makeEach_touches {paths : List String} (hpaths : ∀ p ∈ paths, Path.Leads p directory) :
    Touches directory us t (t.makeEach paths).1 := by
  induction paths generalizing t with
  | nil => exact .refl t
  | cons path paths ih =>
      obtain ⟨hpath, hrest⟩ := List.forall_mem_cons.mp hpaths
      simp only [makeEach]
      split
      · rename_i hmade
        exact (makeDirectory_touches hpath hmade).trans (ih hrest)
      · split
        · exact ih hrest
        · exact .refl t

/-- Making a directory touches nothing but what is missing on the way, also where it fails. -/
theorem makeDirectories_touches (t : FileTree) (directory : String) (us : List SourceUnit) :
    Touches directory us t (t.makeDirectories directory).1 := by
  unfold makeDirectories
  split
  · rename_i hmade
    obtain ⟨htouches, hleft⟩ := makeHighest_touches (List.forall_mem_nil _)
      (fun p hp => Path.ancestors_leads hp) hmade
    exact htouches.trans (makeEach_touches hleft)
  · exact .refl t

theorem write_touches {u : SourceUnit} (hmem : u ∈ us) (hplain : isPlainFileName u.key = true)
    (h : t.write (Path.join directory u.key) u.source = .ok t') : Touches directory us t t' := by
  unfold write at h
  split at h
  · cases h
  · rename_i l hl
    split at h
    · cases h
    · rename_i hfree
      split at h
      · cases h
      · obtain rfl := Except.ok.inj h
        apply touches_set (hasRoom_of_locate hl hfree)
        apply Change.written u hmem hplain _ hfree
        rw [eq_ofPath_of_locate hl, Location.ofPath_join hplain]

end FileTree

namespace Writing

variable {u : SourceUnit}

theorem unit_touches (w : Writing) (directory : String) (dryRun : Bool) (hmem : u ∈ us) :
    FileTree.Touches directory us w.tree (w.unit directory dryRun u).tree := by
  unfold unit
  split
  · rename_i hplain
    dsimp only
    split
    · exact .refl _
    · split
      · exact .refl _
      · unfold put
        split
        · rename_i hwritten
          exact FileTree.write_touches hmem hplain hwritten
        · exact .refl _
  · exact .refl _

theorem units_touches (w : Writing) (directory : String) (dryRun : Bool) (hsub : vs ⊆ us) :
    FileTree.Touches directory us w.tree (w.units directory dryRun vs).tree := by
  induction vs generalizing w with
  | nil => exact .refl _
  | cons v vs ih =>
      have hv := w.unit_touches directory dryRun (hsub List.mem_cons_self)
      simp only [units]
      split
      · -- What was written before a failure stays.
        exact hv
      · exact hv.trans (ih _ (List.subset_of_cons_subset hsub))

theorem unit_dryRun (w : Writing) (directory : String) (u : SourceUnit) :
    (w.unit directory true u).tree = w.tree := by
  unfold unit
  split
  · dsimp only
    split <;> rfl
  · rfl

theorem units_dryRun (w : Writing) (directory : String) (us : List SourceUnit) :
    (w.units directory true us).tree = w.tree := by
  induction us generalizing w with
  | nil => rfl
  | cons u us ih =>
      simp only [units]
      split
      · exact w.unit_dryRun directory u
      · rw [ih, unit_dryRun]

end Writing

theorem writeUnits_touches (t : FileTree) (directory : String) (us : List SourceUnit)
    (dryRun : Bool) : FileTree.Touches directory us t (writeUnits t directory us dryRun).tree := by
  have hunits : ∀ t' : FileTree, FileTree.Touches directory us t'
      ((Writing.start t').units directory dryRun us).tree := by
    intro t'
    exact (Writing.start t').units_touches directory dryRun (List.Subset.refl us)
  have hmade := t.makeDirectories_touches directory us
  unfold writeUnits
  split
  · exact hunits t
  · split
    · exact hunits t
    · split
      · rename_i t' hdirectories
        rw [hdirectories] at hmade
        exact hmade.trans (hunits t')
      · rename_i t' e hdirectories
        rw [hdirectories] at hmade
        exact hmade

theorem writeUnits_dryRun (t : FileTree) (directory : String) (us : List SourceUnit) :
    (writeUnits t directory us true).tree = t := by
  rw [writeUnits, if_pos rfl]
  exact (Writing.start t).units_dryRun directory us

end EndpointGen
