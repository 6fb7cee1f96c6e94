/- Dry runs: a dry run reads every file as it is at first, and where writing goes through it tells what the
   writing does. No file of a unit is in a directory that has yet to be made, and no unit changes the file of
   another. -/
import EndpointGen.Proofs.Files.Storing

namespace EndpointGen

variable {t : FileTree} {directory : String} {u : SourceUnit} {us : List SourceUnit} {w : Writing}

namespace Writing

theorem unit_dryRun_eq (w : Writing) (directory : String) (hplain : isPlainFileName u.key = true) :
    w.unit directory true u =
      if holds w.tree (u.pathIn directory) u.source then w.keepUnchanged (u.pathIn directory)
      else w.announce (u.pathIn directory) := by
  rw [unit, if_pos hplain]
  rfl

/-- A dry run goes through all units with plain keys, each judged by the files as they are. -/
theorem units_dryRun_tells (directory : String) (hstart : w.failure? = none)
    (hplain : ∀ u ∈ us, isPlainFileName u.key = true) :
    (w.units directory true us).failure? = none ∧
      (w.units directory true us).written = w.written ++
        (us.filter fun u => !holds w.tree (u.pathIn directory) u.source).map (·.pathIn directory) ∧
      (w.units directory true us).unchanged = w.unchanged ++
        (us.filter fun u => holds w.tree (u.pathIn directory) u.source).map (·.pathIn directory) := by
  induction us generalizing w with
  | nil => simp [units, hstart]
  | cons u us ih =>
      obtain ⟨hu, hus⟩ := List.forall_mem_cons.mp hplain
      have hunit := w.unit_dryRun_eq directory hu
      have hok : (w.unit directory true u).failure? = none := by
        rw [hunit]
        split <;> exact hstart
      obtain ⟨hend, hwritten, hunchanged⟩ := ih hok hus
      simp only [units, hok]
      refine ⟨hend, ?_, ?_⟩
      · rw [hwritten, w.unit_dryRun directory u, hunit]
        cases hholds : holds w.tree (u.pathIn directory) u.source with
        | true => simp [keepUnchanged, hholds]
        | false => simp [announce, hholds]
      · rw [hunchanged, w.unit_dryRun directory u, hunit]
        cases hholds : holds w.tree (u.pathIn directory) u.source with
        | true => simp [keepUnchanged, hholds]
        | false => simp [announce, hholds]

end Writing

theorem stored_of_writeUnits (hkeys : (us.map (·.key)).Nodup)
    (hok : (writeUnits t directory us false).failure? = none) :
    Writing.Stored directory us (.start t) (writeUnits t directory us false) := by
  rcases writeUnits_start t directory with ⟨t', hmade, -, hunits⟩ | ⟨-, t', e, -, hfail⟩
  · rw [hunits] at hok ⊢
    rcases Writing.units_cases (w := .start t') rfl hkeys with ⟨-, hstored⟩ | h
    · exact hmade.trans hstored hkeys
    · obtain ⟨before, u, after, f, -, -, -, -, hend⟩ := h
      rw [hend] at hok
      cases hok
  · rw [hfail] at hok
    cases hok

/-- Where units are stored, a file has the source of its unit to a reader exactly if it has it at all. -/
theorem Writing.Stored.holds_iff_heldIn {w' : Writing} (h : Stored directory us w w')
    (hup : ".." ∉ Path.names directory) (hu : u ∈ us) :
    holds w.tree (u.pathIn directory) u.source = true ↔ u.HeldIn w.tree directory := by
  rw [holds_iff]
  constructor
  · intro hread
    exact (FileTree.read_eq_ok_iff.mp hread).2.1
  · intro hheld
    have hplain := h.plain u hu
    have hdown : ".." ∉ Path.steps (u.pathIn directory) := by
      rw [SourceUnit.pathIn, (Path.join_eq directory hplain).2, List.mem_append, List.mem_singleton]
      rintro (hmem | hkey)
      · exact hup (List.mem_filter.mp hmem).1
      · exact (isPlainFileName_iff.mp hplain).2.2.1 hkey.symm
    exact FileTree.read_of_entry hdown (h.sources u hu) hheld

/-- A dry run leaves the files as they are, however it ends. Where writing units of distinct keys into a
    directory that is named without going up goes through, the dry run goes through with the same report. -/
theorem dryRun_predicts (t : FileTree) (directory : String) (us : List SourceUnit) :
    (writeUnits t directory us true).tree = t ∧
      (".." ∉ Path.names directory → (us.map (·.key)).Nodup →
        (writeUnits t directory us false).failure? = none →
        (writeUnits t directory us true).failure? = none ∧
          (writeUnits t directory us true).written = (writeUnits t directory us false).written ∧
          (writeUnits t directory us true).unchanged =
            (writeUnits t directory us false).unchanged) := by
  refine ⟨writeUnits_dryRun t directory us, fun hup hkeys hok => ?_⟩
  have hstored := stored_of_writeUnits hkeys hok
  have hdry : writeUnits t directory us true = (Writing.start t).units directory true us := if_pos rfl
  obtain ⟨hend, hwritten, hunchanged⟩ :=
    Writing.units_dryRun_tells (w := .start t) directory rfl hstored.plain
  have hheld : ∀ u ∈ us, Writing.holds t (u.pathIn directory) u.source = true ↔ u.HeldIn t directory :=
    fun u hu => hstored.holds_iff_heldIn hup hu
  have hkept : (us.filter fun u => Writing.holds t (u.pathIn directory) u.source) =
      us.filter fun u => u.HeldIn t directory :=
    List.filter_congr fun u hu => by rw [Bool.eq_iff_iff, hheld u hu, decide_eq_true_iff]
  have hput : (us.filter fun u => !Writing.holds t (u.pathIn directory) u.source) =
      us.filter fun u => ¬ u.HeldIn t directory :=
    List.filter_congr fun u hu => by simp [← hheld u hu]
  rw [hdry]
  refine ⟨hend, ?_, ?_⟩
  · rw [hwritten, hstored.written]
    exact congrArg (fun put => [] ++ put.map (·.pathIn directory)) hput
  · rw [hunchanged, hstored.unchanged]
    exact congrArg (fun kept => [] ++ kept.map (·.pathIn directory)) hkept

theorem halfStored_predicted :
    ∃ w, writeUnits halfStored "out" [⟨"A.g.cs", "a"⟩, ⟨"B.g.cs", "b"⟩, ⟨"C.g.cs", "c"⟩] true = w ∧
      w.failure? = none ∧ w.written = ["out/B.g.cs", "out/C.g.cs"] ∧ w.unchanged = ["out/A.g.cs"] ∧
      w.tree = halfStored := by
  obtain ⟨htree, hpredicts⟩ :=
    dryRun_predicts halfStored "out" [⟨"A.g.cs", "a"⟩, ⟨"B.g.cs", "b"⟩, ⟨"C.g.cs", "c"⟩]
  obtain ⟨hend, hwritten, hunchanged⟩ := hpredicts (by decide) (by decide) rfl
  exact ⟨_, rfl, hend, hwritten, hunchanged, htree⟩

end EndpointGen
