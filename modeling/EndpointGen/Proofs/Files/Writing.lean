/- Writing source units: a key that is no plain file name stops the writing where it stands, and nothing
   else stops it but the file tree. -/
import EndpointGen.Files.Output

namespace EndpointGen

/-- What no plain file name has. -/
def HasSeparator (name : String) : Prop := '/' ∈ name.toList ∨ '\\' ∈ name.toList

instance (name : String) : Decidable (HasSeparator name) :=
  inferInstanceAs (Decidable (_ ∨ _))

theorem hasSeparator_append {name ending : String} :
    HasSeparator (name ++ ending) ↔ HasSeparator name ∨ HasSeparator ending := by
  simp only [HasSeparator, String.toList_append, List.mem_append]
  exact or_or_or_comm

/-- With an ending of some length a name is a plain file name unless it has a separator. -/
theorem isPlainFileName_append {name ending : String} (hlong : 2 < ending.length)
    (hending : ¬ HasSeparator ending) :
    isPlainFileName (name ++ ending) = false ↔ HasSeparator name := by
  have hother : ∀ key : String, key.length ≤ 2 → (name ++ ending != key) = true := by
    intro key hkey
    rw [bne_iff_ne]
    rintro rfl
    rw [String.length_append] at hkey
    omega
  have hplain : isPlainFileName (name ++ ending) = true ↔ ¬ HasSeparator (name ++ ending) := by
    simp [isPlainFileName, hother "" (by decide), hother "." (by decide), hother ".." (by decide),
      HasSeparator]
  rw [← Bool.not_eq_true, hplain, hasSeparator_append, or_iff_left hending, Decidable.not_not]

namespace Writing

variable {directory : String} {dryRun : Bool} {w : Writing} {u : SourceUnit} {us : List SourceUnit}
  {f : Failure}

/-- The writing with its failure, or stopped now at a key that is no plain file name. -/
def stopAt (w : Writing) (key : String) : Writing :=
  match w.failure? with
  | some _ => w
  | none => w.fail (.ofCause (.keyNotPlain key))

theorem stopAt_failure (w : Writing) (key : String) : (w.stopAt key).failure?.isSome = true := by
  unfold stopAt
  cases hf : w.failure? with
  | none => rfl
  | some f => simp [hf]

theorem unit_failure (hplain : isPlainFileName u.key = true) (hstart : w.failure? = none)
    (h : (w.unit directory dryRun u).failure? = some f) : ∃ e, f.cause = .file e := by
  simp only [unit, hplain, if_true] at h
  split at h
  · simp [keepUnchanged, hstart] at h
  · split at h
    · simp [announce, hstart] at h
    · unfold put at h
      split at h
      · simp [hstart] at h
      · rename_i e _
        exact ⟨e, by rw [← Option.some.inj h]⟩

/-- What comes after a key that is no plain file name is not written. -/
theorem units_stopAt (hkey : isPlainFileName u.key = false) (hstart : w.failure? = none)
    (before after : List SourceUnit) :
    w.units directory dryRun (before ++ u :: after) =
      (w.units directory dryRun before).stopAt u.key := by
  induction before generalizing w with
  | nil => simp [units, unit, hkey, stopAt, hstart, fail]
  | cons v before ih =>
      simp only [List.cons_append, units]
      cases hv : (w.unit directory dryRun v).failure? with
      | none => exact ih hv
      | some f => simp [stopAt, hv]

theorem units_failure (hplain : ∀ u ∈ us, isPlainFileName u.key = true) (hstart : w.failure? = none)
    (h : (w.units directory dryRun us).failure? = some f) : ∃ e, f.cause = .file e := by
  induction us generalizing w with
  | nil => simp [units, hstart] at h
  | cons u us ih =>
      simp only [units] at h
      cases hu : (w.unit directory dryRun u).failure? with
      | none =>
          simp only [hu] at h
          exact ih (fun v hv => hplain v (List.mem_cons_of_mem u hv)) hu h
      | some f' =>
          simp only [hu, Option.some.injEq] at h
          exact unit_failure (hplain u List.mem_cons_self) hstart (h ▸ hu)

end Writing

variable {t : FileTree} {directory : String} {dryRun : Bool}

/-- Writing starts in a tree that does not depend on the units, or fails there on the file tree. -/
theorem writeUnits_cases (t : FileTree) (directory : String) (dryRun : Bool) :
    (∃ t' : FileTree, ∀ us, writeUnits t directory us dryRun =
        (Writing.start t').units directory dryRun us) ∨
      ∃ (w : Writing) (f : Failure) (e : FileError), w.failure? = some f ∧ f.cause = .file e ∧
        ∀ us, writeUnits t directory us dryRun = w := by
  unfold writeUnits
  by_cases hdry : dryRun = true
  · exact .inl ⟨t, fun us => by simp [hdry]⟩
  · by_cases hdirectory : directory = ""
    · exact .inl ⟨t, fun us => by simp [hdirectory]⟩
    · rcases hmade : t.makeDirectories directory with ⟨t', _ | e⟩
      · exact .inl ⟨t', fun us => by simp [hdry, hdirectory]⟩
      · refine .inr ⟨(Writing.start t').fail
          ⟨.file e, ["Failed to create output directory " ++ directory]⟩, _, e, rfl, rfl, ?_⟩
        exact fun us => by simp [hdry, hdirectory]

theorem writeUnits_stopAt {u : SourceUnit} (hkey : isPlainFileName u.key = false)
    (before after : List SourceUnit) :
    writeUnits t directory (before ++ u :: after) dryRun =
      (writeUnits t directory before dryRun).stopAt u.key := by
  rcases writeUnits_cases t directory dryRun with ⟨t', h⟩ | ⟨w, f, e, hf, -, h⟩
  · rw [h, h]
    exact Writing.units_stopAt hkey rfl before after
  · rw [h, h]
    simp [Writing.stopAt, hf]

theorem writeUnits_failure {us : List SourceUnit} {f : Failure}
    (hplain : ∀ u ∈ us, isPlainFileName u.key = true)
    (h : (writeUnits t directory us dryRun).failure? = some f) : ∃ e, f.cause = .file e := by
  rcases writeUnits_cases t directory dryRun with ⟨t', hcase⟩ | ⟨w, f', e, hf, he, hcase⟩
  · rw [hcase] at h
    exact Writing.units_failure hplain rfl h
  · rw [hcase, hf] at h
    exact ⟨e, by rw [← Option.some.inj h, he]⟩

end EndpointGen
