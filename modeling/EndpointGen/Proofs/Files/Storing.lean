/- Storing units: writing that goes through leaves every file of a unit with its source and all other files
   as they were, and writing again finds everything in place; where it stops, the units before are stored. -/
import EndpointGen.Proofs.Files.Reading

namespace EndpointGen

variable {t t' : FileTree} {directory : String} {dryRun : Bool} {u v : SourceUnit}
  {us vs : List SourceUnit} {w w' w'' : Writing} {f : Failure}

namespace SourceUnit

def pathIn (directory : String) (u : SourceUnit) : String := Path.join directory u.key

def placeIn (directory : String) (u : SourceUnit) : Location := Location.ofPath (u.pathIn directory)

/-- The file of the unit has exactly its source. -/
def HeldIn (t : FileTree) (directory : String) (u : SourceUnit) : Prop :=
  t.entry? (u.placeIn directory) = some (.file (.text u.source))

instance (t : FileTree) (directory : String) (u : SourceUnit) : Decidable (u.HeldIn t directory) :=
  inferInstanceAs (Decidable (_ = _))

theorem key_eq_of_place (hu : isPlainFileName u.key = true) (hv : isPlainFileName v.key = true)
    (h : u.placeIn directory = v.placeIn directory) : u.key = v.key := by
  unfold placeIn pathIn at h
  rw [Location.ofPath_join hu, Location.ofPath_join hv] at h
  exact List.singleton_inj.mp (List.append_cancel_left h)

end SourceUnit

namespace Writing

/-- From one state of writing to a later one, units were stored: their files hold their sources, every other
    file is as it was, and the paths of the units are told in their order, as unchanged where the file had
    the source already and as written elsewhere. -/
structure Stored (directory : String) (us : List SourceUnit) (w w' : Writing) : Prop where
  plain : ∀ u ∈ us, isPlainFileName u.key = true
  sources : ∀ u ∈ us, w'.tree.read (u.pathIn directory) = .ok u.source
  elsewhere : ∀ l, (∀ u ∈ us, l ≠ u.placeIn directory) →
    ∀ c, w'.tree.entry? l = some (.file c) ↔ w.tree.entry? l = some (.file c)
  directories : w.tree.KeepsDirectories w'.tree
  written : w'.written =
    w.written ++ (us.filter fun u => ¬ u.HeldIn w.tree directory).map (·.pathIn directory)
  unchanged : w'.unchanged =
    w.unchanged ++ (us.filter fun u => u.HeldIn w.tree directory).map (·.pathIn directory)

theorem holds_iff {path text : String} : holds t path text = true ↔ t.read path = .ok text := by
  unfold holds
  cases t.read path <;> simp

namespace Stored

theorem of_touches (h : FileTree.Touches directory [] t t') :
    Stored directory [] (start t) (start t') where
  plain := List.forall_mem_nil _
  sources := List.forall_mem_nil _
  elsewhere := fun _ _ _ => h.file_iff (List.forall_mem_nil _)
  directories := h.keepsDirectories
  written := rfl
  unchanged := rfl

theorem refl (directory : String) (w : Writing) : Stored directory [] w w where
  plain := List.forall_mem_nil _
  sources := List.forall_mem_nil _
  elsewhere := fun _ _ _ => Iff.rfl
  directories := fun _ => id
  written := (List.append_nil _).symm
  unchanged := (List.append_nil _).symm

theorem fail (h : Stored directory us w w') (f : Failure) : Stored directory us w (w'.fail f) :=
  ⟨h.plain, h.sources, h.elsewhere, h.directories, h.written, h.unchanged⟩

/-- Units of other keys are held after some were stored where they were held before. -/
theorem heldIn_iff (h : Stored directory us w w') (hv : isPlainFileName v.key = true)
    (hkey : ∀ u ∈ us, u.key ≠ v.key) : v.HeldIn w'.tree directory ↔ v.HeldIn w.tree directory := by
  apply h.elsewhere
  intro u hu heq
  exact hkey u hu (SourceUnit.key_eq_of_place (h.plain u hu) hv heq.symm)

theorem read_kept (h : Stored directory vs w w') (hu : isPlainFileName u.key = true)
    (hkey : ∀ v ∈ vs, v.key ≠ u.key) (hread : w.tree.read (u.pathIn directory) = .ok u.source) :
    w'.tree.read (u.pathIn directory) = .ok u.source := by
  obtain ⟨hreaches, hheld, hidle⟩ := FileTree.read_eq_ok_iff.mp hread
  exact FileTree.read_eq_ok_iff.mpr
    ⟨hreaches.mono h.directories, (h.heldIn_iff hu hkey).mpr hheld, hidle⟩

theorem trans (h : Stored directory us w w') (h' : Stored directory vs w' w'')
    (hkeys : ((us ++ vs).map (·.key)).Nodup) : Stored directory (us ++ vs) w w'' := by
  have hapart : ∀ u ∈ us, ∀ v ∈ vs, u.key ≠ v.key := by
    intro u hu v hv
    rw [List.map_append, List.nodup_append] at hkeys
    exact hkeys.2.2 _ (List.mem_map_of_mem hu) _ (List.mem_map_of_mem hv)
  have hheld : ∀ v ∈ vs, v.HeldIn w'.tree directory ↔ v.HeldIn w.tree directory := by
    intro v hv
    exact h.heldIn_iff (h'.plain v hv) fun u hu => hapart u hu v hv
  have hfilter : (vs.filter fun v => v.HeldIn w'.tree directory) =
      vs.filter fun v => v.HeldIn w.tree directory :=
    List.filter_congr fun v hv => decide_eq_decide.mpr (hheld v hv)
  have hother : (vs.filter fun v => ¬ v.HeldIn w'.tree directory) =
      vs.filter fun v => ¬ v.HeldIn w.tree directory :=
    List.filter_congr fun v hv => decide_eq_decide.mpr (not_congr (hheld v hv))
  refine ⟨?_, ?_, ?_, h.directories.trans h'.directories, ?_, ?_⟩
  · exact List.forall_mem_append.mpr ⟨h.plain, h'.plain⟩
  · refine List.forall_mem_append.mpr ⟨?_, h'.sources⟩
    intro u hu
    exact h'.read_kept (h.plain u hu) (fun v hv => (hapart u hu v hv).symm) (h.sources u hu)
  · intro l hl c
    obtain ⟨hus, hvs⟩ := List.forall_mem_append.mp hl
    exact (h'.elsewhere l hvs c).trans (h.elsewhere l hus c)
  · rw [h'.written, h.written, hother, List.filter_append, List.map_append, List.append_assoc]
  · rw [h'.unchanged, h.unchanged, hfilter, List.filter_append, List.map_append, List.append_assoc]

theorem kept (hplain : isPlainFileName u.key = true)
    (hread : w.tree.read (u.pathIn directory) = .ok u.source) :
    Stored directory [u] w (w.keepUnchanged (u.pathIn directory)) := by
  have hheld : u.HeldIn w.tree directory := (FileTree.read_eq_ok_iff.mp hread).2.1
  constructor
  case plain => exact List.forall_mem_singleton.mpr hplain
  case sources => exact List.forall_mem_singleton.mpr hread
  case elsewhere => exact fun _ _ _ => Iff.rfl
  case directories => exact fun _ => id
  case written => simp [keepUnchanged, hheld]
  case unchanged => simp [keepUnchanged, hheld]

theorem put (hplain : isPlainFileName u.key = true)
    (hread : w.tree.read (u.pathIn directory) ≠ .ok u.source)
    (hwrite : w.tree.write (u.pathIn directory) u.source = .ok t') (log : List Event) :
    Stored directory [u] w
      ⟨t', w.written ++ [u.pathIn directory], w.unchanged, log, w.failure?⟩ := by
  obtain ⟨hreaches, -, hidle, htree⟩ := FileTree.write_eq_ok_iff.mp hwrite
  have hheld : ¬ u.HeldIn w.tree directory := fun hheld =>
    hread (FileTree.read_eq_ok_iff.mpr ⟨hreaches, hheld, hidle⟩)
  constructor
  case plain => exact List.forall_mem_singleton.mpr hplain
  case sources => exact List.forall_mem_singleton.mpr (FileTree.read_of_write hwrite)
  case elsewhere =>
    intro l hl c
    have hne : l ≠ Location.ofPath (u.pathIn directory) := hl u List.mem_cons_self
    have hsame : t'.entry? l = w.tree.entry? l := by rw [htree, FileTree.entry?_set_of_ne hne]
    rw [← hsame]
  case directories => exact FileTree.keepsDirectories_of_write hwrite
  case written => simp [hheld]
  case unchanged => simp [hheld]

end Stored

/-- What stops the writing at a unit: its key, or the file tree. -/
inductive Stops (directory : String) (u : SourceUnit) : Failure → Prop where
  | key (hkey : isPlainFileName u.key = false) : Stops directory u (.ofCause (.keyNotPlain u.key))
  | file (hplain : isPlainFileName u.key = true) (e : FileError) :
      Stops directory u ⟨.file e, ["Failed to write " ++ u.pathIn directory]⟩

/-- One unit is stored, or stops the writing with nothing changed. -/
theorem unit_cases (w : Writing) (directory : String) (u : SourceUnit) :
    ((w.unit directory false u).failure? = w.failure? ∧
        Stored directory [u] w (w.unit directory false u)) ∨
      ∃ f, Stops directory u f ∧ w.unit directory false u = w.fail f := by
  unfold unit
  split
  · rename_i hplain
    dsimp only
    split
    · rename_i hholds
      exact .inl ⟨rfl, .kept hplain (holds_iff.mp hholds)⟩
    · rename_i hholds
      rw [if_neg Bool.false_ne_true]
      unfold Writing.put
      split
      · rename_i t' hwrite
        exact .inl ⟨rfl, .put hplain (fun hread => hholds (holds_iff.mpr hread)) hwrite _⟩
      · rename_i e _
        exact .inr ⟨_, .file hplain e, rfl⟩
  · rename_i hkey
    exact .inr ⟨_, .key (Bool.eq_false_iff.mpr hkey), rfl⟩

/-- Writing stores all units, or those before the one that stops it. -/
theorem units_cases (hstart : w.failure? = none) (hkeys : (us.map (·.key)).Nodup) :
    ((w.units directory false us).failure? = none ∧
        Stored directory us w (w.units directory false us)) ∨
      ∃ before u after f, us = before ++ u :: after ∧ Stops directory u f ∧
        (w.units directory false before).failure? = none ∧
        Stored directory before w (w.units directory false before) ∧
        w.units directory false us = (w.units directory false before).fail f := by
  induction us generalizing w with
  | nil => exact .inl ⟨hstart, .refl directory w⟩
  | cons u us ih =>
      simp only [units]
      rcases w.unit_cases directory u with ⟨hok, hstored⟩ | ⟨f, hstops, hfail⟩
      · rw [hstart] at hok
        simp only [hok]
        rcases ih hok (List.nodup_cons.mp hkeys).2 with ⟨hend, hrest⟩ | h
        · -- The later units have other keys, so that what is stored first stays.
          exact .inl ⟨hend, hstored.trans hrest hkeys⟩
        · obtain ⟨before, v, after, f, rfl, hstops, hbefore, hrest, hfail⟩ := h
          refine .inr ⟨u :: before, v, after, f, rfl, hstops, ?_⟩
          simp only [units, hok]
          refine ⟨hbefore, hstored.trans hrest ?_, hfail⟩
          exact hkeys.sublist (by simp)
      · rw [hfail]
        exact .inr ⟨[], u, us, f, rfl, hstops, hstart, .refl directory w, rfl⟩

theorem units_of_read (hstart : w.failure? = none) (hplain : ∀ u ∈ us, isPlainFileName u.key = true)
    (hread : ∀ u ∈ us, w.tree.read (u.pathIn directory) = .ok u.source) :
    w.units directory dryRun us =
      { w with
        unchanged := w.unchanged ++ us.map (·.pathIn directory)
        log := w.log ++ us.map fun u => .fileUnchanged (u.pathIn directory) } := by
  induction us generalizing w with
  | nil => simp [units]
  | cons u us ih =>
      obtain ⟨hu, hus⟩ := List.forall_mem_cons.mp hplain
      obtain ⟨hheld, hrest⟩ := List.forall_mem_cons.mp hread
      have hunit : w.unit directory dryRun u = w.keepUnchanged (u.pathIn directory) := by
        rw [unit, if_pos hu]
        exact if_pos (holds_iff.mpr hheld)
      have hok : (w.keepUnchanged (u.pathIn directory)).failure? = none := hstart
      simp only [units, hunit, hok]
      rw [ih hok hus hrest]
      simp [keepUnchanged]

end Writing

/-- Writing into a directory starts where it is there, with all files as they were, or fails to make it. -/
theorem writeUnits_start (t : FileTree) (directory : String) :
    (∃ t', Writing.Stored directory [] (.start t) (.start t') ∧
        (directory = "" ∨ t'.isDirectory directory = true) ∧
        ∀ us, writeUnits t directory us false = (Writing.start t').units directory false us) ∨
      directory ≠ "" ∧ ∃ t' e, Writing.Stored directory [] (.start t) (.start t') ∧
        ∀ us, writeUnits t directory us false =
          (Writing.start t').fail ⟨.file e, ["Failed to create output directory " ++ directory]⟩ := by
  by_cases hempty : directory = ""
  · refine .inl ⟨t, .refl directory _, .inl hempty, fun us => ?_⟩
    simp [writeUnits, hempty]
  · have htouches := t.makeDirectories_touches directory []
    rcases hmade : t.makeDirectories directory with ⟨t', _ | e⟩
    · rw [hmade] at htouches
      have hthere := FileTree.makeDirectories_isDirectory hempty (congrArg Prod.snd hmade)
      rw [hmade] at hthere
      refine .inl ⟨t', .of_touches htouches, .inr hthere, fun us => ?_⟩
      simp [writeUnits, hempty, hmade]
    · rw [hmade] at htouches
      refine .inr ⟨hempty, t', e, .of_touches htouches, fun us => ?_⟩
      simp [writeUnits, hempty, hmade]

theorem writeUnits_of_isDirectory (h : directory = "" ∨ t.isDirectory directory = true) :
    writeUnits t directory us false = (Writing.start t).units directory false us := by
  by_cases hempty : directory = ""
  · simp [writeUnits, hempty]
  · have hmade := FileTree.makeDirectories_of_isDirectory hempty (h.resolve_left hempty)
    simp [writeUnits, hempty, hmade]

theorem writeUnits_again (h : Writing.Stored directory us w w')
    (hthere : directory = "" ∨ w'.tree.isDirectory directory = true) :
    writeUnits w'.tree directory us false =
      ⟨w'.tree, [], us.map (·.pathIn directory), us.map fun u => .fileUnchanged (u.pathIn directory),
        none⟩ := by
  rw [writeUnits_of_isDirectory hthere]
  exact Writing.units_of_read rfl h.plain h.sources

/-- Writing stopped at a unit: it ended as it does for the units before, which are stored, and the files of
    the units from there on are as they were. -/
structure StoppedAt (t : FileTree) (directory : String) (before : List SourceUnit) (u : SourceUnit)
    (after : List SourceUnit) (f : Failure) (w : Writing) : Prop where
  stops : Writing.Stops directory u f
  completes : (writeUnits t directory before false).failure? = none
  ends : w = (writeUnits t directory before false).fail f
  stored : Writing.Stored directory before (.start t) w
  later : ∀ v ∈ u :: after, isPlainFileName v.key = true →
    ∀ c, w.tree.entry? (v.placeIn directory) = some (.file c) ↔
      t.entry? (v.placeIn directory) = some (.file c)

/-- Writing units of distinct keys stores them all, or tells why not: no directory could be made, and every
    file is as it was, or one unit stopped it. -/
theorem writeUnits_stores (hkeys : (us.map (·.key)).Nodup)
    (hw : writeUnits t directory us false = w) :
    (w.failure? = none → Writing.Stored directory us (.start t) w ∧
      writeUnits w.tree directory us false =
        ⟨w.tree, [], us.map (·.pathIn directory), us.map fun u => .fileUnchanged (u.pathIn directory),
          none⟩) ∧
      ∀ f, w.failure? = some f →
        directory ≠ "" ∧ (∃ e, f = ⟨.file e, ["Failed to create output directory " ++ directory]⟩ ∧
          Writing.Stored directory [] (.start t) w) ∨
        ∃ before u after, us = before ++ u :: after ∧ StoppedAt t directory before u after f w := by
  rcases writeUnits_start t directory with ⟨t', hmade, hthere, hunits⟩ | ⟨hne, t', e, hmade, hfail⟩
  · rw [hunits] at hw
    subst hw
    rcases Writing.units_cases (w := .start t') rfl hkeys with ⟨hok, hstored⟩ | h
    · refine ⟨fun _ => ⟨hmade.trans hstored hkeys, writeUnits_again hstored ?_⟩, fun f hf => ?_⟩
      · exact hthere.imp_right (FileTree.isDirectory_mono hstored.directories)
      · rw [hok] at hf
        cases hf
    · obtain ⟨before, u, after, f, rfl, hstops, hbefore, hunitsStored, hends⟩ := h
      rw [List.map_append, List.nodup_append] at hkeys
      obtain ⟨hbeforeKeys, -, hapart⟩ := hkeys
      have hstored := (hmade.trans hunitsStored hbeforeKeys).fail f
      rw [hends]
      refine ⟨nofun, fun f' hf => .inr ⟨before, u, after, rfl, ?_⟩⟩
      obtain rfl := Option.some.inj hf
      refine ⟨hstops, ?_, ?_, hstored, fun v hv hplain c => ?_⟩
      · rw [hunits, hbefore]
      · rw [hunits]
      · apply hstored.elsewhere
        intro b hb hplace
        exact hapart _ (List.mem_map_of_mem hb) _ (List.mem_map_of_mem hv)
          (SourceUnit.key_eq_of_place (hstored.plain b hb) hplain hplace.symm)
  · rw [hfail] at hw
    subst hw
    exact ⟨nofun, fun f hf => .inl ⟨hne, e, (Option.some.inj hf).symm, hmade.fail _⟩⟩

/-- A directory in which one file has the source of its unit and another file has not. -/
def halfStored : FileTree :=
  (FileTree.empty.place "out/A.g.cs" (.text "a")).place "out/B.g.cs" (.text "old")

theorem halfStored_stores :
    (∃ w, writeUnits halfStored "out" [⟨"A.g.cs", "a"⟩, ⟨"B.g.cs", "b"⟩, ⟨"C.g.cs", "c"⟩] false = w ∧
      w.written = ["out/B.g.cs", "out/C.g.cs"] ∧ w.unchanged = ["out/A.g.cs"] ∧
      w.tree.read "out/B.g.cs" = .ok "b") ∧
    ∃ w before u after f,
      writeUnits halfStored "out" [⟨"B.g.cs", "b"⟩, ⟨"../C.g.cs", "c"⟩, ⟨"A.g.cs", "x"⟩] false = w ∧
        StoppedAt halfStored "out" before u after f w := by
  constructor
  · have hkeys : ([⟨"A.g.cs", "a"⟩, ⟨"B.g.cs", "b"⟩, ⟨"C.g.cs", "c"⟩].map SourceUnit.key).Nodup := by
      decide
    obtain ⟨hstores, -⟩ :=
      writeUnits_stores hkeys (rfl : writeUnits halfStored "out" _ false = _)
    obtain ⟨hstored, -⟩ := hstores rfl
    refine ⟨_, rfl, hstored.written, hstored.unchanged, ?_⟩
    exact hstored.sources ⟨"B.g.cs", "b"⟩ (by simp)
  · have hkeys : ([⟨"B.g.cs", "b"⟩, ⟨"../C.g.cs", "c"⟩, ⟨"A.g.cs", "x"⟩].map SourceUnit.key).Nodup := by
      decide
    obtain ⟨-, hstops⟩ :=
      writeUnits_stores hkeys (rfl : writeUnits halfStored "out" _ false = _)
    rcases hstops _ rfl with ⟨-, e, hfailed, -⟩ | ⟨before, u, after, -, hstopped⟩
    · cases hfailed
    · exact ⟨_, before, u, after, _, rfl, hstopped⟩

end EndpointGen
