/- Reading and writing paths: a path stays in reach as long as no directory is lost, so that a file once
   written is read back whatever is written elsewhere, and a directory once made is there. A path without a
   step up is in reach as soon as there is an entry at its end. -/
import EndpointGen.Proofs.Files.Touching

namespace EndpointGen

namespace FileTree

variable {t t' : FileTree} {l l' : Location} {name path text directory : String}
  {us : List SourceUnit} {paths missing above left : List String}

/-- Every directory of a tree is one of the later tree. -/
def KeepsDirectories (t t' : FileTree) : Prop :=
  ∀ l, t.entry? l = some .directory → t'.entry? l = some .directory

theorem KeepsDirectories.trans {t'' : FileTree} (h : KeepsDirectories t t')
    (h' : KeepsDirectories t' t'') : KeepsDirectories t t'' :=
  fun l hl => h' l (h l hl)

theorem keepsDirectories_set (t : FileTree) (l : Location) (e : Entry) :
    KeepsDirectories t (t.set l e) := by
  intro m hm
  unfold set
  split
  · rename_i hroom
    exact directory_insertIn hroom e hm
  · exact hm

theorem Touches.keepsDirectories (h : Touches directory us t t') : KeepsDirectories t t' := by
  intro l hl
  have hchange := h l
  rw [hl] at hchange
  generalize t'.entry? l = after at hchange
  cases hchange with
  | kept => rfl
  | written u hmem hplain hplace hfree => exact absurd rfl hfree

/-- Where no unit belongs the files are the same before and after. -/
theorem Touches.file_iff (h : Touches directory us t t') {c : Content}
    (hplace : ∀ u ∈ us, isPlainFileName u.key = true → l ≠ Location.ofPath directory ++ [u.key]) :
    t'.entry? l = some (.file c) ↔ t.entry? l = some (.file c) := by
  have hchange := h l
  generalize t.entry? l = before at hchange
  generalize t'.entry? l = after at hchange
  cases hchange with
  | kept => exact Iff.rfl
  | made => simp
  | written u hmem hplain hat => exact absurd hat (hplace u hmem hplain)

theorem step_mono (hkeep : KeepsDirectories t t') (h : t.step l name = .ok l') :
    t'.step l name = .ok l' := by
  unfold step at h ⊢
  split at h
  · cases h
  · cases h
  · rename_i hdirectory
    rw [hkeep l hdirectory]
    exact h

theorem walk_mono (hkeep : KeepsDirectories t t') {names : List String}
    (h : t.walk l names = .ok l') : t'.walk l names = .ok l' := by
  induction names generalizing l with
  | nil => exact h
  | cons name names ih =>
      obtain ⟨m, hstep, hwalk⟩ := exists_step_of_walk h
      rw [walk, step_mono hkeep hstep]
      exact ih hwalk

/-- Every directory that a path passes is there. -/
def Reaches (t : FileTree) (path : String) : Prop := t.locate path = .ok (Location.ofPath path)

theorem reaches_of_locate (h : t.locate path = .ok l) : t.Reaches path := by
  obtain rfl := eq_ofPath_of_locate h
  exact h

theorem Reaches.mono (h : t.Reaches path) (hkeep : KeepsDirectories t t') : t'.Reaches path := by
  have hwalk := h
  rw [Reaches, locate_eq_walk h] at hwalk ⊢
  exact walk_mono hkeep hwalk

theorem Reaches.of_entry (hreaches : t'.Reaches path) (hup : ".." ∉ Path.steps path)
    (hentry : t.entry? (Location.ofPath path) ≠ none) : t.Reaches path := by
  have hwalk := hreaches
  rw [Reaches, locate_eq_walk hreaches] at hwalk ⊢
  exact walk_of_entry hup hwalk hentry

theorem status_eq_ok_iff {e : Entry} : t.status path = .ok e ↔
    t.Reaches path ∧ t.entry? (Location.ofPath path) = some e ∧
      (e = .directory ∨ endsIdle path = false) := by
  constructor
  · intro h
    unfold status at h
    split at h
    · cases h
    · rename_i l hl
      obtain rfl := eq_ofPath_of_locate hl
      split at h
      · cases h
      · rename_i hentry
        obtain rfl := Except.ok.inj h
        exact ⟨hl, hentry, .inl rfl⟩
      · rename_i c hentry
        split at h
        · cases h
        · rename_i hidle
          obtain rfl := Except.ok.inj h
          exact ⟨hl, hentry, .inr (by simpa using hidle)⟩
  · rintro ⟨hreaches, hentry, hmeant⟩
    rw [status, hreaches]
    simp only [hentry]
    cases e with
    | directory => rfl
    | file c =>
        have hidle : endsIdle path = false := hmeant.resolve_left (by simp)
        simp [hidle]

theorem read_eq_ok_iff : t.read path = .ok text ↔ t.Reaches path ∧
    t.entry? (Location.ofPath path) = some (.file (.text text)) ∧ endsIdle path = false := by
  have hstatus : t.read path = .ok text ↔ t.status path = .ok (.file (.text text)) := by
    unfold read
    rcases t.status path with e | (s | bytes) | _ <;> simp
  rw [hstatus, status_eq_ok_iff]
  simp

/-- A file that is read where more was made before is read without that too, as soon as it is there. -/
theorem read_of_entry (hup : ".." ∉ Path.steps path) (hread : t'.read path = .ok text)
    (hentry : t.entry? (Location.ofPath path) = some (.file (.text text))) :
    t.read path = .ok text := by
  obtain ⟨hreaches, -, hidle⟩ := read_eq_ok_iff.mp hread
  exact read_eq_ok_iff.mpr ⟨hreaches.of_entry hup (by simp [hentry]), hentry, hidle⟩

theorem isDirectory_iff : t.isDirectory path = true ↔
    t.Reaches path ∧ t.entry? (Location.ofPath path) = some .directory := by
  have hstatus : t.isDirectory path = true ↔ t.status path = .ok .directory := by
    unfold isDirectory
    rcases t.status path with e | c | _ <;> simp
  rw [hstatus, status_eq_ok_iff]
  simp

theorem write_eq_ok_iff : t.write path text = .ok t' ↔ t.Reaches path ∧
    t.entry? (Location.ofPath path) ≠ some .directory ∧ endsIdle path = false ∧
      t' = t.set (Location.ofPath path) (.file (.text text)) := by
  constructor
  · intro h
    unfold write at h
    split at h
    · cases h
    · rename_i l hl
      obtain rfl := eq_ofPath_of_locate hl
      split at h
      · cases h
      · rename_i hfree
        split at h
        · cases h
        · rename_i hidle
          exact ⟨hl, hfree, by simpa using hidle, (Except.ok.inj h).symm⟩
  · rintro ⟨hreaches, hfree, hidle, rfl⟩
    rw [write, hreaches]
    simp [hidle]

theorem keepsDirectories_of_write (h : t.write path text = .ok t') : KeepsDirectories t t' := by
  obtain ⟨-, -, -, rfl⟩ := write_eq_ok_iff.mp h
  exact keepsDirectories_set t _ _

theorem read_of_write (h : t.write path text = .ok t') : t'.read path = .ok text := by
  have hkeep := keepsDirectories_of_write h
  obtain ⟨hreaches, hfree, hidle, rfl⟩ := write_eq_ok_iff.mp h
  have hroom := hasRoom_of_locate hreaches hfree
  exact read_eq_ok_iff.mpr ⟨hreaches.mono hkeep, entry?_set_self hroom _, hidle⟩

theorem isDirectory_mono (hkeep : KeepsDirectories t t') (h : t.isDirectory path = true) :
    t'.isDirectory path = true := by
  obtain ⟨hreaches, hdirectory⟩ := isDirectory_iff.mp h
  exact isDirectory_iff.mpr ⟨hreaches.mono hkeep, hkeep _ hdirectory⟩

theorem makeDirectory_of_isDirectory (h : t.isDirectory path = true) :
    t.makeDirectory path = .error .alreadyExists := by
  obtain ⟨hreaches, hdirectory⟩ := isDirectory_iff.mp h
  unfold makeDirectory
  rw [hreaches]
  simp only [hdirectory]

theorem isDirectory_of_makeDirectory (h : t.makeDirectory path = .ok t') :
    t'.isDirectory path = true := by
  unfold makeDirectory at h
  split at h
  · cases h
  · rename_i l hl
    split at h
    · cases h
    · cases h
    · rename_i hnone
      split at h
      · cases h
      · obtain rfl := Except.ok.inj h
        obtain rfl := eq_ofPath_of_locate hl
        have hroom := hasRoom_of_locate hl (by simp [hnone])
        exact isDirectory_iff.mpr
          ⟨(reaches_of_locate hl).mono (keepsDirectories_set t _ _), entry?_set_self hroom _⟩

/-- What is put aside as missing is left to be made. -/
theorem suffix_of_makeHighest (h : t.makeHighest missing above = .ok (t', left)) :
    missing <:+ left := by
  induction above generalizing missing with
  | nil =>
      cases h
      exact List.suffix_rfl
  | cons path above ih =>
      simp only [makeHighest] at h
      split at h
      · cases h
        exact List.suffix_rfl
      · split at h
        · cases h
          exact List.suffix_rfl
        · exact (List.suffix_cons path missing).trans (ih h)
        · split at h
          · cases h
            exact List.suffix_rfl
          · cases h
        · cases h

theorem makeHighest_first (hne : path ≠ "")
    (h : t.makeHighest missing (path :: above) = .ok (t', left)) :
    t'.isDirectory path = true ∨ path ∈ left := by
  rw [makeHighest, if_neg hne] at h
  split at h
  · rename_i hmade
    cases h
    exact .inl (isDirectory_of_makeDirectory hmade)
  · exact .inr ((suffix_of_makeHighest h).subset List.mem_cons_self)
  · split at h
    · rename_i hthere
      cases h
      exact .inl hthere
    · cases h
  · cases h

theorem makeEach_isDirectory (hpaths : ∀ p ∈ paths, Path.Leads p directory)
    (h : (t.makeEach paths).2 = none) : ∀ p ∈ paths, (t.makeEach paths).1.isDirectory p = true := by
  induction paths generalizing t with
  | nil => exact List.forall_mem_nil _
  | cons path paths ih =>
      obtain ⟨-, hrest⟩ := List.forall_mem_cons.mp hpaths
      have htouches : ∀ t : FileTree, Touches directory [] t (t.makeEach paths).1 :=
        fun t => makeEach_touches hrest
      simp only [makeEach] at h ⊢
      split at h
      · rename_i t' hmade
        refine List.forall_mem_cons.mpr ⟨?_, ih hrest h⟩
        exact isDirectory_mono (htouches t').keepsDirectories (isDirectory_of_makeDirectory hmade)
      · rename_i e hfailed
        split at h
        · rename_i hthere
          rw [if_pos hthere]
          exact List.forall_mem_cons.mpr ⟨isDirectory_mono (htouches t).keepsDirectories hthere.2, ih hrest h⟩
        · cases h

theorem ancestors_eq (path : String) : ∃ above, Path.ancestors path = path :: above := ⟨_, rfl⟩

/-- Where making directories does not fail, the directory is there. -/
theorem makeDirectories_isDirectory (hne : directory ≠ "")
    (h : (t.makeDirectories directory).2 = none) :
    (t.makeDirectories directory).1.isDirectory directory = true := by
  obtain ⟨above, habove⟩ := ancestors_eq directory
  unfold makeDirectories at h ⊢
  split at h
  · rename_i t' left hhighest
    obtain ⟨-, hleft⟩ : Touches directory [] t t' ∧ ∀ p ∈ left, Path.Leads p directory :=
      makeHighest_touches (List.forall_mem_nil _) (fun p hp => Path.ancestors_leads hp) hhighest
    have htouches : Touches directory [] t' (t'.makeEach left).1 := makeEach_touches hleft
    rw [habove] at hhighest
    rcases makeHighest_first hne hhighest with hthere | hmem
    · exact isDirectory_mono htouches.keepsDirectories hthere
    · exact makeEach_isDirectory hleft h directory hmem
  · cases h

/-- Nothing is made where the directory is there. -/
theorem makeDirectories_of_isDirectory (hne : directory ≠ "") (h : t.isDirectory directory = true) :
    t.makeDirectories directory = (t, none) := by
  obtain ⟨above, habove⟩ := ancestors_eq directory
  unfold makeDirectories
  rw [habove, makeHighest, if_neg hne, makeDirectory_of_isDirectory h]
  simp only [h, if_true]
  rfl

end FileTree

end EndpointGen
