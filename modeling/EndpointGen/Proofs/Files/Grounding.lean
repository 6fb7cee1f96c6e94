/- What the tree of files tells by itself. Above an entry there are only directories, so that a path leads to a
   place with room unless a directory is there, and a way down can be gone as soon as there is an entry at its
   end. -/
import EndpointGen.Proofs.Files.Locations

namespace EndpointGen

theorem Location.isGiven_dropLast {l : Location} (h : isGiven l = true) :
    isGiven l.dropLast = true := by
  rw [isGiven, Bool.or_eq_true] at h ⊢
  rcases h with hup | hroot
  · refine .inl (List.all_eq_true.mpr fun n hn => ?_)
    exact List.all_eq_true.mp hup n (List.dropLast_subset l hn)
  · obtain rfl := eq_of_beq hroot
    exact .inl rfl

namespace FileTree

variable {t t' : FileTree} {l l' : Location} {name path : String} {names : List String}

theorem entry?_dropLast (h : t.entry? l ≠ none) : t.entry? l.dropLast = some .directory := by
  by_cases hgiven : Location.isGiven l = true
  · exact if_pos (Location.isGiven_dropLast hgiven)
  · unfold entry? Location.entryIn? at h
    rw [if_neg hgiven] at h
    obtain ⟨e, he⟩ := Option.ne_none_iff_exists'.mp h
    obtain ⟨before, after, hsplit, -⟩ := List.lookup_eq_some_iff.mp he
    exact t.grounded (l, e) (hsplit ▸ List.mem_append_right before List.mem_cons_self)

/-- All that is above an entry are directories. -/
theorem entry?_of_append (hne : names ≠ []) (h : t.entry? (l ++ names) ≠ none) :
    t.entry? l = some .directory := by
  induction names generalizing l with
  | nil => exact absurd rfl hne
  | cons name names ih =>
      have hnext : t.entry? (l ++ [name]) ≠ none := by
        by_cases hnames : names = []
        · rwa [hnames] at h
        · have hrest : t.entry? (l ++ [name] ++ names) ≠ none := by
            rwa [List.append_assoc, List.singleton_append]
          simp [ih hnames hrest]
      have hparent := entry?_dropLast hnext
      rwa [List.dropLast_concat] at hparent

theorem parent_of_step (hin : t.entry? l.dropLast = some .directory)
    (hstep : t.step l name = .ok l') : t.entry? l'.dropLast = some .directory := by
  unfold step at hstep
  split at hstep
  · cases hstep
  · cases hstep
  · rename_i hdirectory
    split at hstep
    · obtain rfl := Except.ok.inj hstep
      unfold Location.parent
      split
      · exact hin
      · split
        · rwa [List.dropLast_concat]
        · exact entry?_dropLast (by simp [hin])
    · split at hstep
      · cases hstep
      · obtain rfl := Except.ok.inj hstep
        rwa [List.dropLast_concat]

/-- A walk ends right inside a directory, whether or not anything is there. -/
theorem parent_of_walk (hin : t.entry? l.dropLast = some .directory)
    (hwalk : t.walk l names = .ok l') : t.entry? l'.dropLast = some .directory := by
  induction names generalizing l with
  | nil =>
      cases hwalk
      exact hin
  | cons name names ih =>
      obtain ⟨m, hstep, hwalk⟩ := exists_step_of_walk hwalk
      exact ih (parent_of_step hin hstep) hwalk

theorem parent_of_locate (hlocate : t.locate path = .ok l) :
    t.entry? l.dropLast = some .directory := by
  rw [locate_eq_walk hlocate t] at hlocate
  refine parent_of_walk ?_ hlocate
  unfold startOf
  split <;> rfl

/-- A path leads to a place with room for an entry, unless a directory is there. -/
theorem hasRoom_of_locate (hlocate : t.locate path = .ok l) (hfree : t.entry? l ≠ some .directory) :
    t.HasRoom l :=
  ⟨parent_of_locate hlocate, hfree⟩

theorem foldl_below_of_downward (hup : ".." ∉ names) :
    names.foldl Location.below l = l ++ names := by
  induction names generalizing l with
  | nil => exact (List.append_nil l).symm
  | cons name names ih =>
      obtain ⟨hname, hnames⟩ := not_or.mp (mt List.mem_cons.mpr hup)
      rw [List.foldl_cons, ih hnames, Location.below, if_neg (Ne.symm hname), List.append_assoc,
        List.singleton_append]

theorem step_of_directory (hdirectory : t.entry? l = some .directory) (h : t'.step l name = .ok l') :
    t.step l name = .ok l' := by
  unfold step at h ⊢
  rw [hdirectory]
  split at h
  · cases h
  · cases h
  · exact h

/-- A way down that can be gone in one tree can be gone in another that has an entry at its end. -/
theorem walk_of_entry (hup : ".." ∉ names) (hwalk : t'.walk l names = .ok l')
    (hentry : t.entry? l' ≠ none) : t.walk l names = .ok l' := by
  have hend := eq_foldl_of_walk hwalk
  rw [foldl_below_of_downward hup] at hend
  induction names generalizing l with
  | nil => exact hwalk
  | cons name names ih =>
      obtain ⟨hname, hnames⟩ := not_or.mp (mt List.mem_cons.mpr hup)
      -- Where the way starts is above the entry at its end, and so a directory in this tree too.
      have hdirectory := entry?_of_append (List.cons_ne_nil name names) (hend ▸ hentry)
      obtain ⟨m, hstep, hwalk⟩ := exists_step_of_walk hwalk
      have hm := eq_below_of_step hstep
      rw [Location.below, if_neg (Ne.symm hname)] at hm
      rw [walk, step_of_directory hdirectory hstep]
      exact ih hnames hwalk (by rw [hend, hm, List.append_assoc, List.singleton_append])

end FileTree

end EndpointGen
