/- Locations that paths mean: a path leads to one place whatever the tree holds, its ancestors lie on the
   way there, and a plain name joined to it is right inside. -/
import EndpointGen.Files.Output

namespace EndpointGen

namespace Path

open Text

/-- The names of a path that lead somewhere. -/
def steps (path : String) : List String := (names path).filter fun name => !isIdle name

theorem names_append (path rest : String) : names (path ++ "/" ++ rest) = names path ++ names rest := by
  simp [names, segments_append]

theorem names_of_not_mem {name : String} (h : '/' ∉ name.toList) : names name = [name] := by
  simp [names, segments_of_not_mem h]

theorem not_mem_of_mem_names {name path : String} (h : name ∈ names path) : '/' ∉ name.toList := by
  obtain ⟨s, hs, rfl⟩ := List.mem_map.mp h
  rw [String.toList_ofList]
  exact not_mem_of_mem_segments hs

theorem names_intercalate {ns : List String} (hne : ns ≠ []) (h : ∀ n ∈ ns, '/' ∉ n.toList) :
    names (String.intercalate "/" ns) = ns := by
  induction ns with
  | nil => exact absurd rfl hne
  | cons n ns ih =>
      have hn := names_of_not_mem (h n List.mem_cons_self)
      cases ns with
      | nil => simpa using hn
      | cons m ns =>
          have hrest := ih (List.cons_ne_nil m ns) fun x hx => h x (List.mem_cons_of_mem n hx)
          rw [String.intercalate_cons_cons, names_append, hn, hrest]
          rfl

theorem steps_append (path rest : String) : steps (path ++ "/" ++ rest) = steps path ++ steps rest := by
  rw [steps, names_append, List.filter_append, steps, steps]

/-- A path starts at the root where its first name is empty. -/
theorem startOf_eq {path : String} (hne : path ≠ "") :
    FileTree.startOf path = if (names path).head? = some "" then ["/"] else [] := by
  unfold FileTree.startOf names
  cases hpath : path.toList with
  | nil => exact absurd (String.toList_eq_nil_iff.mp hpath) hne
  | cons c cs =>
      by_cases hc : c = '/'
      · simp [segments, hc]
      · obtain ⟨s, ss, hs⟩ := List.exists_cons_of_ne_nil (segments_ne_nil '/' cs)
        simp [segments, hc, hs]

/-- Only idle names are cut off, and a name is always left. -/
theorem exists_idle_append_trimTail (ns : List String) :
    ∃ idle, idle ++ trimTail ns = ns ∧ (∀ n ∈ idle, isIdle n = true) ∧
      (ns ≠ [] → trimTail ns ≠ []) := by
  induction ns with
  | nil => exact ⟨[], rfl, List.forall_mem_nil _, id⟩
  | cons name rest ih =>
      cases rest with
      | nil => exact ⟨[], rfl, List.forall_mem_nil _, id⟩
      | cons next rest =>
          obtain ⟨idle, happend, hall, hne⟩ := ih
          rw [trimTail]
          · by_cases hidle : isIdle name = true
            · rw [if_pos hidle]
              refine ⟨name :: idle, congrArg (name :: ·) happend, ?_, ?_⟩
              · exact List.forall_mem_cons.mpr ⟨hidle, hall⟩
              · exact fun _ => hne (List.cons_ne_nil next rest)
            · rw [if_neg hidle]
              exact ⟨[], rfl, List.forall_mem_nil _, id⟩
          · exact List.cons_ne_nil next rest

theorem trimTail_filter (ns : List String) :
    (trimTail ns).filter (fun name => !isIdle name) = ns.filter fun name => !isIdle name := by
  obtain ⟨idle, happend, hall, -⟩ := exists_idle_append_trimTail ns
  have hidle : idle.filter (fun name => !isIdle name) = [] := by
    rw [List.filter_eq_nil_iff]
    intro n hn
    simp [hall n hn]
  conv => rhs; rw [← happend, List.filter_append, hidle, List.nil_append]

theorem trimTail_getLast? (ns : List String) : (trimTail ns).getLast? = ns.getLast? := by
  obtain ⟨idle, happend, -, hne⟩ := exists_idle_append_trimTail ns
  cases ns with
  | nil => rfl
  | cons name rest =>
      conv => rhs; rw [← happend]
      have hlast := List.getLast?_isSome.mpr (hne (List.cons_ne_nil name rest))
      rw [List.getLast?_append, Option.or_of_isSome hlast]

theorem trimTail_subset (ns : List String) : trimTail ns ⊆ ns := by
  obtain ⟨idle, happend, -, -⟩ := exists_idle_append_trimTail ns
  intro n hn
  rw [← happend]
  exact List.mem_append_right idle hn

theorem steps_ofReversed {ns : List String} (hne : ns ≠ []) (h : ∀ n ∈ ns, '/' ∉ n.toList) :
    steps (ofReversed ns) = (ns.filter fun name => !isIdle name).reverse := by
  unfold ofReversed
  split
  · decide
  · rw [steps, names_intercalate (by simpa using hne) (by simpa using h), List.filter_reverse]

theorem startOf_ofReversed {ns : List String} (hne : ns ≠ []) (h : ∀ n ∈ ns, '/' ∉ n.toList) :
    FileTree.startOf (ofReversed ns) = if ns.getLast? = some "" then ["/"] else [] := by
  unfold ofReversed
  split
  · rfl
  · rename_i hroot
    have hnames : names (String.intercalate "/" ns.reverse) = ns.reverse :=
      names_intercalate (by simpa using hne) (by simpa using h)
    have hpath : String.intercalate "/" ns.reverse ≠ "" := by
      intro hempty
      rw [hempty] at hnames
      exact hroot (List.reverse_eq_iff.mp hnames.symm)
    rw [startOf_eq hpath, hnames, List.head?_reverse]

/-- One path goes some of the way of another. -/
structure Leads (path far : String) : Prop where
  start : FileTree.startOf path = FileTree.startOf far
  steps : Path.steps path <+: Path.steps far

theorem Leads.refl (path : String) : Leads path path := ⟨rfl, List.prefix_rfl⟩

theorem Leads.trans {path mid far : String} (h : Leads path mid) (h' : Leads mid far) :
    Leads path far :=
  ⟨h.start.trans h'.start, h.steps.trans h'.steps⟩

theorem steps_eq_trimTail (path : String) :
    steps path = ((trimTail (names path).reverse).filter fun name => !isIdle name).reverse := by
  rw [trimTail_filter, List.filter_reverse, List.reverse_reverse, steps]

theorem startOf_eq_trimTail {path : String} (hne : path ≠ "") :
    FileTree.startOf path =
      if (trimTail (names path).reverse).getLast? = some "" then ["/"] else [] := by
  rw [startOf_eq hne, trimTail_getLast?, List.getLast?_reverse]

theorem ofReversed_leads {path name : String} {rest : List String} (hpath : path ≠ "")
    (hrest : rest ≠ []) (htrim : trimTail (names path).reverse = name :: rest) :
    Leads (ofReversed (trimTail rest)) path := by
  have hslash : ∀ n ∈ trimTail rest, '/' ∉ n.toList := by
    intro n hn
    have hmem : n ∈ trimTail (names path).reverse := by
      rw [htrim]
      exact List.mem_cons_of_mem name (trimTail_subset rest hn)
    exact not_mem_of_mem_names (List.mem_reverse.mp (trimTail_subset _ hmem))
  have hne : trimTail rest ≠ [] := by
    obtain ⟨-, -, -, hne⟩ := exists_idle_append_trimTail rest
    exact hne hrest
  refine ⟨?_, ?_⟩
  · obtain ⟨next, above, rfl⟩ := List.exists_cons_of_ne_nil hrest
    rw [startOf_ofReversed hne hslash, startOf_eq_trimTail hpath, htrim, trimTail_getLast?,
      List.getLast?_cons_cons]
  · rw [steps_ofReversed hne hslash, steps_eq_trimTail path, htrim, trimTail_filter,
      ← List.singleton_append, List.filter_append, List.reverse_append]
    exact List.prefix_append _ _

theorem parent?_leads {path p : String} (h : parent? path = some p) : Leads p path := by
  have hpath : path ≠ "" := by
    rintro rfl
    cases h
  unfold parent? at h
  split at h
  · cases h
  · rename_i name htrim
    split at h
    · cases h
    · rename_i hname
      obtain rfl := Option.some.inj h
      refine ⟨?_, List.nil_prefix⟩
      rw [startOf_eq_trimTail hpath, htrim, List.getLast?_singleton, if_neg]
      · rfl
      · exact fun hempty => hname (Option.some.inj hempty)
  · rename_i name rest hrest htrim
    obtain rfl := Option.some.inj h
    exact ofReversed_leads hpath hrest htrim

theorem ancestors_leads {path p : String} (h : p ∈ ancestors path) : Leads p path := by
  -- By induction on the number of steps upwards, for every path that they start from.
  have hwithin : ∀ fuel path, p ∈ ancestorsWithin fuel path → Leads p path := by
    intro fuel
    induction fuel with
    | zero =>
        intro path h
        cases h
    | succ fuel ih =>
        intro path h
        rcases List.mem_cons.mp h with rfl | h
        · exact .refl p
        · split at h
          · rename_i above habove
            exact (ih above h).trans (parent?_leads habove)
          · cases h
  exact hwithin _ path h

end Path

namespace Location

/-- Where a name leads from a directory. -/
def below (l : Location) (name : String) : Location := if name = ".." then parent l else l ++ [name]

/-- The location that a path means, whether or not anything is there. -/
def ofPath (path : String) : Location := (Path.steps path).foldl below (FileTree.startOf path)

/-- The locations that a path passes, the one that it leads to included. -/
def IsOn (path : String) (l : Location) : Prop :=
  ∃ names, names <+: Path.steps path ∧ l = names.foldl below (FileTree.startOf path)

theorem isOn_of_leads {path far : String} (h : Path.Leads path far) : IsOn far (ofPath path) :=
  ⟨Path.steps path, h.steps, by rw [ofPath, h.start]⟩

end Location

theorem isPlainFileName_iff {key : String} :
    isPlainFileName key = true ↔
      key ≠ "" ∧ key ≠ "." ∧ key ≠ ".." ∧ '/' ∉ key.toList ∧ '\\' ∉ key.toList := by
  simp [isPlainFileName, and_assoc]

theorem Path.steps_of_plain {key : String} (h : isPlainFileName key = true) : steps key = [key] := by
  obtain ⟨hempty, hdot, -, hslash, -⟩ := isPlainFileName_iff.mp h
  simp [steps, names_of_not_mem hslash, isIdle, hempty, hdot]

theorem Path.startOf_append {path : String} (hne : path ≠ "") (rest : String) :
    FileTree.startOf (path ++ rest) = FileTree.startOf path := by
  obtain ⟨c, cs, hchars⟩ : ∃ c cs, path.toList = c :: cs :=
    List.exists_cons_of_ne_nil (by simpa using hne)
  rw [FileTree.startOf, FileTree.startOf, String.toList_append, hchars]
  rfl

theorem Path.steps_slash (path : String) : steps (path ++ "/") = steps path := by
  have h := steps_append path ""
  rw [String.append_empty] at h
  exact h.trans (List.append_nil _)

theorem Path.join_eq (directory : String) {key : String} (h : isPlainFileName key = true) :
    FileTree.startOf (join directory key) = FileTree.startOf directory ∧
      steps (join directory key) = steps directory ++ [key] := by
  have habsolute : key.toList.head? ≠ some '/' := by
    intro hhead
    exact (isPlainFileName_iff.mp h).2.2.2.1 (List.mem_of_mem_head? hhead)
  unfold join
  by_cases hempty : directory = ""
  · subst hempty
    rw [if_pos (by simp), steps_of_plain h]
    exact ⟨if_neg habsolute, rfl⟩
  · rw [if_neg (by simp [habsolute, hempty])]
    split
    · rename_i hslash
      obtain ⟨cs, hcs⟩ := List.getLast?_eq_some_iff.mp hslash
      have habove : directory = String.ofList cs ++ "/" := by
        apply String.toList_injective
        simp [hcs]
      refine ⟨startOf_append hempty key, ?_⟩
      rw [habove, steps_append, steps_slash, steps_of_plain h]
    · refine ⟨?_, ?_⟩
      · rw [String.append_assoc, startOf_append hempty]
      · rw [steps_append, steps_of_plain h]

/-- A plain name joined to a path means the place of that name right inside. -/
theorem Location.ofPath_join {directory key : String} (h : isPlainFileName key = true) :
    ofPath (Path.join directory key) = ofPath directory ++ [key] := by
  obtain ⟨hstart, hsteps⟩ := Path.join_eq directory h
  obtain ⟨-, -, hup, -⟩ := isPlainFileName_iff.mp h
  simp [ofPath, hstart, hsteps, below, hup]

namespace FileTree

variable {t : FileTree} {l l' : Location} {path : String}

theorem eq_below_of_step {name : String} (h : t.step l name = .ok l') : l' = l.below name := by
  unfold step at h
  split at h
  · cases h
  · cases h
  · unfold Location.below
    split at h
    · rename_i hup
      rw [if_pos hup]
      exact (Except.ok.inj h).symm
    · rename_i hup
      rw [if_neg hup]
      split at h
      · cases h
      · exact (Except.ok.inj h).symm

theorem exists_step_of_walk {name : String} {names : List String}
    (h : t.walk l (name :: names) = .ok l') :
    ∃ m, t.step l name = .ok m ∧ t.walk m names = .ok l' := by
  simp only [walk] at h
  split at h
  · rename_i m hstep
    exact ⟨m, hstep, h⟩
  · cases h

theorem eq_foldl_of_walk {names : List String} (h : t.walk l names = .ok l') :
    l' = names.foldl Location.below l := by
  induction names generalizing l with
  | nil => exact (Except.ok.inj h).symm
  | cons name names ih =>
      obtain ⟨m, hstep, hwalk⟩ := exists_step_of_walk h
      rw [List.foldl_cons, ← eq_below_of_step hstep]
      exact ih hwalk

/-- A path that leads somewhere in one tree is walked in every tree. -/
theorem locate_eq_walk (h : t.locate path = .ok l) (t' : FileTree) :
    t'.locate path = t'.walk (startOf path) (Path.steps path) := by
  unfold locate at h ⊢
  split at h
  · cases h
  · split at h
    · cases h
    · split at h
      · cases h
      · rename_i hempty hzero hlong
        rw [if_neg hempty, if_neg hzero, if_neg hlong]
        rfl

/-- Where a path leads in a tree is where it leads in every tree. -/
theorem eq_ofPath_of_locate (h : t.locate path = .ok l) : l = Location.ofPath path :=
  eq_foldl_of_walk (locate_eq_walk h t ▸ h)

end FileTree

end EndpointGen
