/- Cutting and joining texts at separators, prefixes and suffixes. -/

namespace EndpointGen.Text

/-- The segments between separators; a text without a separator is one segment. -/
def segments (sep : Char) : List Char → List (List Char)
  | [] => [[]]
  | c :: cs =>
    if c = sep then [] :: segments sep cs
    else match segments sep cs with
      | [] => [[c]]
      | s :: ss => (c :: s) :: ss

/-- The segments with the separators put back between them. -/
def unsegment (sep : Char) : List (List Char) → List Char
  | [] => []
  | [s] => s
  | s :: ss => s ++ sep :: unsegment sep ss

theorem segments_ne_nil (sep : Char) (cs : List Char) : segments sep cs ≠ [] := by
  cases cs with
  | nil => simp [segments]
  | cons c cs =>
    unfold segments
    split
    · simp
    · split <;> simp

theorem unsegment_segments (sep : Char) (cs : List Char) :
    unsegment sep (segments sep cs) = cs := by
  induction cs with
  | nil => rfl
  | cons c cs ih =>
    have hne := segments_ne_nil sep cs
    unfold segments
    split
    · next h =>
      subst h
      cases hs : segments c cs with
      | nil => exact absurd hs hne
      | cons s ss => simpa [unsegment, hs] using ih
    · cases hs : segments sep cs with
      | nil => exact absurd hs hne
      | cons s ss =>
        rw [hs] at ih
        cases ss with
        | nil => simpa [unsegment] using ih
        | cons t ts => simpa [unsegment] using ih

theorem segments_of_not_mem {sep : Char} {cs : List Char} (h : sep ∉ cs) : segments sep cs = [cs] := by
  induction cs with
  | nil => rfl
  | cons c cs ih =>
      rw [List.mem_cons, not_or] at h
      simp [segments, Ne.symm h.1, ih h.2]

theorem segments_append (sep : Char) (cs ds : List Char) :
    segments sep (cs ++ sep :: ds) = segments sep cs ++ segments sep ds := by
  induction cs with
  | nil => simp [segments]
  | cons c cs ih =>
      by_cases hc : c = sep
      · simp [segments, hc, ih]
      · obtain ⟨s, ss, hs⟩ := List.exists_cons_of_ne_nil (segments_ne_nil sep cs)
        simp [segments, hc, ih, hs]

theorem not_mem_of_mem_segments {sep : Char} {s cs : List Char} (h : s ∈ segments sep cs) : sep ∉ s := by
  induction cs generalizing s with
  | nil => simp_all [segments]
  | cons c cs ih =>
      obtain ⟨u, us, hu⟩ := List.exists_cons_of_ne_nil (segments_ne_nil sep cs)
      rw [hu] at ih
      by_cases hc : c = sep
      · simp only [segments, hc, if_true, hu, List.mem_cons] at h
        rcases h with rfl | h
        · simp
        · exact ih (List.mem_cons.mpr h)
      · simp only [segments, hc, if_false, hu, List.mem_cons] at h
        rcases h with rfl | h
        · simp [Ne.symm hc, ih List.mem_cons_self]
        · exact ih (List.mem_cons_of_mem u h)

/-- What follows the last separator, the whole text where there is none. -/
def afterLast (sep : Char) (cs : List Char) : List Char :=
  (cs.reverse.takeWhile (· ≠ sep)).reverse

def dropPrefix? (p s : String) : Option String :=
  if p.toList.isPrefixOf s.toList then some (String.ofList (s.toList.drop p.length)) else none

def dropSuffix? (p s : String) : Option String :=
  if p.toList.isSuffixOf s.toList then
    some (String.ofList (s.toList.take (s.length - p.length)))
  else none

theorem dropSuffix?_eq_some_iff {p s rest : String} :
    dropSuffix? p s = some rest ↔ s = rest ++ p := by
  have hlength : s.length - p.length = s.toList.length - p.toList.length := by
    rw [String.length_toList, String.length_toList]
  rw [dropSuffix?, hlength]
  constructor
  · intro h
    split at h
    · next hsuffix =>
        rw [Option.some.injEq] at h
        rw [← h, ← String.toList_inj, String.toList_append, String.toList_ofList]
        exact (List.suffix_iff_eq_append.mp (List.isSuffixOf_iff_suffix.mp hsuffix)).symm
    · cases h
  · rintro rfl
    rw [if_pos (List.isSuffixOf_iff_suffix.mpr (by simp))]
    simp

/-- Items with a comma and a space between them. -/
def commaSeparated : List String → String
  | [] => ""
  | [s] => s
  | s :: ss => s ++ ", " ++ commaSeparated ss

end EndpointGen.Text
