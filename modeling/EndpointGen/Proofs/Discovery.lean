/- Discovery lists each identity once: the facades and dtos of a graph have pairwise distinct
   identities, each carries the marker that it is listed for, and each is the first marked fragment of its
   identity. -/
import Mathlib.Data.List.Nodup
import Mathlib.Data.List.Perm.Basic
import EndpointGen.Annotated.Discovery

namespace EndpointGen

/-- All discovered declarations in the order of a pass, facades first. -/
def Discovery.declarations (found : Discovery) : List Declaration := found.facades ++ found.dtos

/-- A fragment that discovery looks at. -/
def Declaration.isMarked (d : Declaration) : Bool :=
  (d.marker? facadeMarker).isSome || (d.marker? dtoMarker).isSome

namespace Sighting

def isUnmarked : Sighting → Bool
  | .unmarked => true
  | _ => false

def found? : Sighting → Option Declaration
  | .facade d _ => some d
  | .dto d => some d
  | _ => none

/-- A facade or dto is sighted by its own marker, and only at an identity not seen before. -/
inductive Of (seen : List String) (d : Declaration) : Sighting → Prop
  | unmarked : Of seen d .unmarked
  | repeated : d.identity ∈ seen → Of seen d (.repeated d)
  | facade (alsoDto : Bool) : (d.marker? facadeMarker).isSome = true → d.identity ∉ seen →
      Of seen d (.facade d alsoDto)
  | dto : d.marker? facadeMarker = none → (d.marker? dtoMarker).isSome = true →
      d.identity ∉ seen → Of seen d (.dto d)

theorem of_cases (seen : List String) (d : Declaration) : Of seen d (Sighting.of seen d) := by
  unfold Sighting.of
  cases hf : (d.marker? facadeMarker).isSome with
  | true =>
      by_cases hs : d.identity ∈ seen
      · simpa [hf, hs] using Of.repeated hs
      · simpa [hf, hs] using Of.facade (d.marker? dtoMarker).isSome hf hs
  | false =>
      have hnone : d.marker? facadeMarker = none := by simpa using hf
      cases hd : (d.marker? dtoMarker).isSome with
      | false => simpa [hf, hd] using Of.unmarked
      | true =>
          by_cases hs : d.identity ∈ seen
          · simpa [hf, hd, hs] using Of.repeated hs
          · simpa [hf, hd, hs] using Of.dto hnone hd hs

/-- What is found from a fragment on: the fragment itself, whose identity is seen from then on, or only
    what comes after it. -/
theorem found_cons (seen : List String) (d : Declaration) (ds : List Declaration) :
    (d.identity ∉ seen ∧ (sequence seen (d :: ds)).filterMap found? =
        d :: (sequence (d.identity :: seen) ds).filterMap found?) ∨
      (sequence seen (d :: ds)).filterMap found? = (sequence seen ds).filterMap found? := by
  have hof := of_cases seen d
  generalize hs : Sighting.of seen d = s at hof
  simp only [sequence, hs]
  cases hof with
  | unmarked => exact .inr rfl
  | repeated _ => exact .inr rfl
  | facade _ _ hnew => exact .inl ⟨hnew, rfl⟩
  | dto _ _ hnew => exact .inl ⟨hnew, rfl⟩

/-- No identity is found twice, nor one that was seen before. -/
theorem found_identities (seen : List String) (ds : List Declaration) :
    (((sequence seen ds).filterMap found?).map (·.identity)).Nodup ∧
      ∀ d ∈ (sequence seen ds).filterMap found?, d.identity ∉ seen := by
  induction ds generalizing seen with
  | nil => simp [sequence]
  | cons d ds ih =>
      rcases found_cons seen d ds with ⟨hnew, hfound⟩ | hfound
      · obtain ⟨hnodup, hrest⟩ := ih (d.identity :: seen)
        rw [hfound]
        constructor
        · rw [List.map_cons, List.nodup_cons]
          refine ⟨?_, hnodup⟩
          intro hmem
          obtain ⟨e, he, heq⟩ := List.mem_map.mp hmem
          exact hrest e he (by simp [heq])
        · intro e he
          rcases List.mem_cons.mp he with rfl | he
          · exact hnew
          · exact fun hmem => hrest e he (List.mem_cons_of_mem _ hmem)
      · rw [hfound]
        exact ih seen

section Seen

variable {seen seen' : List String} {d : Declaration} {ds : List Declaration}

theorem mem_remember {s : Sighting} {name : String} :
    name ∈ s.remember seen ↔ (∃ d, s.found? = some d ∧ d.identity = name) ∨ name ∈ seen := by
  cases s <;> simp [remember, found?, eq_comm]

theorem of_congr (h : d.identity ∈ seen ↔ d.identity ∈ seen') : of seen d = of seen' d := by
  have hcontains : seen.contains d.identity = seen'.contains d.identity := by
    rw [Bool.eq_iff_iff, List.contains_iff_mem, List.contains_iff_mem, h]
  rw [of, of, hcontains]

theorem sequence_congr (h : ∀ d ∈ ds, d.identity ∈ seen ↔ d.identity ∈ seen') :
    sequence seen ds = sequence seen' ds := by
  induction ds generalizing seen seen' with
  | nil => rfl
  | cons d ds ih =>
      have hfirst := of_congr (h d List.mem_cons_self)
      simp only [sequence, hfirst]
      congr 1
      refine ih fun e he => ?_
      rw [mem_remember, mem_remember, h e (List.mem_cons_of_mem d he)]

theorem found?_of {e : Declaration} (h : (of seen d).found? = some e) : e = d := by
  have hof := of_cases seen d
  generalize of seen d = s at h hof
  cases hof with
  | unmarked => cases h
  | repeated _ => cases h
  | facade _ _ _ => exact (Option.some.inj h).symm
  | dto _ _ _ => exact (Option.some.inj h).symm

theorem isUnmarked_of (seen : List String) (d : Declaration) :
    (of seen d).isUnmarked = !d.isMarked := by
  unfold of Declaration.isMarked
  cases (d.marker? facadeMarker).isSome with
  | true => cases seen.contains d.identity <;> rfl
  | false =>
      cases (d.marker? dtoMarker).isSome with
      | false => rfl
      | true => cases seen.contains d.identity <;> rfl

/-- A marked fragment of an identity not seen before counts, and its identity is seen from then on. -/
theorem of_found (h : d.isMarked = true) (hnew : d.identity ∉ seen) :
    (of seen d).found? = some d ∧ (of seen d).remember seen = d.identity :: seen := by
  have hsighted := isUnmarked_of seen d
  have hof := of_cases seen d
  rw [h] at hsighted
  generalize of seen d = s at hsighted hof
  cases hof with
  | unmarked => cases hsighted
  | repeated hmem => exact absurd hmem hnew
  | facade => exact ⟨rfl, rfl⟩
  | dto => exact ⟨rfl, rfl⟩

theorem of_passed (h : d.isMarked = true → d.identity ∈ seen) :
    (of seen d).found? = none ∧ (of seen d).remember seen = seen := by
  have hsighted := isUnmarked_of seen d
  have hof := of_cases seen d
  generalize of seen d = s at hsighted hof
  cases hof with
  | unmarked => exact ⟨rfl, rfl⟩
  | repeated _ => exact ⟨rfl, rfl⟩
  | facade _ _ hnew =>
      have hmarked : d.isMarked = true := by simpa [isUnmarked] using hsighted
      exact absurd (h hmarked) hnew
  | dto _ _ hnew =>
      have hmarked : d.isMarked = true := by simpa [isUnmarked] using hsighted
      exact absurd (h hmarked) hnew

/-- What is found is the first marked fragment of each identity that was not seen before. -/
theorem mem_found_iff {e : Declaration} :
    e ∈ (sequence seen ds).filterMap found? ↔
      e.identity ∉ seen ∧ ds.find? (fun f => f.identity == e.identity && f.isMarked) = some e := by
  induction ds generalizing seen with
  | nil => simp [sequence]
  | cons d ds ih =>
      by_cases hpassed : d.isMarked = true → d.identity ∈ seen
      · obtain ⟨hfound, hseen⟩ := of_passed hpassed
        rw [sequence, List.filterMap_cons_none hfound, hseen, ih]
        refine and_congr_right fun hnew => ?_
        have hother : (d.identity == e.identity && d.isMarked) = false := by
          rw [Bool.and_eq_false_imp, beq_iff_eq]
          intro hidentity
          by_contra hmarked
          exact hnew (hidentity ▸ hpassed (by simpa using hmarked))
        rw [List.find?_cons, hother]
      · obtain ⟨hmarked, hnew⟩ := Classical.not_imp.mp hpassed
        obtain ⟨hfound, hseen⟩ := of_found hmarked hnew
        rw [sequence, List.filterMap_cons_some hfound, hseen, List.mem_cons, ih, List.find?_cons,
          hmarked, Bool.and_true]
        by_cases hidentity : d.identity = e.identity
        · simp only [hidentity, beq_self_eq_true, List.mem_cons, true_or, not_true_eq_false,
            false_and, or_false, Option.some.injEq]
          exact ⟨fun heq => ⟨hidentity ▸ hnew, heq.symm⟩, fun h => h.2.symm⟩
        · have hne : e ≠ d := fun heq => hidentity (heq ▸ rfl)
          rw [beq_false_of_ne hidentity]
          simp [hne, Ne.symm hidentity]

end Seen

/-- Without the unmarked fragments the others are sighted as before. -/
theorem sequence_filter_isMarked (seen : List String) (ds : List Declaration) :
    sequence seen (ds.filter (·.isMarked)) = (sequence seen ds).filter (!·.isUnmarked) := by
  induction ds generalizing seen with
  | nil => rfl
  | cons d ds ih =>
      have hsighted := isUnmarked_of seen d
      cases hmarked : d.isMarked with
      | false =>
          have hseen : (of seen d).remember seen = seen := (of_passed (by simp [hmarked])).2
          rw [List.filter_cons_of_neg (by simp [hmarked]), ih, sequence, hseen,
            List.filter_cons_of_neg (by simp [hsighted, hmarked])]
      | true =>
          rw [List.filter_cons_of_pos hmarked, sequence, sequence,
            List.filter_cons_of_pos (by simp [hsighted, hmarked]), ih]

theorem flatMap_filter_sighted {β : Type} {f : Sighting → List β} (h : f .unmarked = [])
    (sightings : List Sighting) :
    (sightings.filter (!·.isUnmarked)).flatMap f = sightings.flatMap f := by
  induction sightings with
  | nil => rfl
  | cons s sightings ih =>
      cases s with
      | unmarked =>
          rw [List.filter_cons_of_neg (by simp [isUnmarked]), ih, List.flatMap_cons, h, List.nil_append]
      | _ => rw [List.filter_cons_of_pos rfl, List.flatMap_cons, ih, List.flatMap_cons]

section Map

variable {f : Declaration → Declaration}

def map (f : Declaration → Declaration) : Sighting → Sighting
  | .unmarked => .unmarked
  | .repeated d => .repeated (f d)
  | .facade d alsoDto => .facade (f d) alsoDto
  | .dto d => .dto (f d)

/-- Of a fragment only the identity and the annotations decide how it is sighted. -/
theorem of_map (hidentity : ∀ d, (f d).identity = d.identity)
    (hannotations : ∀ d, (f d).annotations = d.annotations) (seen : List String) (d : Declaration) :
    of seen (f d) = (of seen d).map f ∧ (of seen (f d)).remember seen = (of seen d).remember seen := by
  have hmarker : ∀ marker, (f d).marker? marker = d.marker? marker := fun marker => by
    rw [Declaration.marker?, hannotations, Declaration.marker?]
  have hmap : of seen (f d) = (of seen d).map f := by
    simp only [of, hmarker, hidentity]
    split
    · rfl
    · split
      · rfl
      · split
        · rfl
        · rfl
  refine ⟨hmap, ?_⟩
  rw [hmap]
  cases of seen d with
  | unmarked => rfl
  | repeated _ => rfl
  | facade d _ => simp only [map, remember, hidentity]
  | dto d => simp only [map, remember, hidentity]

theorem sequence_map (hidentity : ∀ d, (f d).identity = d.identity)
    (hannotations : ∀ d, (f d).annotations = d.annotations) (seen : List String)
    (ds : List Declaration) :
    sequence seen (ds.map f) = (sequence seen ds).map (Sighting.map f) := by
  induction ds generalizing seen with
  | nil => rfl
  | cons d ds ih =>
      obtain ⟨hfirst, hseen⟩ := of_map hidentity hannotations seen d
      rw [List.map_cons, sequence, sequence, hseen, ih, hfirst, List.map_cons]

end Map

/-- Facades and dtos together are what was found, up to order. -/
theorem facades_dtos_perm (sightings : List Sighting) :
    (sightings.filterMap facade? ++ sightings.filterMap dto?).Perm (sightings.filterMap found?) := by
  induction sightings with
  | nil => exact .nil
  | cons s sightings ih =>
      cases s with
      | unmarked => exact ih
      | repeated d => exact ih
      | facade d alsoDto => exact ih.cons d
      | dto d => exact List.perm_middle.trans (ih.cons d)

/-- Every sighting of a sequence is the sighting of one of its fragments. -/
theorem exists_of_mem_sequence {seen : List String} {ds : List Declaration} {s : Sighting}
    (h : s ∈ sequence seen ds) : ∃ earlier, ∃ d ∈ ds, Of earlier d s := by
  induction ds generalizing seen with
  | nil => simp [sequence] at h
  | cons d ds ih =>
      rcases List.mem_cons.mp h with rfl | h
      · exact ⟨seen, d, by simp, of_cases seen d⟩
      · obtain ⟨earlier, e, he, hof⟩ := ih h
        exact ⟨earlier, e, List.mem_cons_of_mem _ he, hof⟩

end Sighting

namespace DeclarationGraph

variable {g : DeclarationGraph} {d : Declaration}

theorem discover_identities_nodup (g : DeclarationGraph) :
    (g.discover.declarations.map (·.identity)).Nodup := by
  have hperm := Sighting.facades_dtos_perm (Sighting.sequence [] g.declarations)
  exact (hperm.map _).nodup_iff.mpr (Sighting.found_identities [] g.declarations).1

theorem discover_facades_nodup (g : DeclarationGraph) : g.discover.facades.Nodup :=
  (List.nodup_append.mp (List.Nodup.of_map _ g.discover_identities_nodup)).1

theorem discover_dtos_nodup (g : DeclarationGraph) : g.discover.dtos.Nodup :=
  (List.nodup_append.mp (List.Nodup.of_map _ g.discover_identities_nodup)).2.1

/-- A discovered declaration is known by its identity. -/
theorem eq_of_discovered {d' : Declaration} (hd : d ∈ g.discover.declarations)
    (hd' : d' ∈ g.discover.declarations) (h : d'.identity = d.identity) : d' = d :=
  List.inj_on_of_nodup_map g.discover_identities_nodup hd' hd h

theorem marked_of_mem_facades (h : d ∈ g.discover.facades) :
    d ∈ g.declarations ∧ (d.marker? facadeMarker).isSome = true := by
  obtain ⟨s, hs, hd⟩ := List.mem_filterMap.mp h
  obtain ⟨earlier, e, he, hof⟩ := Sighting.exists_of_mem_sequence hs
  cases hof with
  | facade _ hmarked _ =>
      obtain rfl : e = d := by simpa [Sighting.facade?] using hd
      exact ⟨he, hmarked⟩
  | _ => simp [Sighting.facade?] at hd

theorem marked_of_mem_dtos (h : d ∈ g.discover.dtos) :
    d ∈ g.declarations ∧ d.marker? facadeMarker = none ∧ (d.marker? dtoMarker).isSome = true := by
  obtain ⟨s, hs, hd⟩ := List.mem_filterMap.mp h
  obtain ⟨earlier, e, he, hof⟩ := Sighting.exists_of_mem_sequence hs
  cases hof with
  | dto hfacade hmarked _ =>
      obtain rfl : e = d := by simpa [Sighting.dto?] using hd
      exact ⟨he, hfacade, hmarked⟩
  | _ => simp [Sighting.dto?] at hd

theorem not_mem_dtos_of_mem_facades (h : d ∈ g.discover.facades) : d ∉ g.discover.dtos := by
  intro hd
  have hmarked := (marked_of_mem_facades h).2
  rw [(marked_of_mem_dtos hd).2.1] at hmarked
  cases hmarked

/-- The first marked fragment of an identity is discovered, and no other. -/
theorem mem_discovered_iff :
    d ∈ g.discover.declarations ↔ (g.fragments d.identity).find? (·.isMarked) = some d := by
  have hfound : d ∈ g.discover.declarations ↔
      d ∈ (Sighting.sequence [] g.declarations).filterMap Sighting.found? :=
    (Sighting.facades_dtos_perm _).mem_iff
  rw [hfound, Sighting.mem_found_iff, fragments, List.find?_filter]
  simp [beq_eq_decide]

theorem mem_facades_of_discovered :
    d ∈ g.discover.facades ↔
      d ∈ g.discover.declarations ∧ (d.marker? facadeMarker).isSome = true := by
  constructor
  · exact fun h => ⟨List.mem_append_left _ h, (marked_of_mem_facades h).2⟩
  · rintro ⟨h, hmarked⟩
    rcases List.mem_append.mp h with h | h
    · exact h
    · simp [(marked_of_mem_dtos h).2.1] at hmarked

theorem mem_dtos_of_discovered :
    d ∈ g.discover.dtos ↔
      d ∈ g.discover.declarations ∧ d.marker? facadeMarker = none := by
  constructor
  · exact fun h => ⟨List.mem_append_right _ h, (marked_of_mem_dtos h).2.1⟩
  · rintro ⟨h, hmarked⟩
    rcases List.mem_append.mp h with h | h
    · simpa [hmarked] using (marked_of_mem_facades h).2
    · exact h

/-- Discovery looks at the marked fragments only. -/
theorem discover_filter_isMarked (ds : List Declaration) :
    (ofList (ds.filter (·.isMarked))).discover = (ofList ds).discover := by
  have hfacades : ((Sighting.sequence [] ds).filter (!·.isUnmarked)).filterMap Sighting.facade? =
      (Sighting.sequence [] ds).filterMap Sighting.facade? := by
    rw [List.filterMap_filter]
    exact List.filterMap_congr fun s _ => by cases s <;> rfl
  have hdtos : ((Sighting.sequence [] ds).filter (!·.isUnmarked)).filterMap Sighting.dto? =
      (Sighting.sequence [] ds).filterMap Sighting.dto? := by
    rw [List.filterMap_filter]
    exact List.filterMap_congr fun s _ => by cases s <;> rfl
  have hlog : ((Sighting.sequence [] ds).filter (!·.isUnmarked)).flatMap Sighting.log =
      (Sighting.sequence [] ds).flatMap Sighting.log :=
    Sighting.flatMap_filter_sighted rfl _
  simp only [discover, ofList, Sighting.sequence_filter_isMarked, hfacades, hdtos, hlog]

theorem discover_insert_unmarked {e : Declaration} (h : e.isMarked = false)
    (before after : List Declaration) :
    (ofList (before ++ e :: after)).discover = (ofList (before ++ after)).discover := by
  have hmarked : (before ++ e :: after).filter (·.isMarked) = (before ++ after).filter (·.isMarked) := by
    rw [List.filter_append, List.filter_cons_of_neg (by simp [h]), List.filter_append]
  rw [← discover_filter_isMarked, hmarked, discover_filter_isMarked]

end DeclarationGraph

/-- The discovered declarations, each changed. -/
def Discovery.map (f : Declaration → Declaration) (found : Discovery) : Discovery :=
  ⟨found.facades.map f, found.dtos.map f, found.log⟩

namespace DeclarationGraph

theorem discover_map {f : Declaration → Declaration} (hidentity : ∀ d, (f d).identity = d.identity)
    (hannotations : ∀ d, (f d).annotations = d.annotations) (ds : List Declaration) :
    (ofList (ds.map f)).discover = (ofList ds).discover.map f := by
  have hfacades : ((Sighting.sequence [] ds).map (Sighting.map f)).filterMap Sighting.facade? =
      ((Sighting.sequence [] ds).filterMap Sighting.facade?).map f := by
    rw [List.filterMap_map, List.map_filterMap]
    exact List.filterMap_congr fun s _ => by cases s <;> rfl
  have hdtos : ((Sighting.sequence [] ds).map (Sighting.map f)).filterMap Sighting.dto? =
      ((Sighting.sequence [] ds).filterMap Sighting.dto?).map f := by
    rw [List.filterMap_map, List.map_filterMap]
    exact List.filterMap_congr fun s _ => by cases s <;> rfl
  have hlog : ((Sighting.sequence [] ds).map (Sighting.map f)).flatMap Sighting.log =
      (Sighting.sequence [] ds).flatMap Sighting.log := by
    rw [List.flatMap_map]
    refine List.flatMap_congr fun s _ => ?_
    cases s with
    | facade d alsoDto => cases alsoDto <;> simp [Sighting.map, Sighting.log, hidentity]
    | _ => simp [Sighting.map, Sighting.log, hidentity]
  simp only [discover, ofList, Discovery.map, Sighting.sequence_map hidentity hannotations, hfacades,
    hdtos, hlog, List.length_map]

end DeclarationGraph

end EndpointGen
