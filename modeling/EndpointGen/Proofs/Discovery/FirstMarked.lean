/- Discovery by position: a facade or dto is listed for the first marked fragment of its identity, in the
   order of these fragments, and fragments that are not marked do not count. -/
import EndpointGen.Proofs.Discovery
import EndpointGen.Proofs.Graph.Queries

namespace EndpointGen

namespace Declaration

variable {d : Declaration} {marker : String}

def Carries (d : Declaration) (marker : String) : Prop :=
  ∃ a ∈ d.annotations, isMarker a.kind marker = true

instance (d : Declaration) (marker : String) : Decidable (d.Carries marker) :=
  inferInstanceAs (Decidable (∃ a ∈ d.annotations, isMarker a.kind marker = true))

def Marked (d : Declaration) : Prop := d.Carries facadeMarker ∨ d.Carries dtoMarker

theorem marker?_isSome_iff : (d.marker? marker).isSome = true ↔ d.Carries marker := by
  rw [marker?, List.find?_isSome]
  rfl

theorem isMarked_iff : d.isMarked = true ↔ d.Marked := by
  rw [isMarked, Bool.or_eq_true, marker?_isSome_iff, marker?_isSome_iff]
  rfl

end Declaration

/-- The fragment at the position is marked, and no marked fragment before it has its identity. -/
structure FirstMarkedAt (ds : List Declaration) (i : Nat) (d : Declaration) : Prop where
  here : ds[i]? = some d
  marked : d.Marked
  first : ∀ j < i, ∀ e, ds[j]? = some e → e.Marked → e.identity ≠ d.identity

namespace FirstMarkedAt

variable {ds : List Declaration} {d e : Declaration} {i : Nat}

theorem zero_iff : FirstMarkedAt (d :: ds) 0 e ↔ e = d ∧ d.Marked := by
  constructor
  · intro h
    obtain rfl := Option.some.inj h.here
    exact ⟨rfl, h.marked⟩
  · rintro ⟨rfl, hmarked⟩
    exact ⟨rfl, hmarked, fun j hj => absurd hj (Nat.not_lt_zero j)⟩

theorem succ_iff :
    FirstMarkedAt (d :: ds) (i + 1) e ↔
      FirstMarkedAt ds i e ∧ (d.Marked → d.identity ≠ e.identity) := by
  constructor
  · intro h
    refine ⟨⟨h.here, h.marked, ?_⟩, h.first 0 (Nat.succ_pos i) d rfl⟩
    intro j hj
    exact h.first (j + 1) (Nat.succ_lt_succ hj)
  · rintro ⟨h, hd⟩
    refine ⟨h.here, h.marked, ?_⟩
    intro j hj f hf
    cases j with
    | zero =>
        obtain rfl := Option.some.inj hf
        exact hd
    | succ j => exact h.first j (Nat.lt_of_succ_lt_succ hj) f hf

end FirstMarkedAt

/-- The found declarations are those of the positions, one for each and in ascending order. -/
def ListsInOrder (ds : List Declaration) (position : Nat → Prop) (found : List Declaration) : Prop :=
  ∃ is : List Nat, is.Pairwise (· < ·) ∧ (∀ i, i ∈ is ↔ position i) ∧
    is.map (fun i => ds[i]?) = found.map some

namespace ListsInOrder

variable {ds found : List Declaration} {d : Declaration} {position position' : Nat → Prop}

theorem congr (h : ListsInOrder ds position found) (hiff : ∀ i, position i ↔ position' i) :
    ListsInOrder ds position' found := by
  obtain ⟨is, hascending, hmem, hfound⟩ := h
  exact ⟨is, hascending, fun i => (hmem i).trans (hiff i), hfound⟩

theorem nil (h : ∀ i, ¬ position i) : ListsInOrder [] position [] := by
  refine ⟨[], List.Pairwise.nil, ?_, rfl⟩
  intro i
  exact iff_of_false List.not_mem_nil (h i)

theorem pass (h : ListsInOrder ds (fun i => position (i + 1)) found) (hd : ¬ position 0) :
    ListsInOrder (d :: ds) position found := by
  obtain ⟨is, hascending, hmem, hfound⟩ := h
  refine ⟨is.map (· + 1), List.pairwise_map.mpr (hascending.imp Nat.succ_lt_succ), ?_, ?_⟩
  · intro i
    cases i with
    | zero => simp [hd]
    | succ i => simp [hmem]
  · rw [List.map_map, ← hfound]
    rfl

theorem take (h : ListsInOrder ds (fun i => position (i + 1)) found) (hd : position 0) :
    ListsInOrder (d :: ds) position (d :: found) := by
  obtain ⟨is, hascending, hmem, hfound⟩ := h
  refine ⟨0 :: is.map (· + 1), ?_, ?_, ?_⟩
  · apply List.pairwise_cons.mpr
    refine ⟨?_, List.pairwise_map.mpr (hascending.imp Nat.succ_lt_succ)⟩
    intro i hi
    obtain ⟨j, -, rfl⟩ := List.mem_map.mp hi
    exact Nat.succ_pos j
  · intro i
    cases i with
    | zero => simp [hd]
    | succ i => simp [hmem]
  · rw [List.map_cons, List.map_cons, List.map_map, ← hfound]
    rfl

end ListsInOrder

namespace Sighting

variable {seen : List String} {d : Declaration}

theorem mem_remember_of {name : String} :
    name ∈ (of seen d).remember seen ↔ (d.Marked ∧ d.identity = name) ∨ name ∈ seen := by
  by_cases hpassed : d.isMarked = true → d.identity ∈ seen
  · rw [(of_passed hpassed).2]
    constructor
    · exact .inr
    · rintro (⟨hmarked, rfl⟩ | hname)
      · exact hpassed (Declaration.isMarked_iff.mpr hmarked)
      · exact hname
  · obtain ⟨hmarked, hnew⟩ := Classical.not_imp.mp hpassed
    rw [(of_found hmarked hnew).2, List.mem_cons, eq_comm]
    simp only [Declaration.isMarked_iff.mp hmarked, true_and]

theorem found?_of_iff {e : Declaration} :
    (of seen d).found? = some e ↔ e = d ∧ d.Marked ∧ d.identity ∉ seen := by
  by_cases hpassed : d.isMarked = true → d.identity ∈ seen
  · rw [(of_passed hpassed).1]
    apply iff_of_false (Option.some_ne_none e).symm
    rintro ⟨-, hmarked, hnew⟩
    exact hnew (hpassed (Declaration.isMarked_iff.mpr hmarked))
  · obtain ⟨hmarked, hnew⟩ := Classical.not_imp.mp hpassed
    rw [(of_found hmarked hnew).1, Option.some.injEq, eq_comm]
    simp only [Declaration.isMarked_iff.mp hmarked, hnew, not_false_eq_true, and_self, and_true]

/-- The positions of the fragments that are kept, where some identities were seen before. -/
def KeptAt (keep : Declaration → Bool) (seen : List String) (ds : List Declaration) (i : Nat) :
    Prop :=
  ∃ d, FirstMarkedAt ds i d ∧ keep d = true ∧ d.identity ∉ seen

variable {keep : Declaration → Bool} {ds : List Declaration}

theorem keptAt_zero_iff :
    KeptAt keep seen (d :: ds) 0 ↔ d.Marked ∧ keep d = true ∧ d.identity ∉ seen := by
  constructor
  · rintro ⟨e, hfirst, hkeep, hnew⟩
    obtain ⟨rfl, hmarked⟩ := FirstMarkedAt.zero_iff.mp hfirst
    exact ⟨hmarked, hkeep, hnew⟩
  · rintro ⟨hmarked, hkeep, hnew⟩
    exact ⟨d, FirstMarkedAt.zero_iff.mpr ⟨rfl, hmarked⟩, hkeep, hnew⟩

theorem keptAt_succ_iff (i : Nat) :
    KeptAt keep ((of seen d).remember seen) ds i ↔ KeptAt keep seen (d :: ds) (i + 1) := by
  apply exists_congr
  intro e
  rw [FirstMarkedAt.succ_iff, mem_remember_of, not_or, not_and]
  constructor
  · rintro ⟨hfirst, hkeep, hother, hnew⟩
    exact ⟨⟨hfirst, hother⟩, hkeep, hnew⟩
  · rintro ⟨⟨hfirst, hother⟩, hkeep, hnew⟩
    exact ⟨hfirst, hkeep, hother, hnew⟩

/-- Follows the recursion of the scan: what is seen are the identities of the marked fragments so far. -/
theorem sequence_lists {pick : Sighting → Option Declaration}
    (hpick : ∀ seen d, pick (of seen d) = (of seen d).found?.filter keep)
    (seen : List String) (ds : List Declaration) :
    ListsInOrder ds (KeptAt keep seen ds) ((sequence seen ds).filterMap pick) := by
  induction ds generalizing seen with
  | nil =>
      apply ListsInOrder.nil
      rintro i ⟨d, hfirst, -⟩
      cases hfirst.here
  | cons d ds ih =>
      have hrest := (ih ((of seen d).remember seen)).congr keptAt_succ_iff
      have hfirst : ∀ e, pick (of seen d) = some e ↔ e = d ∧ KeptAt keep seen (d :: ds) 0 := by
        intro e
        rw [hpick, Option.filter_eq_some_iff, found?_of_iff, keptAt_zero_iff]
        constructor
        · rintro ⟨⟨rfl, hmarked, hnew⟩, hkeep⟩
          exact ⟨rfl, hmarked, hkeep, hnew⟩
        · rintro ⟨rfl, hmarked, hkeep, hnew⟩
          exact ⟨⟨rfl, hmarked, hnew⟩, hkeep⟩
      rw [sequence]
      cases hpicked : pick (of seen d) with
      | none =>
          rw [List.filterMap_cons_none hpicked]
          apply hrest.pass
          intro hzero
          have hsome := (hfirst d).mpr ⟨rfl, hzero⟩
          simp [hpicked] at hsome
      | some e =>
          obtain ⟨rfl, hzero⟩ := (hfirst e).mp hpicked
          rw [List.filterMap_cons_some hpicked]
          exact hrest.take hzero

theorem facade?_of (seen : List String) (d : Declaration) :
    (of seen d).facade? =
      (of seen d).found?.filter fun d => (d.marker? facadeMarker).isSome := by
  have hof := of_cases seen d
  generalize of seen d = s at hof
  cases hof with
  | facade _ hmarked _ => simp [facade?, found?, Option.filter, hmarked]
  | dto hnone _ _ => simp [facade?, found?, Option.filter, hnone]
  | _ => rfl

theorem dto?_of (seen : List String) (d : Declaration) :
    (of seen d).dto? = (of seen d).found?.filter fun d => !(d.marker? facadeMarker).isSome := by
  have hof := of_cases seen d
  generalize of seen d = s at hof
  cases hof with
  | facade _ hmarked _ => simp [dto?, found?, Option.filter, hmarked]
  | dto hnone _ _ => simp [dto?, found?, Option.filter, hnone]
  | _ => rfl

end Sighting

namespace DeclarationGraph

theorem discover_facades_listed (g : DeclarationGraph) :
    ListsInOrder g.declarations
      (fun i => ∃ d, FirstMarkedAt g.declarations i d ∧ d.Carries facadeMarker)
      g.discover.facades := by
  refine (Sighting.sequence_lists Sighting.facade?_of [] g.declarations).congr fun i => ?_
  simp [Sighting.KeptAt, ← Declaration.marker?_isSome_iff]

theorem discover_dtos_listed (g : DeclarationGraph) :
    ListsInOrder g.declarations
      (fun i => ∃ d, FirstMarkedAt g.declarations i d ∧ ¬ d.Carries facadeMarker)
      g.discover.dtos := by
  refine (Sighting.sequence_lists Sighting.dto?_of [] g.declarations).congr fun i => ?_
  simp [Sighting.KeptAt, ← Declaration.marker?_isSome_iff]

theorem mem_discovered_identities_iff (g : DeclarationGraph) (name : String) :
    name ∈ g.discover.declarations.map (·.identity) ↔ ∃ d ∈ g.fragments name, d.Marked := by
  constructor
  · intro h
    obtain ⟨d, hd, rfl⟩ := List.mem_map.mp h
    have hfound := mem_discovered_iff.mp hd
    exact ⟨d, List.mem_of_find?_eq_some hfound,
      Declaration.isMarked_iff.mp (List.find?_some hfound)⟩
  · rintro ⟨d, hd, hmarked⟩
    have hsome : ((g.fragments name).find? (·.isMarked)).isSome = true :=
      List.find?_isSome.mpr ⟨d, hd, Declaration.isMarked_iff.mpr hmarked⟩
    obtain ⟨first, hfirst⟩ := Option.isSome_iff_exists.mp hsome
    obtain ⟨-, rfl⟩ := mem_fragments.mp (List.mem_of_find?_eq_some hfirst)
    exact List.mem_map.mpr ⟨first, mem_discovered_iff.mpr hfirst, rfl⟩

/-- Discovery lists an identity once, where a fragment of it is marked: for the first one, in the order of
    these, as a facade if this one carries a facade marker and else as a dto. Fragments that are not marked
    can be left out. -/
theorem discover_exact (g : DeclarationGraph) :
    (g.discover.declarations.map (·.identity)).Nodup ∧
      (∀ name, name ∈ g.discover.declarations.map (·.identity) ↔
        ∃ d ∈ g.fragments name, d.Marked) ∧
      ListsInOrder g.declarations
        (fun i => ∃ d, FirstMarkedAt g.declarations i d ∧ d.Carries facadeMarker)
        g.discover.facades ∧
      ListsInOrder g.declarations
        (fun i => ∃ d, FirstMarkedAt g.declarations i d ∧ ¬ d.Carries facadeMarker)
        g.discover.dtos ∧
      (ofList (g.declarations.filter (·.isMarked))).discover = g.discover :=
  ⟨g.discover_identities_nodup, g.mem_discovered_identities_iff, g.discover_facades_listed,
    g.discover_dtos_listed, discover_filter_isMarked g.declarations⟩

end DeclarationGraph

end EndpointGen
