/- Dtos of graphs that are alike on the names that a declaration mentions: they resolve alike and receive
   the same properties. -/
import Mathlib.Data.List.Basic
import EndpointGen.Pass
import EndpointGen.Proofs.Dto.IgnoredAttributes
import EndpointGen.Proofs.Graph.Agreement

namespace EndpointGen

section Through

variable {α : Type} {p q : α → Bool} {xs : List α}

theorem through_congr (h : ∀ x ∈ xs, p x = q x) : through p xs = through q xs := by
  induction xs with
  | nil => rfl
  | cons x xs ih =>
      rw [through, through, h x List.mem_cons_self, ih fun y hy => h y (List.mem_cons_of_mem x hy)]

theorem mem_of_mem_through {x : α} (h : x ∈ through p xs) : x ∈ xs := by
  induction xs with
  | nil => exact h
  | cons y xs ih =>
      rw [through] at h
      by_cases hy : p y = true
      · rw [if_pos hy] at h
        exact List.mem_cons.mpr (.inl (List.mem_singleton.mp h))
      · rw [if_neg hy] at h
        rcases List.mem_cons.mp h with rfl | h
        · exact List.mem_cons_self
        · exact List.mem_cons_of_mem y (ih h)

theorem any_congr_of_mem (h : ∀ x ∈ xs, p x = q x) : xs.any p = xs.any q := by
  have hmap : (xs.map p).any id = (xs.map q).any id := by rw [List.map_congr_left h]
  simpa only [List.any_map, Function.id_comp] using hmap

end Through

namespace DeclarationGraph.WalkOn

variable {near : String → Prop} {g g' : DeclarationGraph} {ignored : List TypeExpr}
  {consumed : Annotation → Bool} {a : Annotation} {annotations : List Annotation}

theorem near_walk (ha : ∀ n ∈ a.names, near n) {start ancestor : String}
    (h : (start, ancestor) ∈ walksToIgnored a.kind ignored) : near start := by
  rcases (mem_walksToIgnored.mp h).1 with rfl | rfl
  · exact ha _ a.kind_mem_names
  · exact ha _ a.openIdentity_mem_names

theorem walks (h : WalkOn near g g') (ha : ∀ n ∈ a.names, near n) :
    ∀ walk ∈ walksToIgnored a.kind ignored, g'.derives walk.1 walk.2 = g.derives walk.1 walk.2 :=
  fun walk hwalk => h.derives walk.2 (near_walk ha hwalk)

theorem ignores (h : WalkOn near g g') (ha : ∀ n ∈ a.names, near n) :
    g'.ignores ignored a.kind = g.ignores ignored a.kind :=
  any_congr_of_mem (h.walks ha)

theorem ignoresLog (h : WalkOn near g g') (ha : ∀ n ∈ a.names, near n) :
    g'.ignoresLog ignored a.kind = g.ignoresLog ignored a.kind := by
  have hwalks : through (fun walk => g'.derives walk.1 walk.2) (walksToIgnored a.kind ignored) =
      through (fun walk => g.derives walk.1 walk.2) (walksToIgnored a.kind ignored) :=
    through_congr (h.walks ha)
  have hlog : ∀ walk ∈ through (fun walk => g.derives walk.1 walk.2)
      (walksToIgnored a.kind ignored),
      g'.ascentLog walk.1 walk.2 = g.ascentLog walk.1 walk.2 :=
    fun walk hwalk => h.ascentLog walk.2 (near_walk ha (mem_of_mem_through hwalk))
  calc g'.ignoresLog ignored a.kind
      = (through (fun walk => g.derives walk.1 walk.2) (walksToIgnored a.kind ignored)).flatMap
          fun walk => g'.ascentLog walk.1 walk.2 := congrArg _ hwalks
    _ = g.ignoresLog ignored a.kind := List.flatMap_congr hlog

theorem propagate (h : WalkOn near g g') (ha : ∀ a ∈ annotations, ∀ n ∈ a.names, near n) :
    g'.propagate ignored consumed annotations = g.propagate ignored consumed annotations := by
  refine List.filter_congr fun a hmem => ?_
  rw [h.ignores (ha a (List.mem_filter.mp hmem).1)]

theorem propagateLog (h : WalkOn near g g') (ha : ∀ a ∈ annotations, ∀ n ∈ a.names, near n) :
    g'.propagateLog ignored consumed annotations = g.propagateLog ignored consumed annotations :=
  List.flatMap_congr fun a hmem => h.ignoresLog (ha a (List.mem_filter.mp hmem).1)

end DeclarationGraph.WalkOn

namespace Dto

open DeclarationGraph (PropertiesAlikeOn)

variable {near : String → Prop} {g g' : DeclarationGraph} {config : Config} {d : Declaration}
  {t : Dto} {p : Member}

theorem resolve_agree (h : PropertiesAlikeOn near g g') (hd : ∀ n ∈ d.names, near n) :
    resolve g' d = resolve g d := by
  have hidentity := hd _ d.identity_mem_names
  have hpartial := h.isPartial d.identity hidentity
  have hproperties := h.properties d.identity hidentity
  unfold resolve
  cases hm : d.marker? dtoMarker with
  | none => rfl
  | some marker =>
      simp only [hpartial]
      cases he : entityType? marker with
      | none => rfl
      | some entity =>
          have hentity : (g'.resolve? entity).map (·.identity) =
              (g.resolve? entity).map (·.identity) := by
            refine h.resolve? fun n hn => hd n ?_
            exact Declaration.mem_names_of_annotation (List.mem_of_find?_eq_some hm)
              (identity_mem_names he hn)
          have hdto : ofMarked g' d marker entity = ofMarked g d marker entity := by
            rw [ofMarked, ofMarked, hproperties]
          -- Whether the entity is in the graph is all that is asked of it.
          cases hr : g.resolve? entity with
          | none =>
              rw [hr, Option.map_none, Option.map_eq_none_iff] at hentity
              simp only [hr, hentity]
          | some e =>
              rw [hr, Option.map_some, Option.map_eq_some_iff] at hentity
              obtain ⟨e', he', -⟩ := hentity
              simp only [hr, he', hdto]

/-- The entity of a dto is a near name where it is a name. -/
def EntityNear (near : String → Prop) (t : Dto) : Prop :=
  ∀ n, t.entityType.identity? = some n → near n

theorem entityNear_of_resolve (hd : ∀ n ∈ d.names, near n) (h : (resolve g d).value? = some t) :
    t.EntityNear near := by
  unfold resolve at h
  split at h
  · cases h
  · next marker hm =>
      split at h
      · split at h
        · cases h
        · next entity he =>
            split at h
            · cases h
            · obtain rfl : ofMarked g d marker entity = t := by
                simpa [Resolution.resolved] using h
              intro n hn
              exact hd n (Declaration.mem_names_of_annotation (List.mem_of_find?_eq_some hm)
                (identity_mem_names he hn))
      · cases h

/-- The properties are those of all fragments of the identity that the entity type refers to. -/
theorem entityProperties_eq (t : Dto) (g : DeclarationGraph) :
    t.entityProperties g = ((g.resolve? t.entityType).map (·.identity)).toList.flatMap fun name =>
      (g.fragments name).flatMap (·.properties) := by
  unfold entityProperties
  cases g.resolve? t.entityType with
  | none => rfl
  | some entity => simp

section Projection

variable (h : PropertiesAlikeOn near g g') (ht : t.EntityNear near)
include h ht

theorem near_entity {name : String}
    (hname : name ∈ ((g.resolve? t.entityType).map (·.identity)).toList) : near name := by
  obtain ⟨entity, hentity, rfl⟩ := Option.map_eq_some_iff.mp (Option.mem_toList.mp hname)
  obtain ⟨n, hn, hfound⟩ := Option.bind_eq_some_iff.mp hentity
  exact h.near_found n (ht n hn) entity hfound

theorem entityProperties_agree : t.entityProperties g' = t.entityProperties g := by
  rw [entityProperties_eq, entityProperties_eq, h.resolve? ht]
  exact List.flatMap_congr fun name hname => h.properties name (near_entity h ht hname)

theorem near_of_entityProperty (hp : p ∈ t.entityProperties g) {a : Annotation}
    (ha : a ∈ p.annotations) : ∀ n ∈ a.names, near n := by
  rw [entityProperties_eq] at hp
  obtain ⟨name, hname, hp⟩ := List.mem_flatMap.mp hp
  exact h.near_property name (near_entity h ht hname) p hp a ha

theorem isIgnoredAnnotation_agree (hp : p ∈ t.entityProperties g) :
    ∀ a ∈ p.annotations, t.isIgnoredAnnotation g' a = t.isIgnoredAnnotation g a :=
  fun _ ha => h.ignores (near_of_entityProperty h ht hp ha)

theorem skipReason?_agree (hp : p ∈ t.entityProperties g) :
    t.skipReason? g' p = t.skipReason? g p := by
  unfold skipReason?
  rw [any_congr_of_mem (isIgnoredAnnotation_agree h ht hp)]

theorem properties_agree : t.properties g' = t.properties g := by
  have hkept : (t.entityProperties g).filter (fun p => (t.skipReason? g' p).isNone) =
      (t.entityProperties g).filter fun p => (t.skipReason? g p).isNone :=
    List.filter_congr fun p hp => by rw [skipReason?_agree h ht hp]
  unfold properties
  rw [entityProperties_agree h ht, hkept]
  refine List.map_congr_left fun p hp => ?_
  have hmem := (List.mem_filter.mp hp).1
  rw [project, project, h.propagate fun a ha => near_of_entityProperty h ht hmem ha]

theorem decisionLog_agree (hp : p ∈ t.entityProperties g) :
    t.decisionLog g' p = t.decisionLog g p := by
  have hwalked : ((through (t.isIgnoredAnnotation g') p.annotations).flatMap fun a =>
      g'.ignoresLog t.ignoredAttributeTypes a.kind) =
      (through (t.isIgnoredAnnotation g) p.annotations).flatMap fun a =>
        g.ignoresLog t.ignoredAttributeTypes a.kind := by
    rw [through_congr (isIgnoredAnnotation_agree h ht hp)]
    refine List.flatMap_congr fun a ha => ?_
    exact h.ignoresLog (near_of_entityProperty h ht hp (mem_of_mem_through ha))
  unfold decisionLog
  rw [skipReason?_agree h ht hp, hwalked]

theorem projectionLog_agree : t.projectionLog g' = t.projectionLog g := by
  unfold projectionLog
  rw [entityProperties_agree h ht]
  refine List.flatMap_congr fun p hp => ?_
  unfold propertyLog
  rw [decisionLog_agree h ht hp, skipReason?_agree h ht hp,
    h.propagateLog fun a ha => near_of_entityProperty h ht hp ha]

theorem sourceText_agree : t.sourceText g' config = t.sourceText g config := by
  delta sourceText
  rw [properties_agree h ht]

theorem unit_agree : t.unit g' config = t.unit g config := by
  have htext : t.sourceText g' config = t.sourceText g config := sourceText_agree h ht
  exact congrArg (SourceUnit.mk t.outputKey) htext

end Projection

theorem pending_agree (h : PropertiesAlikeOn near g g') (hd : ∀ n ∈ d.names, near n) :
    Pending.ofDto g' config d = Pending.ofDto g config d := by
  have hunits : ((resolve g d).value?.map fun t => [t.unit g' config]) =
      (resolve g d).value?.map fun t => [t.unit g config] :=
    Option.map_congr fun t ht => by rw [unit_agree h (entityNear_of_resolve hd ht)]
  have hlog : ((resolve g d).value?.map fun t => t.projectionLog g') =
      (resolve g d).value?.map fun t => t.projectionLog g :=
    Option.map_congr fun t ht => by rw [projectionLog_agree h (entityNear_of_resolve hd ht)]
  simp only [Pending.ofDto, resolve_agree h hd, hunits, hlog]

end Dto

end EndpointGen
