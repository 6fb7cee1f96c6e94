/- Graphs that agree on some names, and graphs that resolution cannot tell apart under these names. Where
   nothing found under the names mentions another name, walks up from them go alike as well. -/
import EndpointGen.Dto.Basic
import EndpointGen.Proofs.Graph.Queries

namespace EndpointGen

namespace Annotation

/-- The named types that an annotation is given as arguments. -/
def typeNames (a : Annotation) : List String :=
  (a.typeArgs ++ a.args.filterMap Argument.type?).filterMap TypeExpr.identity?

/-- The names that an annotation mentions: its kind, also in open form, and its named types. -/
def names (a : Annotation) : List String := a.kind :: openIdentity a.kind :: a.typeNames

theorem kind_mem_names (a : Annotation) : a.kind ∈ a.names := List.mem_cons_self

theorem openIdentity_mem_names (a : Annotation) : openIdentity a.kind ∈ a.names :=
  List.mem_cons_of_mem _ List.mem_cons_self

end Annotation

namespace Dto

/-- An entity that a marker names is one of its named types. -/
theorem identity_mem_names {marker : Annotation} {entity : TypeExpr} {name : String}
    (h : entityType? marker = some entity) (hname : entity.identity? = some name) :
    name ∈ marker.names := by
  have hentity : entity ∈ marker.typeArgs ++ marker.args.filterMap Argument.type? := by
    unfold entityType? at h
    rcases Option.or_eq_some_iff.mp h with h | ⟨-, h⟩
    · exact List.mem_append_left _ (List.mem_of_head? h)
    · obtain ⟨x, hx, htype⟩ := Option.bind_eq_some_iff.mp h
      have hpositional := (Option.filter_eq_some_iff.mp hx).1
      exact List.mem_append_right _
        (List.mem_filterMap.mpr ⟨x, List.mem_of_getElem? hpositional, htype⟩)
  have htypes : name ∈ marker.typeNames := List.mem_filterMap.mpr ⟨entity, hentity, hname⟩
  exact List.mem_cons_of_mem _ (List.mem_cons_of_mem _ htypes)

end Dto

namespace Declaration

/-- The annotations of a declaration and of its members. -/
def allAnnotations (d : Declaration) : List Annotation :=
  d.annotations ++ d.members.flatMap (·.annotations)

/-- The names under which resolution can look for something on behalf of a declaration: its identity, its
    base type and what its annotations mention. -/
def names (d : Declaration) : List String :=
  d.identity :: (d.baseType?.toList ++ d.allAnnotations.flatMap Annotation.names)

variable {d : Declaration} {a : Annotation} {name : String}

theorem identity_mem_names (d : Declaration) : d.identity ∈ d.names := List.mem_cons_self

theorem base_mem_names (h : d.baseType? = some name) : name ∈ d.names := by
  simp [names, h]

theorem mem_names_of_allAnnotations (ha : a ∈ d.allAnnotations) (h : name ∈ a.names) :
    name ∈ d.names := by
  have hmem : name ∈ d.allAnnotations.flatMap Annotation.names := List.mem_flatMap.mpr ⟨a, ha, h⟩
  exact List.mem_cons_of_mem _ (List.mem_append_right _ hmem)

theorem mem_names_of_annotation (ha : a ∈ d.annotations) (h : name ∈ a.names) : name ∈ d.names :=
  mem_names_of_allAnnotations (List.mem_append_left _ ha) h

theorem mem_names_of_member {m : Member} (hm : m ∈ d.members) (ha : a ∈ m.annotations)
    (h : name ∈ a.names) : name ∈ d.names := by
  exact mem_names_of_allAnnotations (List.mem_append_right _ (List.mem_flatMap.mpr ⟨m, hm, ha⟩)) h

end Declaration

namespace DeclarationGraph

theorem find?_ofList (ds : List Declaration) (name : String) :
    (ofList ds).find? name = ((ofList ds).fragments name).head? := List.head?_filter.symm

theorem baseType?_ofList (ds : List Declaration) (name : String) :
    (ofList ds).baseType? name = ((ofList ds).fragments name).head?.bind (·.baseType?) := by
  rw [baseType?, find?_ofList]

/-- Two graphs answer alike on the names that `near` holds of, and what is found under such a name
    mentions such names only. -/
structure AgreeOn (near : String → Prop) (g g' : DeclarationGraph) : Prop where
  find? : ∀ name, near name → g'.find? name = g.find? name
  fragments : ∀ name, near name → g'.fragments name = g.fragments name
  found_names : ∀ name, near name → ∀ d, g.find? name = some d → ∀ n ∈ d.names, near n
  fragment_names : ∀ name, near name → ∀ d ∈ g.fragments name, ∀ n ∈ d.names, near n

theorem AgreeOn.ofList {near : String → Prop} {ds ds' : List Declaration}
    (hfragments : ∀ name, near name → (ofList ds').fragments name = (ofList ds).fragments name)
    (hnames : ∀ d ∈ ds, near d.identity → ∀ n ∈ d.names, near n) :
    AgreeOn near (ofList ds) (ofList ds') := by
  have hclosed : ∀ name, near name → ∀ d ∈ (DeclarationGraph.ofList ds).fragments name,
      ∀ n ∈ d.names, near n := by
    intro name hname d hd
    obtain ⟨hmem, rfl⟩ := mem_fragments.mp hd
    exact hnames d hmem hname
  refine ⟨?_, hfragments, ?_, hclosed⟩
  · intro name hname
    rw [find?_ofList, find?_ofList, hfragments name hname]
  · intro name hname d hd
    rw [find?_ofList] at hd
    exact hclosed name hname d (List.mem_of_head? hd)

/-- Walks up from the names that `near` holds of go alike in two graphs, and stay among these names. -/
structure WalkOn (near : String → Prop) (g g' : DeclarationGraph) : Prop where
  baseType? : ∀ name, near name → g'.baseType? name = g.baseType? name
  near_base : ∀ name, near name → ∀ base, g.baseType? name = some base → near base

/-- Under the names that `near` holds of, resolution sees the same in two graphs: whether there is a
    declaration, its base type, its members in order, and whether a fragment is partial. What is seen leads
    to such names only. -/
structure AlikeOn (near : String → Prop) (g g' : DeclarationGraph) : Prop
    extends WalkOn near g g' where
  found : ∀ name, near name → (g'.find? name).map (·.identity) = (g.find? name).map (·.identity)
  members : ∀ name, near name →
    (g'.fragments name).flatMap (·.members) = (g.fragments name).flatMap (·.members)
  isPartial : ∀ name, near name →
    (g'.fragments name).any (·.isPartial) = (g.fragments name).any (·.isPartial)
  near_found : ∀ name, near name → ∀ d, g.find? name = some d → near d.identity
  near_member : ∀ name, near name → ∀ d ∈ g.fragments name, ∀ m ∈ d.members,
    ∀ a ∈ m.annotations, ∀ n ∈ a.names, near n

/-- The same with regard to dtos, which see of the members the properties only. -/
structure PropertiesAlikeOn (near : String → Prop) (g g' : DeclarationGraph) : Prop
    extends WalkOn near g g' where
  found : ∀ name, near name → (g'.find? name).map (·.identity) = (g.find? name).map (·.identity)
  properties : ∀ name, near name →
    (g'.fragments name).flatMap (·.properties) = (g.fragments name).flatMap (·.properties)
  isPartial : ∀ name, near name →
    (g'.fragments name).any (·.isPartial) = (g.fragments name).any (·.isPartial)
  near_found : ∀ name, near name → ∀ d, g.find? name = some d → near d.identity
  near_property : ∀ name, near name → ∀ p ∈ (g.fragments name).flatMap (·.properties),
    ∀ a ∈ p.annotations, ∀ n ∈ a.names, near n

variable {near : String → Prop} {g g' : DeclarationGraph} {name : String}

theorem AgreeOn.alike (h : AgreeOn near g g') : AlikeOn near g g' := by
  refine ⟨⟨?_, ?_⟩, ?_, ?_, ?_, ?_, ?_⟩
  · intro name hname
    rw [DeclarationGraph.baseType?, DeclarationGraph.baseType?, h.find? name hname]
  · intro name hname base hbase
    obtain ⟨d, hd, hbase⟩ := Option.bind_eq_some_iff.mp hbase
    exact h.found_names name hname d hd base (Declaration.base_mem_names hbase)
  · intro name hname
    rw [h.find? name hname]
  · intro name hname
    rw [h.fragments name hname]
  · intro name hname
    rw [h.fragments name hname]
  · intro name hname d hd
    exact h.found_names name hname d hd _ d.identity_mem_names
  · intro name hname d hd m hm a ha n hn
    exact h.fragment_names name hname d hd n (Declaration.mem_names_of_member hm ha hn)

namespace WalkOn

/-- A base of a near name is near, so a walk never leaves the names agreed on. -/
theorem near_above (h : WalkOn near g g') {n : Nat} {m : String} (hname : near name)
    (hm : g.above n name = some m) : near m := by
  induction n generalizing name with
  | zero =>
      obtain rfl : name = m := Option.some.inj hm
      exact hname
  | succ n ih =>
      obtain ⟨base, hbase, hm⟩ := Option.bind_eq_some_iff.mp hm
      exact ih (h.near_base name hname base hbase) hm

theorem ascend (h : WalkOn near g g') (ancestor : String) (steps : Nat) (hname : near name) :
    g'.ascend ancestor steps name = g.ascend ancestor steps name := by
  apply ascend_congr
  intro n _ m hm
  exact h.baseType? m (h.near_above hname hm)

theorem derives (h : WalkOn near g g') (ancestor : String) (hname : near name) :
    g'.derives name ancestor = g.derives name ancestor := by
  rw [DeclarationGraph.derives, ascent, h.ascend ancestor chainBound hname]
  rfl

theorem ascentLog (h : WalkOn near g g') (ancestor : String) (hname : near name) :
    g'.ascentLog name ancestor = g.ascentLog name ancestor := by
  rw [DeclarationGraph.ascentLog, ascent, h.ascend ancestor chainBound hname]
  rfl

end WalkOn

/-- Fragments that resolution cannot tell from others of the same identity: the first ones have one base
    type, and all together have the same members and are partial or not. -/
structure SeenAlike (fs fs' : List Declaration) : Prop where
  identity : fs'.head?.map (·.identity) = fs.head?.map (·.identity)
  baseType? : fs'.head?.bind (·.baseType?) = fs.head?.bind (·.baseType?)
  members : fs'.flatMap (·.members) = fs.flatMap (·.members)
  isPartial : fs'.any (·.isPartial) = fs.any (·.isPartial)

theorem SeenAlike.refl (fs : List Declaration) : SeenAlike fs fs := ⟨rfl, rfl, rfl, rfl⟩

namespace AlikeOn

theorem ofList {ds ds' : List Declaration}
    (h : ∀ name, SeenAlike ((ofList ds).fragments name) ((ofList ds').fragments name)) :
    AlikeOn (fun _ => True) (ofList ds) (ofList ds') := by
  refine ⟨⟨?_, fun _ _ _ _ => trivial⟩, ?_, fun name _ => (h name).members,
    fun name _ => (h name).isPartial, fun _ _ _ _ => trivial, fun _ _ _ _ _ _ _ _ _ _ => trivial⟩
  · intro name _
    rw [baseType?_ofList, baseType?_ofList]
    exact (h name).baseType?
  · intro name _
    rw [find?_ofList, find?_ofList]
    exact (h name).identity

theorem propertiesAlike (h : AlikeOn near g g') : PropertiesAlikeOn near g g' := by
  refine ⟨h.toWalkOn, h.found, ?_, h.isPartial, h.near_found, ?_⟩
  · intro name hname
    have hmembers := congrArg (List.filter (·.isProperty)) (h.members name hname)
    rw [List.filter_flatMap, List.filter_flatMap] at hmembers
    exact hmembers
  · intro name hname p hp
    obtain ⟨d, hd, hp⟩ := List.mem_flatMap.mp hp
    exact h.near_member name hname d hd p (List.mem_filter.mp hp).1

end AlikeOn

/-- The identity that a type refers to is the same, where there is one. -/
theorem PropertiesAlikeOn.resolve? (h : PropertiesAlikeOn near g g') {t : TypeExpr}
    (ht : ∀ n, t.identity? = some n → near n) :
    (g'.resolve? t).map (·.identity) = (g.resolve? t).map (·.identity) := by
  unfold DeclarationGraph.resolve?
  cases hid : t.identity? with
  | none => rfl
  | some n => exact h.found n (ht n hid)

end DeclarationGraph

end EndpointGen
