/- Properties written by hand. A further fragment of a dto takes the names of its properties out of the
   projection, and leaves everything else as it is; also where the dto is its own entity. -/
import EndpointGen.Proofs.Discovery
import EndpointGen.Proofs.Dto.Agreement
import EndpointGen.Proofs.Graph.Index
import EndpointGen.Proofs.Text.OrderedSet

namespace EndpointGen

namespace DeclarationGraph

variable {ds : List Declaration} {e : Declaration}

/-- A further fragment of an identity that the graph has is never the first. -/
theorem find?_further (h : ∃ d ∈ ds, d.identity = e.identity) (name : String) :
    (ofList (ds ++ [e])).find? name = (ofList ds).find? name := by
  simp only [ofList, List.find?_append]
  cases hfound : ds.find? fun d => d.identity == name with
  | some d => rfl
  | none =>
      have hother : e.identity ≠ name := by
        obtain ⟨d, hd, hidentity⟩ := h
        have hd' := List.find?_eq_none.mp hfound d hd
        simpa [hidentity] using hd'
      simp [hother]

theorem walk_further (h : ∃ d ∈ ds, d.identity = e.identity) :
    WalkOn (fun _ => True) (ofList ds) (ofList (ds ++ [e])) := by
  refine ⟨fun name _ => ?_, fun _ _ _ _ => trivial⟩
  rw [baseType?, baseType?, find?_further h]

theorem resolve?_further (h : ∃ d ∈ ds, d.identity = e.identity) (t : TypeExpr) :
    (ofList (ds ++ [e])).resolve? t = (ofList ds).resolve? t := by
  rw [resolve?, resolve?]
  exact Option.bind_congr fun name _ => find?_further h name

theorem fragments_further (ds : List Declaration) (e : Declaration) (name : String) :
    (ofList (ds ++ [e])).fragments name =
      (ofList ds).fragments name ++ if e.identity = name then [e] else [] := by
  rw [fragments, fragments, ofList, ofList, List.filter_append]
  by_cases hname : e.identity = name
  · simp [hname]
  · simp [hname]

theorem discover_further (h : e.isMarked = false) (ds : List Declaration) :
    (ofList (ds ++ [e])).discover = (ofList ds).discover := by
  rw [discover_insert_unmarked h, List.append_nil]

end DeclarationGraph

namespace Dto

open DeclarationGraph (ofList WalkOn)

variable {g g' : DeclarationGraph} {d e : Declaration} {t : Dto} {p : Member} {names : List String}
  {ds : List Declaration}

/-- The dto with further names written by hand. -/
def overriding (t : Dto) (names : List String) : Dto :=
  { t with explicitMemberNames := nameSet (t.explicitMemberNames ++ names) }

theorem mem_overriding {name : String} :
    name ∈ (t.overriding names).explicitMemberNames ↔ name ∈ t.explicitMemberNames ∨ name ∈ names := by
  rw [overriding, mem_nameSet, List.mem_append]

theorem isIgnoredAnnotation_walk (h : WalkOn (fun _ => True) g g') (a : Annotation) :
    t.isIgnoredAnnotation g' a = t.isIgnoredAnnotation g a :=
  h.ignores fun _ _ => trivial

theorem project_walk (h : WalkOn (fun _ => True) g g') (p : Member) :
    t.project g' p = t.project g p := by
  rw [project, project, h.propagate fun _ _ _ _ => trivial]

/-- A property is left out for its name, or for what it was left out for before. -/
theorem kept_overriding_iff (h : WalkOn (fun _ => True) g g') :
    (t.overriding names).skipReason? g' p = none ↔ t.skipReason? g p = none ∧ p.name ∉ names := by
  have hannotations : p.annotations.any (Dto.isIgnoredAnnotation (t.overriding names) g') =
      p.annotations.any (t.isIgnoredAnnotation g) :=
    any_congr_of_mem fun a _ => isIgnoredAnnotation_walk h a
  simp only [skipReason?, hannotations, List.contains_iff_mem, mem_overriding]
  by_cases hignored : p.name ∈ t.ignoredProperties
  · simp [overriding, hignored]
  · by_cases hname : p.name ∈ names
    · simp [overriding, hignored, hname]
    · by_cases hexplicit : p.name ∈ t.explicitMemberNames
      · simp [overriding, hignored, hexplicit]
      · simp [overriding, hignored, hname, hexplicit]

theorem properties_overriding (h : WalkOn (fun _ => True) g g') {further : List Member}
    (hentity : t.entityProperties g' = t.entityProperties g ++ further)
    (hfurther : ∀ m ∈ further, m.name ∈ names) :
    (t.overriding names).properties g' =
      (t.properties g).filter fun p => p.member.name ∉ names := by
  -- Where the dto is its own entity the entity receives the properties too, all of them overridden.
  have hnone : further.filter (fun p => ((t.overriding names).skipReason? g' p).isNone) = [] := by
    rw [List.filter_eq_nil_iff]
    intro m hm
    rw [Option.isNone_iff_eq_none, kept_overriding_iff h]
    exact fun hkept => hkept.2 (hfurther m hm)
  have hkept : (t.entityProperties g).filter (fun p => ((t.overriding names).skipReason? g' p).isNone) =
      ((t.entityProperties g).filter fun p => (t.skipReason? g p).isNone).filter
        fun p => p.name ∉ names := by
    rw [List.filter_filter]
    refine List.filter_congr fun p _ => ?_
    rw [Bool.eq_iff_iff]
    simp [kept_overriding_iff h, and_comm]
  have hproject : (t.overriding names).project g' = t.project g := funext fun p => project_walk h p
  calc (t.overriding names).properties g'
      = (((t.entityProperties g ++ further).filter fun p =>
          ((t.overriding names).skipReason? g' p).isNone).map (t.project g)) := by
        rw [properties, hproject, ← hentity]
        rfl
    _ = ((((t.entityProperties g).filter fun p => (t.skipReason? g p).isNone).filter
          fun p => p.name ∉ names).map (t.project g)) := by
        rw [List.filter_append, hnone, List.append_nil, hkept]
    _ = (t.properties g).filter fun p => p.member.name ∉ names := by
        rw [properties, List.filter_map]
        rfl

theorem entityProperties_further (h : ∃ d ∈ ds, d.identity = e.identity) (t : Dto) :
    ∃ further, (∀ m ∈ further, m ∈ e.properties) ∧
      t.entityProperties (ofList (ds ++ [e])) = t.entityProperties (ofList ds) ++ further := by
  rw [entityProperties_eq, entityProperties_eq, DeclarationGraph.resolve?_further h]
  cases (ofList ds).resolve? t.entityType with
  | none => exact ⟨[], by simp, rfl⟩
  | some entity =>
      refine ⟨if e.identity = entity.identity then e.properties else [], ?_, ?_⟩
      · intro m hm
        split at hm
        · exact hm
        · cases hm
      · simp only [Option.map_some, Option.toList_some, List.flatMap_singleton,
          DeclarationGraph.fragments_further, List.flatMap_append]
        split
        · rw [List.flatMap_singleton]
        · rfl

theorem resolve_further (hd : d ∈ ds) (hidentity : e.identity = d.identity)
    (ht : (resolve (ofList ds) d).value? = some t) :
    resolve (ofList (ds ++ [e])) d = .resolved (t.overriding (e.properties.map (·.name))) [] := by
  have hthere : ∃ d ∈ ds, d.identity = e.identity := ⟨d, hd, hidentity.symm⟩
  have hr := resolve_cases (g := ofList ds) hd
  generalize resolve (ofList ds) d = r at hr ht
  cases hr with
  | resolved marker entity hm hx hk =>
      obtain rfl : ofMarked (ofList ds) d marker entity = t := by simpa [Resolution.resolved] using ht
      have hx' : Extensible (ofList (ds ++ [e])) d := by
        obtain ⟨f, hf, hpartial⟩ := hx
        refine ⟨f, ?_, hpartial⟩
        rw [DeclarationGraph.fragments_further]
        exact List.mem_append_left _ hf
      have hk' : knownEntity? (ofList (ds ++ [e])) marker = some entity := by
        rw [← hk, knownEntity?, knownEntity?]
        simp only [DeclarationGraph.resolve?_further hthere]
      have hdto : ofMarked (ofList (ds ++ [e])) d marker entity =
          (ofMarked (ofList ds) d marker entity).overriding (e.properties.map (·.name)) := by
        simp only [ofMarked, overriding, DeclarationGraph.fragments_further, hidentity, if_true,
          List.flatMap_append, List.flatMap_singleton, List.map_append, nameSet_append]
      have hr' := resolve_cases (g := ofList (ds ++ [e])) (List.mem_append_left [e] hd)
      generalize resolve (ofList (ds ++ [e])) d = r' at hr' ⊢
      cases hr' with
      | unmarked hm' => simp [hm] at hm'
      | refused _ _ hclosed => exact absurd hx' hclosed
      | noted marker' _ hm' _ hk'' =>
          obtain rfl : marker = marker' := Option.some.inj (hm.symm.trans hm')
          simp [hk'] at hk''
      | resolved marker' entity' hm' _ hk'' =>
          obtain rfl : marker = marker' := Option.some.inj (hm.symm.trans hm')
          obtain rfl : entity = entity' := Option.some.inj (hk'.symm.trans hk'')
          rw [hdto]
  | _ => cases ht

/-- Where a further fragment of a dto is pushed, with properties written by hand, the dto has their names and
    differs in nothing else, and what is projected onto it is what was, without the properties of these
    names: nothing at all where they are all that was projected. -/
theorem overrides_subtract {s : DeclarationSet} (hs : s.Built)
    (hd : d ∈ s.graph.discover.dtos) (ht : (resolve s.graph d).value? = some t)
    (hidentity : e.identity = d.identity) (hunmarked : e.isMarked = false) :
    (s.push e).graph.discover = s.graph.discover ∧
      resolve (s.push e).graph d = .resolved (t.overriding (e.properties.map (·.name))) [] ∧
      (t.overriding (e.properties.map (·.name))).properties (s.push e).graph =
        (t.properties s.graph).filter (fun p => p.member.name ∉ e.properties.map (·.name)) ∧
      ((∀ p ∈ t.properties s.graph, p.member.name ∈ e.properties.map (·.name)) →
        (t.overriding (e.properties.map (·.name))).properties (s.push e).graph = []) := by
  have hgraph : s.graph = ofList s.toList := hs.indexed.graph_eq
  have hgraph' : (s.push e).graph = ofList (s.toList ++ [e]) := by
    rw [(hs.push e).indexed.graph_eq]
    exact congrArg ofList Array.toList_push
  rw [hgraph] at hd ht
  rw [hgraph, hgraph']
  have hmem : d ∈ s.toList := (DeclarationGraph.marked_of_mem_dtos hd).1
  have hthere : ∃ d ∈ s.toList, d.identity = e.identity := ⟨d, hmem, hidentity.symm⟩
  obtain ⟨further, hfurther, hentity⟩ := entityProperties_further hthere t
  have hnamed : ∀ m ∈ further, m.name ∈ e.properties.map (·.name) :=
    fun m hm => List.mem_map.mpr ⟨m, hfurther m hm, rfl⟩
  have hprojected := properties_overriding (DeclarationGraph.walk_further hthere) hentity hnamed
  refine ⟨DeclarationGraph.discover_further hunmarked _, resolve_further hmem hidentity ht,
    hprojected, fun hall => ?_⟩
  rw [hprojected, List.filter_eq_nil_iff]
  intro p hp
  simpa using hall p hp

def textProperty (name : String) : Member := .bare .property name (.primitive "string")

def profile : Declaration :=
  { Declaration.bare .classDecl "Acme.Profile" "Acme" with
    members := [textProperty "Name", textProperty "Email"] }

def profileDto : Declaration :=
  { Declaration.bare .classDecl "Acme.ProfileDto" "Acme" with
    isPartial := true
    annotations := [⟨"Dto", [.named "Acme.Profile"], [], []⟩]
    members := [textProperty "Note"] }

/-- Another fragment of the dto, with one of the projected properties. -/
def emailByHand : Declaration :=
  { Declaration.bare .classDecl "Acme.ProfileDto" "Acme" with members := [textProperty "Email"] }

def profiles : DeclarationSet := .ofList [profile, profileDto]

def profileDescriptor : Dto :=
  ⟨"Acme.ProfileDto", "ProfileDto", "Acme", .named "Acme.Profile", [], [], ["Note"]⟩

theorem emailByHand_subtracted :
    profiles.Built ∧ profileDto ∈ profiles.graph.discover.dtos ∧
      (resolve profiles.graph profileDto).value? = some profileDescriptor ∧
      emailByHand.identity = profileDto.identity ∧ emailByHand.isMarked = false ∧
      (profileDescriptor.overriding ["Email"]).explicitMemberNames = ["Email", "Note"] ∧
      (profileDescriptor.overriding ["Email"]).properties (profiles.push emailByHand).graph =
        [⟨textProperty "Name", []⟩] := by
  have hbuilt : profiles.Built := .ofList _
  have hgraph : profiles.graph = ofList [profile, profileDto] := hbuilt.indexed.graph_eq
  have hfound : profileDto ∈ profiles.graph.discover.dtos := by
    rw [hgraph]
    exact List.mem_singleton.mpr rfl
  have hresolved : (resolve profiles.graph profileDto).value? = some profileDescriptor := by
    rw [hgraph]
    rfl
  have hidentity : emailByHand.identity = profileDto.identity := rfl
  have hunmarked : emailByHand.isMarked = false := rfl
  have hprojected := (overrides_subtract hbuilt hfound hresolved hidentity hunmarked).2.2.1
  refine ⟨hbuilt, hfound, hresolved, hidentity, hunmarked, rfl, hprojected.trans ?_⟩
  rw [hgraph]
  rfl

end Dto

end EndpointGen
