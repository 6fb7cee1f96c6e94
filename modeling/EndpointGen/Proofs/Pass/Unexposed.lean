/- Methods that are not exposed: a method without a verb marker, or of a declaration without a facade
   marker, leaves no trace in what a graph resolves and runs to. What a facade exposes are its endpoints. -/
import Mathlib.Logic.Relation
import EndpointGen.Proofs.Discovery.FirstMarked
import EndpointGen.Proofs.Facade.Endpoints
import EndpointGen.Proofs.Pass.Alike

namespace EndpointGen

/-- A fragment of the identity carries a facade marker. -/
def Served (ds : List Declaration) (name : String) : Prop :=
  ∃ d ∈ ds, d.identity = name ∧ d.Carries facadeMarker

instance (ds : List Declaration) (name : String) : Decidable (Served ds name) :=
  inferInstanceAs (Decidable (∃ d ∈ ds, d.identity = name ∧ d.Carries facadeMarker))

/-- A method without a verb marker, or of an identity that is not served. -/
def Hidden (ds : List Declaration) (name : String) (m : Member) : Prop :=
  m.isMethod = true ∧
    ((∀ a ∈ m.annotations, HttpVerb.ofKind? a.kind = none) ∨ ¬ Served ds name)

/-- One hidden member is put in, taken out, or altered to another hidden one. -/
inductive EditsMembers (hidden : Member → Prop) : List Member → List Member → Prop
  | insert (before after : List Member) (m : Member) : hidden m →
      EditsMembers hidden (before ++ after) (before ++ m :: after)
  | delete (before after : List Member) (m : Member) : hidden m →
      EditsMembers hidden (before ++ m :: after) (before ++ after)
  | alter (before after : List Member) (m m' : Member) : hidden m → hidden m' →
      EditsMembers hidden (before ++ m :: after) (before ++ m' :: after)

/-- One hidden method of one fragment is edited. -/
inductive EditsHidden : List Declaration → List Declaration → Prop
  | edit (before after : List Declaration) (d : Declaration) (ms : List Member) :
      EditsMembers (Hidden (before ++ d :: after) d.identity) d.members ms →
      EditsHidden (before ++ d :: after) (before ++ { d with members := ms } :: after)

theorem EditsMembers.filter_eq {hidden : Member → Prop} {keep : Member → Bool}
    (hkeep : ∀ m, hidden m → keep m = false) {ms ms' : List Member}
    (h : EditsMembers hidden ms ms') : ms'.filter keep = ms.filter keep := by
  cases h with
  | insert before after m hm => simp [hkeep m hm]
  | delete before after m hm => simp [hkeep m hm]
  | alter before after m m' hm hm' => simp [hkeep m hm, hkeep m' hm']

namespace Declaration

def withoutMembers (d : Declaration) : Declaration := { d with members := [] }

/-- What resolution reads of a declaration: of its members the properties, and the endpoints where it is
    served. -/
def exposed (served : Bool) (d : Declaration) : Declaration :=
  { d with members := d.members.filter fun m => m.isProperty || (served && m.isEndpoint) }

variable {d : Declaration} {served : Bool}

theorem properties_exposed (served : Bool) (d : Declaration) :
    (d.exposed served).properties = d.properties := by
  simp only [properties, exposed, List.filter_filter]
  apply List.filter_congr
  intro m _
  cases m.isProperty <;> rfl

theorem endpoints_exposed (h : served = true) :
    (d.exposed served).members.filter (·.isEndpoint) = d.members.filter (·.isEndpoint) := by
  simp only [exposed, List.filter_filter, h]
  apply List.filter_congr
  intro m _
  cases m.isEndpoint <;> simp

end Declaration

/-- What resolution reads of the fragments. -/
def exposedOf (ds : List Declaration) : List Declaration :=
  ds.map fun d => d.exposed (Served ds d.identity)

section Exposed

variable {ds ds' : List Declaration} {name : String}

theorem served_congr (h : ds'.map Declaration.withoutMembers = ds.map Declaration.withoutMembers) :
    Served ds' name ↔ Served ds name := by
  have hmap : ∀ es : List Declaration,
      Served (es.map Declaration.withoutMembers) name ↔ Served es name := by
    intro es
    constructor
    · rintro ⟨_, hmem, hname, hcarries⟩
      obtain ⟨d, hd, rfl⟩ := List.mem_map.mp hmem
      exact ⟨d, hd, hname, hcarries⟩
    · rintro ⟨d, hd, hname, hcarries⟩
      exact ⟨_, List.mem_map_of_mem hd, hname, hcarries⟩
  rw [← hmap ds', h, hmap]

theorem Hidden.not_exposed {m : Member} (h : Hidden ds name m) :
    (m.isProperty || (decide (Served ds name) && m.isEndpoint)) = false := by
  obtain ⟨hmethod, hhidden⟩ := h
  have hproperty : m.isProperty = false := by
    simp only [Member.isMethod, beq_iff_eq] at hmethod
    simp [Member.isProperty, hmethod]
  rw [hproperty, Bool.false_or]
  rcases hhidden with hunmarked | hunserved
  · have hendpoint : m.isEndpoint = false := by
      simpa [Member.isEndpoint, hmethod] using hunmarked
    rw [hendpoint, Bool.and_false]
  · rw [decide_eq_false hunserved, Bool.false_and]

theorem EditsHidden.exposedOf_eq (h : EditsHidden ds ds') : exposedOf ds' = exposedOf ds := by
  cases h with
  | edit before after d ms hmembers =>
      have hserved : Served (before ++ { d with members := ms } :: after) =
          Served (before ++ d :: after) := by
        funext name
        apply propext
        apply served_congr
        simp [Declaration.withoutMembers]
      have hkept := hmembers.filter_eq fun m hm => hm.not_exposed
      simp only [exposedOf, List.map_append, List.map_cons, hserved, Declaration.exposed, hkept]

theorem exposedOf_eq_of_edits (h : Relation.ReflTransGen EditsHidden ds ds') :
    exposedOf ds' = exposedOf ds := by
  -- Along the edits: none of them touches what is read.
  induction h with
  | refl => rfl
  | tail _ hstep ih => exact hstep.exposedOf_eq.trans ih

theorem map_exposedOf {α : Type} {f : Declaration → α}
    (hf : ∀ served d, f (Declaration.exposed served d) = f d) (ds : List Declaration) :
    (exposedOf ds).map f = ds.map f := by
  rw [exposedOf, List.map_map]
  apply List.map_congr_left
  intro d _
  exact hf _ d

open DeclarationGraph (ofList)

theorem fragments_exposedOf (ds : List Declaration) (name : String) :
    (ofList (exposedOf ds)).fragments name =
      ((ofList ds).fragments name).map fun d => d.exposed (Served ds d.identity) := by
  simp only [DeclarationGraph.fragments, ofList, exposedOf, List.filter_map]
  rfl

theorem properties_exposedOf (ds : List Declaration) (name : String) :
    ((ofList (exposedOf ds)).fragments name).flatMap (·.properties) =
      ((ofList ds).fragments name).flatMap (·.properties) := by
  rw [fragments_exposedOf, List.flatMap_map]
  apply List.flatMap_congr
  intro d _
  exact Declaration.properties_exposed _ d

theorem isPartial_exposedOf (ds : List Declaration) (name : String) :
    ((ofList (exposedOf ds)).fragments name).any (·.isPartial) =
      ((ofList ds).fragments name).any (·.isPartial) := by
  rw [fragments_exposedOf, List.any_map]
  rfl

theorem endpoints_exposedOf (h : Served ds name) :
    (ofList (exposedOf ds)).endpoints name = (ofList ds).endpoints name := by
  rw [DeclarationGraph.endpoints, fragments_exposedOf, List.flatMap_map]
  apply List.flatMap_congr
  intro d hd
  obtain ⟨-, rfl⟩ := DeclarationGraph.mem_fragments.mp hd
  exact Declaration.endpoints_exposed (decide_eq_true h)

end Exposed

namespace DeclarationGraph

/-- Hidden methods of the graph are edited, any number of times. What it finds by a name alone differs in
    its members at most. -/
structure Edits (g g' : DeclarationGraph) : Prop where
  declarations : Relation.ReflTransGen EditsHidden g.declarations g'.declarations
  find? : ∀ name, (g'.find? name).map Declaration.withoutMembers =
    (g.find? name).map Declaration.withoutMembers

variable {g g' : DeclarationGraph}

namespace Edits

theorem ofList {ds ds' : List Declaration} (h : Relation.ReflTransGen EditsHidden ds ds') :
    Edits (ofList ds) (ofList ds') := by
  refine ⟨h, ?_⟩
  intro name
  have hfind : ∀ es : List Declaration, ((DeclarationGraph.ofList es).find? name).map
      Declaration.withoutMembers =
        (es.map Declaration.withoutMembers).find? fun d => d.identity == name := by
    intro es
    rw [List.find?_map]
    rfl
  rw [hfind, hfind, ← map_exposedOf (fun _ _ => rfl) ds', exposedOf_eq_of_edits h,
    map_exposedOf fun _ _ => rfl]

theorem map_declarations (h : Edits g g') {α : Type} {f : Declaration → α}
    (hf : ∀ served d, f (Declaration.exposed served d) = f d) :
    g'.declarations.map f = g.declarations.map f := by
  rw [← map_exposedOf hf g'.declarations, exposedOf_eq_of_edits h.declarations, map_exposedOf hf]

theorem propertiesAlike (h : Edits g g') : PropertiesAlikeOn (fun _ => True) g g' := by
  have hexposed := exposedOf_eq_of_edits h.declarations
  have hfound : ∀ {α : Type} (f : Declaration → α), (∀ d, f d.withoutMembers = f d) →
      ∀ name, (g'.find? name).map f = (g.find? name).map f := by
    intro α f hf name
    have hmapped := congrArg (Option.map f) (h.find? name)
    simpa only [Option.map_map, Function.comp_def, hf] using hmapped
  refine ⟨⟨?_, fun _ _ _ _ => trivial⟩, ?_, ?_, ?_, fun _ _ _ _ => trivial,
    fun _ _ _ _ _ _ _ _ => trivial⟩
  · intro name _
    have hbase := congrArg (fun base => base.bind id)
      (hfound Declaration.baseType? (fun _ => rfl) name)
    simp only [Option.bind_map] at hbase
    exact hbase
  · intro name _
    exact hfound Declaration.identity (fun _ => rfl) name
  · intro name _
    have hproperties := properties_exposedOf g'.declarations name
    rw [hexposed, properties_exposedOf] at hproperties
    exact hproperties.symm
  · intro name _
    have hpartial := isPartial_exposedOf g'.declarations name
    rw [hexposed, isPartial_exposedOf] at hpartial
    exact hpartial.symm

theorem endpoints (h : Edits g g') {name : String} (hserved : Served g.declarations name) :
    g'.endpoints name = g.endpoints name := by
  have hshape := h.map_declarations (f := Declaration.withoutMembers) fun _ _ => rfl
  have hendpoints := endpoints_exposedOf ((served_congr hshape).mpr hserved)
  rw [exposedOf_eq_of_edits h.declarations, endpoints_exposedOf hserved] at hendpoints
  exact hendpoints.symm

theorem discover_header (h : Edits g g') :
    g'.discover.map Declaration.header = g.discover.map Declaration.header := by
  have hheaders := h.map_declarations (f := Declaration.header) fun _ _ => rfl
  have hdiscover := DeclarationGraph.discover_header g'.declarations
  rw [hheaders, DeclarationGraph.discover_header] at hdiscover
  exact hdiscover.symm

theorem same_pass (h : Edits g g') (config : Config) :
    g'.resolveAll config = g.resolveAll config ∧ g'.run config = g.run config := by
  apply h.propertiesAlike.same_pass_of_served h.discover_header
  intro d hd
  obtain ⟨hmem, hmarker⟩ := marked_of_mem_facades hd
  have hserved : Served g.declarations d.identity :=
    ⟨d, hmem, rfl, Declaration.marker?_isSome_iff.mp hmarker⟩
  exact Facade.resolve_eq_of_endpoints (h.endpoints hserved)

end Edits

theorem forwards_of_mem_facades {config : Config} {f : Facade}
    (hf : f ∈ (g.resolveAll config).facades) :
    List.Forall₂ Operation.Forwards f.operations (g.endpoints f.source) := by
  obtain ⟨r, hr, hvalue⟩ := List.mem_filterMap.mp hf
  obtain ⟨d, -, rfl⟩ := List.mem_map.mp hr
  rw [Facade.operations_of_resolve hvalue, Facade.source_of_resolve hvalue]
  exact Facade.forwards_operationsOf g config d

/-- Nothing is exposed by itself: edits of methods without a verb marker, or of declarations without a
    facade marker, change no descriptor, unit or diagnostic, and the operations of a facade are those of its
    endpoints, one for each, in order. -/
theorem only_endpoints_read (h : Edits g g') (config : Config) :
    g'.resolveAll config = g.resolveAll config ∧ g'.run config = g.run config ∧
      ∀ f ∈ (g.resolveAll config).facades,
        List.Forall₂ Operation.Forwards f.operations (g.endpoints f.source) := by
  obtain ⟨hresolved, hrun⟩ := h.same_pass config
  refine ⟨hresolved, hrun, ?_⟩
  intro f hf
  exact forwards_of_mem_facades hf

def listMethod : Member :=
  { Member.bare .method "List" (.primitive "string") with annotations := [.bare "Get"] }

def auditMethod : Member := .bare .method "Audit" (.primitive "void")

def itemsFacade (ms : List Member) : Declaration :=
  { Declaration.bare .interfaceDecl "Acme.IItems" "Acme" with
    annotations := [.bare "HttpFacade"]
    members := ms }

def itemClass (ms : List Member) : Declaration :=
  { Declaration.bare .classDecl "Acme.Item" "Acme" with members := ms }

/-- A method without a marker comes first in a facade, and a class that is no facade loses one with a
    marker. -/
theorem audited_items_read :
    Edits (ofList [itemClass [listMethod], itemsFacade [listMethod]])
        (ofList [itemClass [], itemsFacade [auditMethod, listMethod]]) ∧
      ((ofList [itemClass [], itemsFacade [auditMethod, listMethod]]).run .default).keys =
        ["ItemsController.g.cs"] ∧
      (ofList [itemClass [], itemsFacade [auditMethod, listMethod]]).run .default =
        (ofList [itemClass [listMethod], itemsFacade [listMethod]]).run .default := by
  have hinsert : EditsHidden [itemClass [listMethod], itemsFacade [listMethod]]
      [itemClass [listMethod], itemsFacade [auditMethod, listMethod]] := by
    refine .edit [itemClass [listMethod]] [] (itemsFacade [listMethod]) _ (.insert [] _ auditMethod ?_)
    exact ⟨rfl, .inl fun a ha => absurd ha List.not_mem_nil⟩
  have hdelete : EditsHidden [itemClass [listMethod], itemsFacade [auditMethod, listMethod]]
      [itemClass [], itemsFacade [auditMethod, listMethod]] := by
    refine .edit [] [itemsFacade [auditMethod, listMethod]] (itemClass [listMethod]) _
      (.delete [] [] listMethod ?_)
    exact ⟨rfl, .inr (by decide)⟩
  have hedits : Edits (ofList [itemClass [listMethod], itemsFacade [listMethod]])
      (ofList [itemClass [], itemsFacade [auditMethod, listMethod]]) :=
    Edits.ofList ((Relation.ReflTransGen.single hinsert).tail hdelete)
  exact ⟨hedits, rfl, (only_endpoints_read hedits .default).2.1⟩

end DeclarationGraph

end EndpointGen
