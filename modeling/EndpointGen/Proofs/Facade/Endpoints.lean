/- Endpoints: of the members of a facade only the methods with a verb marker are read, and each of them
   gives one operation, in order. -/
import Mathlib.Data.List.Forall2
import EndpointGen.Proofs.Facade.Resolution

namespace EndpointGen

namespace Member

/-- The member is a method with an annotation that names a verb. -/
def isEndpoint (m : Member) : Bool :=
  m.isMethod && m.annotations.any fun a => (HttpVerb.ofKind? a.kind).isSome

theorem verbMarker?_eq_none_iff {m : Member} :
    m.verbMarker? = none ↔ ∀ a ∈ m.annotations, HttpVerb.ofKind? a.kind = none := by
  rw [verbMarker?, List.findSome?_eq_none_iff]
  apply forall₂_congr
  intro a _
  exact Option.map_eq_none_iff

theorem verbMarker?_of_not_endpoint {m : Member} (hm : m.isMethod = true)
    (h : m.isEndpoint = false) : m.verbMarker? = none := by
  rw [isEndpoint, hm, Bool.true_and, List.any_eq_false] at h
  apply verbMarker?_eq_none_iff.mpr
  intro a ha
  exact Option.not_isSome_iff_eq_none.mp (h a ha)

theorem exists_marker_of_endpoint {m : Member} (h : m.isEndpoint = true) :
    ∃ marked, m.verbMarker? = some marked := by
  rw [isEndpoint, Bool.and_eq_true, List.any_eq_true] at h
  obtain ⟨-, a, ha, hverb⟩ := h
  apply Option.ne_none_iff_exists'.mp
  intro hnone
  rw [verbMarker?_eq_none_iff.mp hnone a ha] at hverb
  cases hverb

end Member

/-- The methods from which the operations of the fragments of an identity are made, in host order. -/
def DeclarationGraph.endpoints (g : DeclarationGraph) (name : String) : List Member :=
  (g.fragments name).flatMap fun d => d.members.filter (·.isEndpoint)

namespace Operation

variable (g : DeclarationGraph) (config : Config) (owner : Declaration) {m : Member}

/-- The operation passes on what the method has, under the verb that the first annotation to name one
    names. -/
structure Forwards (op : Operation) (m : Member) : Prop where
  sourceMember : op.sourceMember = m.name
  returnType : op.returnType = m.type
  parameters : op.parameters.map (fun p => (p.name, p.type)) =
    m.parameters.map fun p => (p.name, p.type)
  verb : ∃ before a after, m.annotations = before ++ a :: after ∧
    (∀ b ∈ before, HttpVerb.ofKind? b.kind = none) ∧ HttpVerb.ofKind? a.kind = some op.verb

theorem resolve_of_not_endpoint (hm : m.isMethod = true) (h : m.isEndpoint = false) :
    resolve g config owner m = .skipped := by
  rw [resolve_eq, if_pos hm, Member.verbMarker?_of_not_endpoint hm h]

theorem forwards_ofMarked {verb : HttpVerb} {marker : Annotation}
    (h : m.verbMarker? = some (verb, marker)) :
    (ofMarked g config m verb marker).Forwards m := by
  obtain ⟨before, a, after, hsplit, hverb, hbefore⟩ := List.findSome?_eq_some_iff.mp h
  obtain ⟨v, hv, hpair⟩ := Option.map_eq_some_iff.mp hverb
  obtain ⟨rfl, rfl⟩ := Prod.mk.inj hpair
  refine ⟨rfl, rfl, ?_, before, a, after, hsplit, ?_, hv⟩
  · simp [ofMarked, Route.bind]
  · intro b hb
    exact Option.map_eq_none_iff.mp (hbefore b hb)

theorem resolve_of_endpoint (h : m.isEndpoint = true) :
    ∃ op, (resolve g config owner m).value? = some op ∧ op.Forwards m := by
  obtain ⟨⟨verb, marker⟩, hmarked⟩ := Member.exists_marker_of_endpoint h
  have hm : m.isMethod = true := (Bool.and_eq_true_iff.mp h).1
  refine ⟨ofMarked g config m verb marker, ?_, forwards_ofMarked g config hmarked⟩
  rw [resolve_eq, if_pos hm, hmarked]
  rfl

theorem forall₂_resolved {ms : List Member} (h : ∀ m ∈ ms, m.isEndpoint = true) :
    List.Forall₂ (fun op m => (resolve g config owner m).value? = some op ∧ op.Forwards m)
      (ms.filterMap fun m => (resolve g config owner m).value?) ms := by
  induction ms with
  | nil => exact List.Forall₂.nil
  | cons m ms ih =>
      obtain ⟨op, hop, hforwards⟩ := resolve_of_endpoint g config owner (h m List.mem_cons_self)
      have hrest := ih fun m' hm' => h m' (List.mem_cons_of_mem m hm')
      rw [List.filterMap_cons_some (f := fun m => (resolve g config owner m).value?) hop]
      exact List.Forall₂.cons ⟨hop, hforwards⟩ hrest

end Operation

namespace Facade

variable {g g' : DeclarationGraph} {config : Config} {d : Declaration}

theorem filter_methods_fragments (g : DeclarationGraph) (name : String) :
    ((g.fragments name).flatMap (·.methods)).filter (·.isEndpoint) = g.endpoints name := by
  rw [List.filter_flatMap]
  apply List.flatMap_congr
  intro fragment _
  rw [Declaration.methods, List.filter_filter]
  apply List.filter_congr
  intro m _
  simp only [Member.isEndpoint]
  cases m.isMethod <;> simp

/-- A method that is no endpoint resolves to nothing, with nothing to report or log. -/
theorem flatMap_resolveOperations {β : Type} {F : Resolution Operation → List β}
    (hskipped : F .skipped = []) (g : DeclarationGraph) (config : Config) (d : Declaration) :
    (resolveOperations g config d).flatMap F =
      (g.endpoints d.identity).flatMap fun m => F (Operation.resolve g config d m) := by
  have hmethods : ∀ m ∈ (g.fragments d.identity).flatMap (·.methods), m.isMethod = true := by
    intro m hm
    obtain ⟨fragment, -, hm⟩ := List.mem_flatMap.mp hm
    exact (List.mem_filter.mp hm).2
  rw [resolveOperations_eq, List.flatMap_map, ← filter_methods_fragments]
  generalize (g.fragments d.identity).flatMap (·.methods) = ms at hmethods
  induction ms with
  | nil => rfl
  | cons m ms ih =>
      have hrest := ih fun m' hm' => hmethods m' (List.mem_cons_of_mem m hm')
      cases hendpoint : m.isEndpoint with
      | true => rw [List.filter_cons_of_pos hendpoint, List.flatMap_cons, List.flatMap_cons, hrest]
      | false =>
          have hm := Operation.resolve_of_not_endpoint g config d (hmethods m List.mem_cons_self)
            hendpoint
          rw [List.filter_cons_of_neg (by simp [hendpoint]), List.flatMap_cons, hm, hskipped, hrest,
            List.nil_append]

theorem operationsOf_eq (g : DeclarationGraph) (config : Config) (d : Declaration) :
    operationsOf g config d =
      (g.endpoints d.identity).filterMap fun m => (Operation.resolve g config d m).value? := by
  have hflat := flatMap_resolveOperations (F := fun r => r.value?.toList) rfl g config d
  rwa [← List.filterMap_eq_flatMap_toList, ← List.filterMap_eq_flatMap_toList] at hflat

theorem isEndpoint_of_mem_endpoints {name : String} : ∀ m ∈ g.endpoints name, m.isEndpoint = true := by
  intro m hm
  obtain ⟨fragment, -, hm⟩ := List.mem_flatMap.mp hm
  exact (List.mem_filter.mp hm).2

/-- The operations of a facade are those of its endpoints, one for one. -/
theorem resolved_operationsOf (g : DeclarationGraph) (config : Config) (d : Declaration) :
    List.Forall₂ (fun op m => (Operation.resolve g config d m).value? = some op ∧ op.Forwards m)
      (operationsOf g config d) (g.endpoints d.identity) := by
  rw [operationsOf_eq]
  exact Operation.forall₂_resolved g config d isEndpoint_of_mem_endpoints

theorem forwards_operationsOf (g : DeclarationGraph) (config : Config) (d : Declaration) :
    List.Forall₂ Operation.Forwards (operationsOf g config d) (g.endpoints d.identity) :=
  (resolved_operationsOf g config d).imp fun _ _ h => h.2

/-- Two graphs with the same endpoints of a declaration resolve it to the same facade. -/
theorem resolve_eq_of_endpoints (h : g'.endpoints d.identity = g.endpoints d.identity) :
    resolve g' config d = resolve g config d := by
  have hsame : ∀ {β : Type} {F : Resolution Operation → List β}, F .skipped = [] →
      (resolveOperations g' config d).flatMap F = (resolveOperations g config d).flatMap F := by
    intro β F hskipped
    rw [flatMap_resolveOperations hskipped, flatMap_resolveOperations hskipped, h]
    apply List.flatMap_congr
    intro m _
    rw [Operation.resolve_eq_of_graphs]
  have hvalues : (resolveOperations g' config d).filterMap (·.value?) =
      (resolveOperations g config d).filterMap (·.value?) := by
    rw [List.filterMap_eq_flatMap_toList, List.filterMap_eq_flatMap_toList]
    exact hsame rfl
  have hdiagnostics : (resolveOperations g' config d).flatMap (·.diagnostics) =
      (resolveOperations g config d).flatMap (·.diagnostics) := hsame rfl
  have hlog : (resolveOperations g' config d).flatMap (·.log) =
      (resolveOperations g config d).flatMap (·.log) := hsame rfl
  simp only [resolve, hvalues, hdiagnostics, hlog]

theorem resolve_eq_of_members
    (h : (g'.fragments d.identity).flatMap (·.members) =
      (g.fragments d.identity).flatMap (·.members)) :
    resolve g' config d = resolve g config d := by
  apply resolve_eq_of_endpoints
  rw [DeclarationGraph.endpoints, DeclarationGraph.endpoints, ← List.filter_flatMap, h,
    List.filter_flatMap]

theorem operations_of_resolve {f : Facade} (h : (resolve g config d).value? = some f) :
    f.operations = operationsOf g config d := by
  have hr := resolve_cases g config d
  generalize resolve g config d = r at h hr
  cases hr with
  | served marker service ds log _ _ _ =>
      obtain rfl := Option.some.inj h
      rfl
  | _ => cases h

end Facade

end EndpointGen
