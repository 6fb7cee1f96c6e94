/- How an operation splits the parameters of its method: those that the route binds, and the free ones
   that a request record carries. -/
import EndpointGen.Facade.Controller
import EndpointGen.Proofs.Facade.Resolution

namespace EndpointGen

open Text

namespace Route

variable {r : Route} {p : Parameter}

/-- A parameter with the binding that the route gives it. -/
def bound (r : Route) (p : Parameter) : BoundParameter :=
  ⟨p.name, p.type, if p.name ∈ r.names then .route else .free⟩

theorem bind_eq (r : Route) (ps : List Parameter) : r.bind ps = ps.map r.bound := by
  refine List.map_congr_left fun p _ => ?_
  simp only [bound, binds, List.contains_iff_mem]

theorem isRouteBound_bound : (r.bound p).isRouteBound = decide (p.name ∈ r.names) := by
  by_cases h : p.name ∈ r.names
  · simp [bound, BoundParameter.isRouteBound, h]
  · simp [bound, BoundParameter.isRouteBound, h]

theorem filter_bind_bound (r : Route) (ps : List Parameter) :
    (r.bind ps).filter (·.isRouteBound) = (ps.filter fun p => p.name ∈ r.names).map r.bound := by
  rw [bind_eq, List.filter_map]
  congr 1
  exact List.filter_congr fun p _ => isRouteBound_bound

theorem filter_bind_free (r : Route) (ps : List Parameter) :
    (r.bind ps).filter (!·.isRouteBound) = (ps.filter fun p => p.name ∉ r.names).map r.bound := by
  rw [bind_eq, List.filter_map]
  congr 1
  refine List.filter_congr fun p _ => ?_
  rw [Function.comp_apply, isRouteBound_bound, decide_not]

end Route

namespace RequestEnvelope

variable {base : String} {ps : List BoundParameter} {e : RequestEnvelope}

theorem fields_of_ofParameters? (h : ofParameters? base ps = some e) :
    e.fields = (ps.filter (!·.isRouteBound)).map fieldOf := by
  unfold ofParameters? at h
  split at h
  · cases h
  · next free rest hfree =>
      obtain rfl := Option.some.inj h
      rw [hfree]

theorem ofParameters?_eq_none_iff :
    ofParameters? base ps = none ↔ ps.filter (!·.isRouteBound) = [] := by
  unfold ofParameters?
  split
  · next hnone => simp [hnone]
  · next hfree => simp [hfree]

end RequestEnvelope

namespace Operation

/-- An operation whose parameters are those of a method, bound by its own route, and whose record is
    built from them. -/
structure TakesParameters (op : Operation) (ps : List Parameter) : Prop where
  parameters : op.parameters = op.route.bind ps
  envelope : ∃ base, op.envelope? =
    if op.verb.isGet then none else RequestEnvelope.ofParameters? base op.parameters

variable {g : DeclarationGraph} {config : Config} {owner : Declaration} {m : Member}
  {op : Operation} {ps : List Parameter} {e : RequestEnvelope}

theorem takesParameters_of_resolve (h : (resolve g config owner m).value? = some op) :
    op.TakesParameters m.parameters := by
  rw [resolve_eq] at h
  split at h
  · next verb marker _ =>
      obtain rfl : ofMarked g config m verb marker = op := by simpa [Resolution.resolved] using h
      exact ⟨rfl, _, rfl⟩
  · cases h

namespace TakesParameters

theorem envelope_of_get (h : op.TakesParameters ps) (hget : op.verb.isGet = true) :
    op.envelope? = none := by
  obtain ⟨base, he⟩ := h.envelope
  rw [he, if_pos hget]

theorem envelope_of_body (h : op.TakesParameters ps) (hbody : op.verb.isGet = false) :
    ∃ base, op.envelope? = RequestEnvelope.ofParameters? base op.parameters := by
  obtain ⟨base, he⟩ := h.envelope
  exact ⟨base, by rw [he, hbody]; rfl⟩

theorem fields (h : op.TakesParameters ps) (he : op.envelope? = some e) :
    e.fields = (op.parameters.filter (!·.isRouteBound)).map RequestEnvelope.fieldOf := by
  cases hget : op.verb.isGet with
  | true =>
      rw [h.envelope_of_get hget] at he
      cases he
  | false =>
      obtain ⟨base, hbase⟩ := h.envelope_of_body hget
      exact RequestEnvelope.fields_of_ofParameters? (hbase ▸ he)

/-- A record has a field for each parameter that the route does not name, in order. -/
theorem fields_eq (h : op.TakesParameters ps) (he : op.envelope? = some e) :
    e.fields = (ps.filter fun p => p.name ∉ op.route.names).map fun p =>
      ⟨capitalize p.name, p.name, p.type⟩ := by
  rw [h.fields he, h.parameters, Route.filter_bind_free, List.map_map]
  rfl

/-- On a verb with a body there is a record exactly where some parameter is free. -/
theorem envelope_isSome_iff (h : op.TakesParameters ps) (hbody : op.verb.isGet = false) :
    op.envelope?.isSome = true ↔ ∃ p ∈ ps, p.name ∉ op.route.names := by
  obtain ⟨base, hbase⟩ := h.envelope_of_body hbody
  rw [← Option.ne_none_iff_isSome, hbase, ne_eq, RequestEnvelope.ofParameters?_eq_none_iff,
    h.parameters, Route.filter_bind_free]
  simp [List.filter_eq_nil_iff]

end TakesParameters

end Operation

end EndpointGen
