/- Trimming the names behind default routes and records. It reaches the text of a default route and the name
   of a request record, and nothing else of an operation: a name without a brace binds no parameter, so that
   the parameters are split the same whether the name is trimmed or not. -/
import EndpointGen.Proofs.Facade.Templates

namespace EndpointGen

open Text

/-- The diagnostics say the same, but that one has a name inside its text where the other has another. -/
inductive Diagnostic.SameUpTo (name name' : String) : Diagnostic → Diagnostic → Prop
  | same (d : Diagnostic) : SameUpTo name name' d d
  | named (d : Diagnostic) (before after : String) : SameUpTo name name'
      { d with message := before ++ name ++ after } { d with message := before ++ name' ++ after }

namespace Route

variable {r r' : Route}

/-- Every name that a template binds stands in braces. -/
theorem names_of_braceless {template : String} (h : '\x7b' ∉ template.toList) :
    (parse template).names = [] := by
  apply List.eq_nil_iff_forall_not_mem.mpr
  intro name hname
  obtain ⟨-, -, s, hsegment, hbraces⟩ := (mem_names_parse_iff template name).mp hname
  obtain ⟨-, before, after, hsplit, -, -⟩ := hsegment
  apply h
  rw [hsplit]
  apply List.mem_append_left
  apply List.mem_append_right
  cases hbraces with
  | plain => exact List.mem_cons_self
  | constrained c => exact List.mem_cons_self

theorem bind_congr (h : r.names = r'.names) (ps : List Parameter) : r.bind ps = r'.bind ps := by
  rw [bind_eq, bind_eq]
  apply List.map_congr_left
  intro p _
  rw [bound, bound, h]

theorem unmatchedDiagnostics_of_nameless (h : r.names = []) (ps : List Parameter)
    (place member : String) : r.unmatchedDiagnostics ps place member = [] := by
  rw [unmatchedDiagnostics, unmatched, h]
  rfl

end Route

namespace RequestEnvelope

variable {base : String} {ps : List BoundParameter} {e : RequestEnvelope}

theorem typeName_of_ofParameters? (h : ofParameters? base ps = some e) :
    e.typeName = base ++ "Request" := by
  unfold ofParameters? at h
  split at h
  · cases h
  · obtain rfl := Option.some.inj h
    rfl

/-- Whether there is a record, and with which fields, does not depend on its name. -/
theorem map_fields_ofParameters? (base base' : String) (ps : List BoundParameter) :
    (ofParameters? base ps).map (·.fields) = (ofParameters? base' ps).map (·.fields) := by
  unfold ofParameters?
  split
  · rfl
  · rfl

theorem fieldDiagnostic_sameUpTo (place name name' : String) (f : EnvelopeField) :
    (fieldDiagnostic place name f).SameUpTo name name' (fieldDiagnostic place name' f) :=
  .named (fieldDiagnostic place name f)
    ("Parameter '" ++ f.sourceName ++ "' maps to field '" ++ f.name ++ "' of '")
    "', which another parameter already uses"

end RequestEnvelope

namespace Operation

/-- The name without one trailing `Async`, which stays where nothing else would be left. -/
inductive StemOf : String → String → Prop
  | suffixed {stem : String} (hne : stem ≠ "") : StemOf (stem ++ "Async") stem
  | whole {name : String} (h : ∀ stem, name = stem ++ "Async" → stem = "") : StemOf name name

namespace StemOf

variable {name stem stem' : String}

theorem eq_of_suffixed (h : StemOf (stem' ++ "Async") stem) (hne : stem' ≠ "") : stem = stem' := by
  generalize hname : stem' ++ "Async" = name at h
  cases h with
  | suffixed _ =>
      have hlist := congrArg String.toList hname
      rw [String.toList_append, String.toList_append] at hlist
      exact (String.toList_inj.mp (List.append_cancel_right hlist)).symm
  | whole h => exact absurd (h stem' hname.symm) hne

theorem eq_self (h : StemOf name stem) (hwhole : ∀ s, name = s ++ "Async" → s = "") :
    stem = name := by
  cases h with
  | suffixed hne => exact absurd (hwhole stem rfl) hne
  | whole _ => rfl

theorem subset (h : StemOf name stem) : stem.toList ⊆ name.toList := by
  cases h with
  | suffixed hne =>
      rw [String.toList_append]
      exact List.subset_append_left _ _
  | whole h => exact List.Subset.refl _

end StemOf

theorem stemOf_baseName {config : Config} (h : config.trimAsyncSuffix = true) (name : String) :
    StemOf name (baseName config name) := by
  rw [baseName, if_pos h]
  cases hdrop : dropSuffix? asyncSuffix name with
  | none =>
      apply StemOf.whole
      intro stem hname
      cases hdrop.symm.trans (dropSuffix?_eq_some_iff.mpr hname)
  | some stem =>
      obtain rfl : name = stem ++ "Async" := dropSuffix?_eq_some_iff.mp hdrop
      by_cases hempty : stem = ""
      · subst hempty
        apply StemOf.whole
        intro stem hstem
        exact Option.some.inj ((dropSuffix?_eq_some_iff.mpr hstem).symm.trans hdrop)
      · rw [Option.filter_some, if_pos (decide_eq_true hempty)]
        exact .suffixed hempty

/-- The parameter that an action declares for the record of its operation, where there is one. -/
def recordParameter (op : Operation) : List String :=
  op.envelope?.toList.map fun e => declared "FromBody" e.typeName envelopeParameter

/-- Two operations of a method that agree but for the name behind their defaults. -/
structure SameButFor (marker : Annotation) (base base' : String) (op op' : Operation) : Prop where
  sourceMember : op.sourceMember = op'.sourceMember
  verb : op.verb = op'.verb
  methodName : op.methodName = op'.methodName
  returnType : op.returnType = op'.returnType
  parameters : op.parameters = op'.parameters
  annotations : op.annotations = op'.annotations
  given : (explicitRoute? marker).isSome = true → op.route = op'.route
  derived : explicitRoute? marker = none → op.route = ⟨base, []⟩ ∧ op'.route = ⟨base', []⟩
  fields : op.envelope?.map (·.fields) = op'.envelope?.map (·.fields)
  typeName : ∀ e, op.envelope? = some e → e.typeName = base ++ "Request"
  typeName' : ∀ e, op'.envelope? = some e → e.typeName = base' ++ "Request"
  callArguments : op.callArguments = op'.callArguments
  actionParameters : ∃ others, op.actionParameters = others ++ op.recordParameter ∧
    op'.actionParameters = others ++ op'.recordParameter

section Settings

variable (g : DeclarationGraph) {c c' : Config} {m : Member} (verb : HttpVerb) (marker : Annotation)

theorem route_of_given (c c' : Config) (h : (explicitRoute? marker).isSome = true) :
    (ofMarked g c m verb marker).route = (ofMarked g c' m verb marker).route := by
  obtain ⟨template, htemplate⟩ := Option.isSome_iff_exists.mp h
  simp only [ofMarked, htemplate, Option.getD_some]

theorem route_of_derived (h : explicitRoute? marker = none)
    (hbase : '\x7b' ∉ (baseName c m.name).toList) :
    (ofMarked g c m verb marker).route = ⟨baseName c m.name, []⟩ := by
  have hnames := Route.names_of_braceless hbase
  calc (ofMarked g c m verb marker).route
      = Route.parse (baseName c m.name) := by simp only [ofMarked, h, Option.getD_none]
    _ = ⟨baseName c m.name, (Route.parse (baseName c m.name)).names⟩ := rfl
    _ = ⟨baseName c m.name, []⟩ := by rw [hnames]

section Braceless

variable (hbase : '\x7b' ∉ (baseName c m.name).toList) (hbase' : '\x7b' ∉ (baseName c' m.name).toList)
include hbase hbase'

theorem parameters_ofMarked :
    (ofMarked g c m verb marker).parameters = (ofMarked g c' m verb marker).parameters := by
  apply Route.bind_congr
  cases h : explicitRoute? marker with
  | some template => rw [Option.getD_some, Option.getD_some]
  | none =>
      rw [Option.getD_none, Option.getD_none, Route.names_of_braceless hbase,
        Route.names_of_braceless hbase']

theorem fields_ofMarked :
    (ofMarked g c m verb marker).envelope?.map (·.fields) =
      (ofMarked g c' m verb marker).envelope?.map (·.fields) := by
  have hparameters := parameters_ofMarked g verb marker hbase hbase'
  simp only [ofMarked] at hparameters ⊢
  cases verb.isGet with
  | true => rw [if_pos rfl, if_pos rfl]
  | false =>
      rw [hparameters]
      exact RequestEnvelope.map_fields_ofParameters? _ _ _

end Braceless

end Settings

theorem typeName_ofMarked {g : DeclarationGraph} {c : Config} {m : Member} {verb : HttpVerb}
    {marker : Annotation} {e : RequestEnvelope}
    (h : (ofMarked g c m verb marker).envelope? = some e) :
    e.typeName = baseName c m.name ++ "Request" := by
  simp only [ofMarked] at h
  split at h
  · cases h
  · exact RequestEnvelope.typeName_of_ofParameters? h

/-- The field that carries a parameter is found by the fields alone. -/
theorem callArguments_congr {op op' : Operation} (hparameters : op.parameters = op'.parameters)
    (hfields : op.envelope?.map (·.fields) = op'.envelope?.map (·.fields)) :
    op.callArguments = op'.callArguments := by
  have hcarrier : ∀ (op : Operation) (name : String), op.carrier? name =
      (op.envelope?.map (·.fields)).bind fun fs => fs.find? fun f => f.sourceName == name := by
    intro op name
    rw [carrier?, Option.bind_map]
    rfl
  rw [callArguments, callArguments, hparameters]
  apply List.map_congr_left
  intro p _
  rw [callArgument, callArgument, hcarrier, hcarrier, hfields]

/-- The parameters that an action declares besides the record. -/
def plainParameters (op : Operation) : List String :=
  if op.verb.isGet then
    op.parameters.map fun p => declared (queryOrRoute p.binding) p.type.render p.name
  else (op.parameters.filter (·.isRouteBound)).map fun p => declared "FromRoute" p.type.render p.name

theorem plainParameters_congr {op op' : Operation} (hverb : op.verb = op'.verb)
    (hparameters : op.parameters = op'.parameters) : op.plainParameters = op'.plainParameters := by
  rw [plainParameters, plainParameters, hverb, hparameters]

theorem actionParameters_eq_append {op : Operation}
    (henvelope : op.verb.isGet = true → op.envelope? = none) :
    op.actionParameters = op.plainParameters ++ op.recordParameter := by
  rw [actionParameters, plainParameters, recordParameter]
  cases hget : op.verb.isGet with
  | true =>
      rw [henvelope hget]
      exact (List.append_nil _).symm
  | false =>
      cases op.envelope? with
      | none => rfl
      | some e => rfl

/-- Settings reach an operation through the name behind its defaults, and under names without a brace that
    name is all that they change. -/
theorem sameButFor_ofMarked (g : DeclarationGraph) (c c' : Config) {m : Member} (verb : HttpVerb)
    (marker : Annotation) (hbase : '\x7b' ∉ (baseName c m.name).toList)
    (hbase' : '\x7b' ∉ (baseName c' m.name).toList) :
    SameButFor marker (baseName c m.name) (baseName c' m.name) (ofMarked g c m verb marker)
      (ofMarked g c' m verb marker) := by
  have hparameters := parameters_ofMarked g verb marker hbase hbase'
  have hfields := fields_ofMarked g verb marker hbase hbase'
  have hget : ∀ c : Config, (ofMarked g c m verb marker).verb.isGet = true →
      (ofMarked g c m verb marker).envelope? = none := fun _ hverb => if_pos hverb
  refine ⟨rfl, rfl, rfl, rfl, hparameters, rfl, route_of_given g verb marker c c', ?_, hfields,
    fun _ => typeName_ofMarked, fun _ => typeName_ofMarked, callArguments_congr hparameters hfields,
    (ofMarked g c m verb marker).plainParameters, actionParameters_eq_append (hget c), ?_⟩
  · intro h
    exact ⟨route_of_derived g verb marker h hbase, route_of_derived g verb marker h hbase'⟩
  · have hplain : (ofMarked g c m verb marker).plainParameters =
        (ofMarked g c' m verb marker).plainParameters := plainParameters_congr rfl hparameters
    rw [hplain]
    exact actionParameters_eq_append (hget c')

namespace SameButFor

variable {marker : Annotation} {base base' : String} {op op' : Operation}

theorem unmatchedDiagnostics (h : SameButFor marker base base' op op') (ps : List Parameter)
    (place member : String) :
    op.route.unmatchedDiagnostics ps place member = op'.route.unmatchedDiagnostics ps place member := by
  cases hroute : explicitRoute? marker with
  | some template => rw [h.given (by rw [hroute]; rfl)]
  | none =>
      obtain ⟨hbase, hbase'⟩ := h.derived hroute
      rw [hbase, hbase', Route.unmatchedDiagnostics_of_nameless rfl,
        Route.unmatchedDiagnostics_of_nameless rfl]

theorem fieldWarnings (h : SameButFor marker base base' op op') (place : String) :
    List.Forall₂ (Diagnostic.SameUpTo (base ++ "Request") (base' ++ "Request"))
      (op.fieldWarnings place) (op'.fieldWarnings place) := by
  have hfields := h.fields
  have hname := h.typeName
  have hname' := h.typeName'
  unfold Operation.fieldWarnings
  cases he : op.envelope? with
  | none =>
      cases he' : op'.envelope? with
      | none => exact .nil
      | some e' => simp [he, he'] at hfields
  | some e =>
      cases he' : op'.envelope? with
      | none => simp [he, he'] at hfields
      | some e' =>
          have hsame : e.fields = e'.fields := by simpa [he, he'] using hfields
          simp only [Option.toList_some, List.flatMap_singleton, RequestEnvelope.fieldDiagnostics]
          rw [hname e he, hname' e' he', hsame]
          apply List.forall₂_map_left_iff.mpr
          apply List.forall₂_map_right_iff.mpr
          apply List.forall₂_same.mpr
          intro f _
          exact RequestEnvelope.fieldDiagnostic_sameUpTo place _ _ f

theorem warnings (h : SameButFor marker base base' op op') (owner : Declaration) (m : Member) :
    List.Forall₂ (Diagnostic.SameUpTo (base ++ "Request") (base' ++ "Request"))
      (op.warnings owner m) (op'.warnings owner m) := by
  rw [warnings_eq, warnings_eq, h.unmatchedDiagnostics]
  apply List.rel_append
  · exact List.forall₂_same.mpr fun d _ => .same d
  · exact h.fieldWarnings (location owner m)

end SameButFor

theorem ofMarked_congr (g : DeclarationGraph) {c c' : Config} {m : Member} (verb : HttpVerb)
    (marker : Annotation) (h : baseName c m.name = baseName c' m.name) :
    ofMarked g c m verb marker = ofMarked g c' m verb marker := by
  rw [ofMarked, ofMarked, h]

/-- Of a method whose name has no opening brace, trimming changes the text of a default route and the name of
    the record, each by one trailing `Async` of the method name. Where that is no part of the name, or all of
    it, trimming changes nothing. -/
theorem trimming_changes_names (g : DeclarationGraph) (config : Config) (owner : Declaration)
    {m : Member} (h : m.isEndpoint = true) (hname : '\x7b' ∉ m.name.toList) :
    (∃ verb marker stem trimmed whole, m.verbMarker? = some (verb, marker) ∧ StemOf m.name stem ∧
      (resolve g { config with trimAsyncSuffix := true } owner m).value? = some trimmed ∧
      (resolve g { config with trimAsyncSuffix := false } owner m).value? = some whole ∧
      SameButFor marker stem m.name trimmed whole ∧
      List.Forall₂ (Diagnostic.SameUpTo (stem ++ "Request") (m.name ++ "Request"))
        (resolve g { config with trimAsyncSuffix := true } owner m).diagnostics
        (resolve g { config with trimAsyncSuffix := false } owner m).diagnostics) ∧
    ((∀ s, m.name = s ++ "Async" → s = "") →
      resolve g { config with trimAsyncSuffix := true } owner m =
        resolve g { config with trimAsyncSuffix := false } owner m) := by
  obtain ⟨⟨verb, marker⟩, hmarked⟩ := Member.exists_marker_of_endpoint h
  have hmethod : m.isMethod = true := (Bool.and_eq_true_iff.mp h).1
  generalize hon : { config with trimAsyncSuffix := true } = on
  generalize hoff : { config with trimAsyncSuffix := false } = off
  have hresolve : ∀ c : Config, resolve g c owner m = .resolved (ofMarked g c m verb marker)
      ((ofMarked g c m verb marker).warnings owner m) := by
    intro c
    rw [resolve_eq, if_pos hmethod, hmarked]
  have hwhole : baseName off m.name = m.name := by rw [← hoff]; rfl
  have hstem : StemOf m.name (baseName on m.name) := stemOf_baseName (by rw [← hon]) m.name
  rw [hresolve, hresolve]
  constructor
  · have hsame : SameButFor marker (baseName on m.name) (baseName off m.name)
        (ofMarked g on m verb marker) (ofMarked g off m verb marker) := by
      apply sameButFor_ofMarked g on off verb marker
      · intro hbrace
        exact hname (hstem.subset hbrace)
      · rwa [hwhole]
    rw [hwhole] at hsame
    exact ⟨verb, marker, _, _, _, hmarked, hstem, rfl, rfl, hsame, hsame.warnings owner m⟩
  · intro hlacks
    have hbase : baseName on m.name = baseName off m.name := by
      rw [hwhole, hstem.eq_self hlacks]
    rw [ofMarked_congr g verb marker hbase]

/-- A method without a route of its own, and with two parameters that fall on one field of its record. -/
def uploadMember : Member :=
  { Member.bare .method "UploadAsync" (.primitive "void") with
    parameters := [⟨"file", .primitive "string"⟩, ⟨"File", .primitive "string"⟩]
    annotations := [.bare "Post"] }

def uploadOwner : Declaration := .bare .interfaceDecl "Acme.IFiles" "Acme"

theorem uploadAsync_trimmed :
    uploadMember.isEndpoint = true ∧ '\x7b' ∉ uploadMember.name.toList ∧
      ∃ trimmed whole,
        (resolve (.ofList []) ⟨"out", true, [], []⟩ uploadOwner uploadMember).value? = some trimmed ∧
        (resolve (.ofList []) ⟨"out", false, [], []⟩ uploadOwner uploadMember).value? = some whole ∧
        SameButFor (.bare "Post") "Upload" "UploadAsync" trimmed whole ∧
        List.Forall₂ (Diagnostic.SameUpTo "UploadRequest" "UploadAsyncRequest")
          (resolve (.ofList []) ⟨"out", true, [], []⟩ uploadOwner uploadMember).diagnostics
          (resolve (.ofList []) ⟨"out", false, [], []⟩ uploadOwner uploadMember).diagnostics := by
  have hendpoint : uploadMember.isEndpoint = true := by decide
  have hbrace : '\x7b' ∉ uploadMember.name.toList := by decide
  obtain ⟨⟨verb, marker, stem, trimmed, whole, hmarked, hstem, htrimmed, hwhole, hsame, hsaid⟩, -⟩ :=
    trimming_changes_names (.ofList []) ⟨"out", false, [], []⟩ uploadOwner hendpoint hbrace
  obtain ⟨rfl, rfl⟩ := Prod.mk.inj (Option.some.inj hmarked)
  obtain rfl : stem = "Upload" := StemOf.eq_of_suffixed hstem (by decide)
  exact ⟨hendpoint, hbrace, trimmed, whole, htrimmed, hwhole, hsame, hsaid⟩

end Operation

end EndpointGen
