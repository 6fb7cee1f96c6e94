/- Base types and interfaces on another fragment. Of the fragments of a declaration only the first is asked
   for a base type, and only the one that is discovered for interfaces: a move between fragments is noticed
   exactly where it changes one of these. -/
import EndpointGen.Proofs.Pass.Alike

namespace EndpointGen

open DeclarationGraph (ofList AlikeOn SeenAlike baseType?_ofList)

namespace Facade

/-- The service without regard to interfaces. -/
def statedService? (d : Declaration) (marker : Annotation) : Option TypeExpr :=
  if d.isInterface then some (.named d.identity)
  else marker.genericArg?.or ((marker.named? "Service").bind Argument.type?)

theorem serviceType?_eq (d : Declaration) (marker : Annotation) :
    serviceType? d marker = (statedService? d marker).or d.interfaces.head? := by
  unfold serviceType? statedService?
  split
  · rfl
  · rfl

end Facade

namespace Declaration

def withoutBase (d : Declaration) : Declaration := { d with baseType? := none }

def withoutInterfaces (d : Declaration) : Declaration := { d with interfaces := [] }

/-- The interfaces, where a fragment states any. -/
def interfaces? (d : Declaration) : Option (List TypeExpr) :=
  if d.interfaces = [] then none else some d.interfaces

/-- The declaration without a part, if it is one of the name. -/
def eraseAt (name : String) (erased : Declaration → Declaration) (d : Declaration) : Declaration :=
  if d.identity = name then erased d else d

/-- A facade whose service is its first interface, since neither its kind nor its marker gives another. -/
def ServedByInterfaces (d : Declaration) : Prop :=
  ∃ marker, d.marker? facadeMarker = some marker ∧ Facade.statedService? d marker = none

theorem interfaces_eq_getD (d : Declaration) : d.interfaces = d.interfaces?.getD [] := by
  unfold interfaces?
  split
  · assumption
  · rfl

theorem interfaces?_isSome (d : Declaration) : d.interfaces?.isSome = d.interfaces.head?.isSome := by
  unfold interfaces?
  cases d.interfaces with
  | nil => rfl
  | cons i is => rfl

theorem eq_of_withoutInterfaces {d d' : Declaration} (h : d'.withoutInterfaces = d.withoutInterfaces)
    (his : d'.interfaces = d.interfaces) : d' = d := by
  cases d
  cases d'
  simp_all [withoutInterfaces]

end Declaration

section Erased

variable {κ : Type} {erased : Declaration → Declaration} {k : Declaration → κ} {d d' : Declaration}
  {fs fs' : List Declaration}

theorem eq_of_erased (h : erased d' = erased d) (hk : ∀ d, k (erased d) = k d) : k d' = k d := by
  rw [← hk d', h, hk]

theorem map_eq_of_erased (h : fs'.map erased = fs.map erased) (hk : ∀ d, k (erased d) = k d) :
    fs'.map k = fs.map k :=
  map_eq_of_map_eq h fun _ _ _ _ herased => eq_of_erased herased hk

theorem Declaration.eraseAt_kept (name : String) (erased : Declaration → Declaration)
    (hk : ∀ d, k (erased d) = k d) (d : Declaration) : k (d.eraseAt name erased) = k d := by
  unfold eraseAt
  split
  · exact hk d
  · rfl

end Erased

namespace Facade

variable {g : DeclarationGraph} {config : Config} {d d' : Declaration}

theorem resolve_isSome_of_served (hserved : d.ServedByInterfaces) :
    (resolve g config d).value?.isSome = d.interfaces.head?.isSome := by
  obtain ⟨marker, hm, hstated⟩ := hserved
  have hservice : serviceType? d marker = d.interfaces.head? := by
    rw [serviceType?_eq, hstated, Option.none_or]
  simp only [resolve, hm, hservice]
  cases d.interfaces.head? with
  | none => rfl
  | some service => rfl

theorem resolve_eq_of_stated (h : d'.withoutInterfaces = d.withoutInterfaces)
    (hserved : ¬ d.ServedByInterfaces) :
    resolve g config d' = resolve g config d := by
  have hidentity : d'.identity = d.identity := eq_of_erased h fun _ => rfl
  have hmarker : d'.marker? facadeMarker = d.marker? facadeMarker :=
    eq_of_erased (k := (Declaration.marker? · facadeMarker)) h fun _ => rfl
  have hstated : statedService? d' = statedService? d := eq_of_erased h fun _ => rfl
  have hmarked : ofMarked d' = ofMarked d := eq_of_erased h fun _ => rfl
  have hoperations : resolveOperations g config d' = resolveOperations g config d :=
    eq_of_erased h fun _ => rfl
  unfold resolve
  rw [hmarker]
  cases hm : d.marker? facadeMarker with
  | none => rfl
  | some marker =>
      cases hs : statedService? d marker with
      | none => exact absurd ⟨marker, hm, hs⟩ hserved
      | some service =>
          simp only [serviceType?_eq, hstated, hs, Option.some_or, hidentity, hmarked, hoperations]

end Facade

/-- Taking a part out of a declaration leaves what the other fragments are looked at for. -/
structure Erases (erased : Declaration → Declaration) : Prop where
  identity : ∀ d, (erased d).identity = d.identity
  annotations : ∀ d, (erased d).annotations = d.annotations
  members : ∀ d, (erased d).members = d.members
  isPartial : ∀ d, (erased d).isPartial = d.isPartial

theorem Erases.base : Erases Declaration.withoutBase :=
  ⟨fun _ => rfl, fun _ => rfl, fun _ => rfl, fun _ => rfl⟩

theorem Erases.interfaces : Erases Declaration.withoutInterfaces :=
  ⟨fun _ => rfl, fun _ => rfl, fun _ => rfl, fun _ => rfl⟩

/-- The same fragments, but for the one under the name that states a part: there is exactly one before and
    one after, and both state the same. -/
structure Moves {β : Type} (stated? : Declaration → Option β) (erased : Declaration → Declaration)
    (name : String) (x : β) (ds ds' : List Declaration) : Prop where
  same : ds'.map (Declaration.eraseAt name erased) = ds.map (Declaration.eraseAt name erased)
  stated : ((ofList ds).fragments name).filterMap stated? = [x]
  stated' : ((ofList ds').fragments name).filterMap stated? = [x]

abbrev MovesBase (name base : String) : List Declaration → List Declaration → Prop :=
  Moves Declaration.baseType? Declaration.withoutBase name base

abbrev MovesInterfaces (name : String) (is : List TypeExpr) :
    List Declaration → List Declaration → Prop :=
  Moves Declaration.interfaces? Declaration.withoutInterfaces name is

theorem DeclarationGraph.SeenAlike.of_erased {erased : Declaration → Declaration}
    {fs fs' : List Declaration} (he : Erases erased) (h : fs'.map erased = fs.map erased)
    (hbase : fs'.head?.bind (·.baseType?) = fs.head?.bind (·.baseType?)) : SeenAlike fs fs' := by
  refine ⟨?_, hbase, ?_, ?_⟩
  · have hfirst := congrArg List.head? (map_eq_of_erased h he.identity)
    rwa [List.head?_map, List.head?_map] at hfirst
  · have hall := congrArg List.flatten (map_eq_of_erased h he.members)
    rwa [← List.flatMap_def, ← List.flatMap_def] at hall
  · have hall := congrArg (List.any · id) (map_eq_of_erased h he.isPartial)
    simpa only [List.any_map, Function.id_comp] using hall

namespace Moves

section Parts

variable {β : Type} {stated? : Declaration → Option β} {erased : Declaration → Declaration}
  {name : String} {x : β} {ds ds' : List Declaration}

theorem fragments_erased (h : Moves stated? erased name x ds ds') (he : Erases erased) (other : String) :
    ((ofList ds').fragments other).map (Declaration.eraseAt name erased) =
      ((ofList ds).fragments other).map (Declaration.eraseAt name erased) := by
  have hfiltered := congrArg (List.filter fun d => d.identity == other) h.same
  simp only [List.filter_map, Function.comp_def,
    Declaration.eraseAt_kept name erased he.identity] at hfiltered
  exact hfiltered

theorem fragments_self (h : Moves stated? erased name x ds ds') (he : Erases erased) :
    ((ofList ds').fragments name).map erased = ((ofList ds).fragments name).map erased := by
  have herased : ∀ es : List Declaration,
      ((ofList es).fragments name).map (Declaration.eraseAt name erased) =
        ((ofList es).fragments name).map erased :=
    fun es => List.map_congr_left fun d hd => if_pos (DeclarationGraph.mem_fragments.mp hd).2
  rw [← herased, ← herased, h.fragments_erased he]

theorem fragments_other (h : Moves stated? erased name x ds ds') (he : Erases erased) {other : String}
    (hother : other ≠ name) : (ofList ds').fragments other = (ofList ds).fragments other := by
  have hkept : ∀ es : List Declaration,
      ((ofList es).fragments other).map (Declaration.eraseAt name erased) =
        (ofList es).fragments other := by
    intro es
    have hid : ∀ d ∈ (ofList es).fragments other, d.eraseAt name erased = id d := by
      intro d hd
      obtain ⟨-, rfl⟩ := DeclarationGraph.mem_fragments.mp hd
      exact if_neg hother
    rw [List.map_congr_left hid, List.map_id]
  rw [← hkept ds', ← hkept ds, h.fragments_erased he]

theorem baseType?_other (h : Moves stated? erased name x ds ds') (he : Erases erased) {other : String}
    (hother : other ≠ name) : (ofList ds').baseType? other = (ofList ds).baseType? other := by
  rw [baseType?_ofList, baseType?_ofList, h.fragments_other he hother]

theorem alike (h : Moves stated? erased name x ds ds') (he : Erases erased)
    (hbase : (ofList ds').baseType? name = (ofList ds).baseType? name) :
    AlikeOn (fun _ => True) (ofList ds) (ofList ds') := by
  refine .ofList fun other => ?_
  by_cases hother : other = name
  · subst hother
    rw [baseType?_ofList, baseType?_ofList] at hbase
    exact .of_erased he (h.fragments_self he) hbase
  · rw [h.fragments_other he hother]
    exact .refl _

theorem discover_erased (h : Moves stated? erased name x ds ds') (he : Erases erased) :
    (ofList ds').discover.map (Declaration.eraseAt name erased) =
      (ofList ds).discover.map (Declaration.eraseAt name erased) := by
  have hmap := DeclarationGraph.discover_map (f := Declaration.eraseAt name erased)
    (Declaration.eraseAt_kept name erased he.identity) (Declaration.eraseAt_kept name erased he.annotations)
  rw [← hmap, h.same, hmap]

/-- A fragment of the name states nothing, or what is moved. -/
theorem stated_cases {fs : List Declaration} {d : Declaration} (h : fs.filterMap stated? = [x])
    (hd : d ∈ fs) : stated? d = none ∨ stated? d = some x := by
  cases hstated : stated? d with
  | none => exact .inl rfl
  | some y =>
      have hmem : y ∈ fs.filterMap stated? := List.mem_filterMap.mpr ⟨d, hd, hstated⟩
      rw [h, List.mem_singleton] at hmem
      exact .inr (congrArg some hmem)

end Parts

section Base

variable {name base : String} {ds ds' : List Declaration}

theorem baseType?_cases (h : ((ofList ds).fragments name).filterMap (·.baseType?) = [base]) :
    (ofList ds).baseType? name = none ∨ (ofList ds).baseType? name = some base := by
  rw [baseType?_ofList]
  cases hfirst : ((ofList ds).fragments name).head? with
  | none => exact .inl rfl
  | some d => exact stated_cases h (List.mem_of_head? hfirst)

theorem derives_congr_iff (h : MovesBase name base ds ds') :
    (∀ start ancestor, (ofList ds').derives start ancestor = (ofList ds).derives start ancestor) ↔
      (ofList ds').baseType? name = (ofList ds).baseType? name ∨ base = name := by
  have hcases := baseType?_cases h.stated
  have hcases' := baseType?_cases h.stated'
  constructor
  · intro hsame
    -- A base type of only one of the two first fragments is a derivation in only one of the graphs.
    rcases hcases with hnone | hsome
    · rcases hcases' with hnone' | hsome'
      · exact .inl (hnone'.trans hnone.symm)
      · have hderives := DeclarationGraph.derives_of_base hsome'
        rw [hsame] at hderives
        exact .inr (DeclarationGraph.eq_of_derives_baseless hnone hderives).symm
    · rcases hcases' with hnone' | hsome'
      · have hderives := DeclarationGraph.derives_of_base hsome
        rw [← hsame] at hderives
        exact .inr (DeclarationGraph.eq_of_derives_baseless hnone' hderives).symm
      · exact .inl (hsome'.trans hsome.symm)
  · rintro (hbase | rfl) start ancestor
    · exact (h.alike .base hbase).derives ancestor trivial
    · exact DeclarationGraph.derives_congr_of_end (fun _ => h.baseType?_other .base) hcases hcases' start
        ancestor

theorem same_pass_of_base (h : MovesBase name base ds ds')
    (hbase : (ofList ds').baseType? name = (ofList ds).baseType? name) (config : Config) :
    (ofList ds').resolveAll config = (ofList ds).resolveAll config ∧
      (ofList ds').run config = (ofList ds).run config := by
  have hheader := Declaration.eraseAt_kept (k := Declaration.header) name .withoutBase fun _ => rfl
  refine (h.alike .base hbase).same_pass_of_headers ?_ config
  rw [← DeclarationGraph.discover_header, ← DeclarationGraph.discover_header,
    map_eq_of_erased h.same hheader]

end Base

section Interfaces

variable {name : String} {is : List TypeExpr} {ds ds' : List Declaration}

theorem alike_of_interfaces (h : MovesInterfaces name is ds ds') :
    AlikeOn (fun _ => True) (ofList ds) (ofList ds') := by
  refine h.alike .interfaces ?_
  have hbases := congrArg (fun bases => bases.head?.bind id)
    (map_eq_of_erased (k := Declaration.baseType?) (h.fragments_self .interfaces) fun _ => rfl)
  simp only [List.head?_map, Option.bind_map] at hbases
  rw [baseType?_ofList, baseType?_ofList]
  exact hbases

theorem found_alike (h : MovesInterfaces name is ds ds') {d : Declaration}
    (hd : d ∈ (ofList ds).discover.facades) : ∃ d' ∈ (ofList ds').discover.facades,
      d'.eraseAt name .withoutInterfaces = d.eraseAt name .withoutInterfaces := by
  obtain ⟨hfacades, -, -⟩ := Discovery.mk.inj (h.discover_erased .interfaces)
  have hmem : d.eraseAt name .withoutInterfaces ∈
      (ofList ds).discover.facades.map (Declaration.eraseAt name .withoutInterfaces) :=
    List.mem_map_of_mem hd
  rw [← hfacades] at hmem
  exact List.mem_map.mp hmem

theorem same_but_interfaces {d d' : Declaration}
    (h : d'.eraseAt name .withoutInterfaces = d.eraseAt name .withoutInterfaces) :
    d'.withoutInterfaces = d.withoutInterfaces :=
  eq_of_erased h (Declaration.eraseAt_kept name Declaration.withoutInterfaces fun _ => rfl)

theorem eq_of_other {d d' : Declaration} (hname : d.identity ≠ name)
    (h : d'.eraseAt name .withoutInterfaces = d.eraseAt name .withoutInterfaces) : d' = d := by
  have hidentity : d'.identity = d.identity :=
    eq_of_erased h (Declaration.eraseAt_kept name Declaration.withoutInterfaces fun _ => rfl)
  have hname' : d'.identity ≠ name := fun heq => hname (hidentity.symm.trans heq)
  unfold Declaration.eraseAt at h
  rwa [if_neg hname, if_neg hname'] at h

/-- What a fragment states of the list that is moved is all of it or nothing. -/
theorem interfaces_eq_of_isSome (h : MovesInterfaces name is ds ds') {d d' : Declaration}
    (hd : d ∈ (ofList ds).fragments name) (hd' : d' ∈ (ofList ds').fragments name)
    (hsome : d'.interfaces.head?.isSome = d.interfaces.head?.isSome) :
    d'.interfaces = d.interfaces := by
  have hstated := stated_cases h.stated hd
  have hstated' := stated_cases h.stated' hd'
  rw [← d'.interfaces?_isSome, ← d.interfaces?_isSome] at hsome
  have hsame : d'.interfaces? = d.interfaces? := by
    rcases hstated with hnone | hall
    · have hnone' : d'.interfaces? = none := by simpa [hnone] using hsome
      rw [hnone, hnone']
    · have hthere : d'.interfaces? ≠ none := by
        intro hnone'
        simp [hall, hnone'] at hsome
      rw [hall, hstated'.resolve_left hthere]
  rw [d'.interfaces_eq_getD, d.interfaces_eq_getD, hsame]

theorem found_of_resolveAll_eq (h : MovesInterfaces name is ds ds') {config : Config}
    (hsame : (ofList ds').resolveAll config = (ofList ds).resolveAll config) {d : Declaration}
    (hd : d ∈ (ofList ds).discover.facades) (hserved : d.ServedByInterfaces) :
    d ∈ (ofList ds').discover.facades := by
  obtain ⟨d', hd', herased⟩ := h.found_alike hd
  have hrest := same_but_interfaces herased
  have hidentity : d'.identity = d.identity := eq_of_erased hrest fun _ => rfl
  by_cases hname : d.identity = name
  · -- Both fragments are served by their interfaces: they resolve alike with the whole list or without.
    have hserved' : d'.ServedByInterfaces = d.ServedByInterfaces := eq_of_erased hrest fun _ => rfl
    have hvalue : (Facade.resolve (ofList ds') config d').value? =
        (Facade.resolve (ofList ds) config d).value? := by
      refine Option.ext fun f => ?_
      rw [DeclarationGraph.facade_resolved_iff hd', DeclarationGraph.facade_resolved_iff hd, hsame,
        hidentity]
    have hsome := congrArg Option.isSome hvalue
    rw [Facade.resolve_isSome_of_served (hserved'.mpr hserved),
      Facade.resolve_isSome_of_served hserved] at hsome
    have hinterfaces := h.interfaces_eq_of_isSome
      (DeclarationGraph.mem_fragments.mpr ⟨(DeclarationGraph.marked_of_mem_facades hd).1, hname⟩)
      (DeclarationGraph.mem_fragments.mpr
        ⟨(DeclarationGraph.marked_of_mem_facades hd').1, hidentity.trans hname⟩) hsome
    rwa [← Declaration.eq_of_withoutInterfaces hrest hinterfaces]
  · rwa [← eq_of_other hname herased]

theorem same_pass_of_found (h : MovesInterfaces name is ds ds')
    (hfound : ∀ d ∈ (ofList ds).discover.facades, d.ServedByInterfaces →
      d ∈ (ofList ds').discover.facades) (config : Config) :
    (ofList ds').resolveAll config = (ofList ds).resolveAll config ∧
      (ofList ds').run config = (ofList ds).run config := by
  have halike := h.alike_of_interfaces
  refine halike.propertiesAlike.same_pass (k := Declaration.eraseAt name .withoutInterfaces)
    (Declaration.eraseAt_kept name .withoutInterfaces fun _ => rfl) (h.discover_erased .interfaces) ?_ ?_
  · intro d' hd' d hd herased
    rw [halike.facade]
    have hrest := same_but_interfaces herased
    by_cases hserved : d.ServedByInterfaces
    · have hd'' := hfound d hd hserved
      rw [DeclarationGraph.eq_of_discovered (List.mem_append_left _ hd'') (List.mem_append_left _ hd')
        (eq_of_erased hrest fun _ => rfl)]
    · exact Facade.resolve_eq_of_stated hrest hserved
  · intro d' d herased
    exact eq_of_erased (same_but_interfaces herased) fun _ => rfl

end Interfaces

end Moves

namespace DeclarationGraph

/-- Base types and interfaces do not count from every fragment. A base type that is moved is noticed by a
    derivation exactly where the first fragment loses or gains it, and otherwise by nothing; interfaces that
    are moved are noticed by no derivation, and by resolution exactly where a facade that is served by its
    interfaces is no longer found with them. -/
theorem moved_noticed_iff (name : String) (ds ds' : List Declaration) (config : Config) :
    (∀ base, MovesBase name base ds ds' →
      ((∀ start ancestor, (ofList ds').derives start ancestor = (ofList ds).derives start ancestor) ↔
        (ofList ds').baseType? name = (ofList ds).baseType? name ∨ base = name) ∧
      ((ofList ds').baseType? name = (ofList ds).baseType? name →
        (ofList ds').resolveAll config = (ofList ds).resolveAll config ∧
          (ofList ds').run config = (ofList ds).run config)) ∧
    (∀ is, MovesInterfaces name is ds ds' →
      (∀ start ancestor, (ofList ds').derives start ancestor = (ofList ds).derives start ancestor) ∧
      ((ofList ds').resolveAll config = (ofList ds).resolveAll config ↔
        ∀ d ∈ (ofList ds).discover.facades, d.ServedByInterfaces →
          d ∈ (ofList ds').discover.facades) ∧
      ((ofList ds').resolveAll config = (ofList ds).resolveAll config →
        (ofList ds').run config = (ofList ds).run config)) := by
  constructor
  · intro base h
    exact ⟨h.derives_congr_iff, fun hbase => h.same_pass_of_base hbase config⟩
  · intro is h
    refine ⟨fun start ancestor => h.alike_of_interfaces.derives ancestor trivial, ?_, fun hsame => ?_⟩
    · exact ⟨fun hsame d hd => h.found_of_resolveAll_eq hsame hd,
        fun hfound => (h.same_pass_of_found hfound config).1⟩
    · exact (h.same_pass_of_found (fun d hd => h.found_of_resolveAll_eq hsame hd) config).2

/-- A class facade in two fragments, of which the second is not marked. -/
def usersFragments (marker : Annotation) (is is' : List TypeExpr) : List Declaration :=
  [{ Declaration.bare .classDecl "Acme.Users" "Acme" with
      isPartial := true
      interfaces := is
      annotations := [marker] },
    { Declaration.bare .classDecl "Acme.Users" "Acme" with isPartial := true, interfaces := is' }]

def plainUsers : List TypeExpr → List TypeExpr → List Declaration := usersFragments (.bare "HttpFacade")

def namedUsers : List TypeExpr → List TypeExpr → List Declaration :=
  usersFragments ⟨"HttpFacade", [.named "Acme.IUsers"], [], []⟩

/-- Where the marker names the service the interfaces may stand anywhere. -/
theorem namedUsers_moved :
    MovesInterfaces "Acme.Users" [.named "Acme.IAudited"]
        (namedUsers [.named "Acme.IAudited"] []) (namedUsers [] [.named "Acme.IAudited"]) ∧
      (ofList (namedUsers [] [.named "Acme.IAudited"])).run .default =
        (ofList (namedUsers [.named "Acme.IAudited"] [])).run .default := by
  have hmoves : MovesInterfaces "Acme.Users" [.named "Acme.IAudited"]
      (namedUsers [.named "Acme.IAudited"] []) (namedUsers [] [.named "Acme.IAudited"]) :=
    ⟨rfl, rfl, rfl⟩
  obtain ⟨-, hresolved, hrun⟩ := (moved_noticed_iff "Acme.Users" _ _ .default).2 _ hmoves
  refine ⟨hmoves, hrun (hresolved.mpr ?_)⟩
  intro d hd hserved
  obtain rfl := List.mem_singleton.mp hd
  obtain ⟨marker, hm, hnone⟩ := hserved
  obtain rfl := Option.some.inj hm
  cases hnone

def piiFragments (base base' : Option String) : List Declaration :=
  [Declaration.bare .classDecl "Acme.Sensitive" "Acme",
    { Declaration.bare .classDecl "Acme.Pii" "Acme" with isPartial := true, baseType? := base },
    { Declaration.bare .classDecl "Acme.Pii" "Acme" with isPartial := true, baseType? := base' }]

/-- An attribute no longer derives from its base type, and a facade is dropped without a word. -/
theorem moved_noticed :
    (MovesBase "Acme.Pii" "Acme.Sensitive" (piiFragments (some "Acme.Sensitive") none)
        (piiFragments none (some "Acme.Sensitive")) ∧
      (ofList (piiFragments (some "Acme.Sensitive") none)).derives "Acme.Pii" "Acme.Sensitive" = true ∧
      (ofList (piiFragments none (some "Acme.Sensitive"))).derives "Acme.Pii" "Acme.Sensitive" = false) ∧
    (MovesInterfaces "Acme.Users" [.named "Acme.IUsers"]
        (plainUsers [.named "Acme.IUsers"] []) (plainUsers [] [.named "Acme.IUsers"]) ∧
      ((ofList (plainUsers [.named "Acme.IUsers"] [])).run .default).keys = ["UsersController.g.cs"] ∧
      ((ofList (plainUsers [] [.named "Acme.IUsers"])).run .default).keys = [] ∧
      ((ofList (plainUsers [] [.named "Acme.IUsers"])).run .default).diagnostics = []) := by
  have hbase : MovesBase "Acme.Pii" "Acme.Sensitive" (piiFragments (some "Acme.Sensitive") none)
      (piiFragments none (some "Acme.Sensitive")) := ⟨rfl, rfl, rfl⟩
  have hinterfaces : MovesInterfaces "Acme.Users" [.named "Acme.IUsers"]
      (plainUsers [.named "Acme.IUsers"] []) (plainUsers [] [.named "Acme.IUsers"]) := ⟨rfl, rfl, rfl⟩
  exact ⟨⟨hbase, rfl, rfl⟩, hinterfaces, rfl, rfl, rfl⟩

end DeclarationGraph

end EndpointGen
