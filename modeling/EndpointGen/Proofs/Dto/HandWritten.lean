/- Names written by hand. Of the members of a dto only the properties are kept out of the projection, so that
   a projected property repeats a name written by hand exactly where only a method has it. -/
import EndpointGen.Proofs.Discovery
import EndpointGen.Proofs.Dto.IgnoredAttributes
import EndpointGen.Proofs.Text.OrderedSet

namespace EndpointGen

theorem Member.isMethod_of_not_isProperty {m : Member} (h : ¬ m.isProperty = true) :
    m.isMethod = true := by
  rw [isProperty, beq_iff_eq] at h
  rw [isMethod, beq_iff_eq]
  cases hkind : m.kind with
  | method => rfl
  | property => exact absurd hkind h

namespace Dto

variable {g : DeclarationGraph} {d : Declaration} {t : Dto} {m : Member} {name : String}

def handWritten (t : Dto) (g : DeclarationGraph) : List Member :=
  (g.fragments t.source).flatMap (·.members)

/-- A projected property and a member written by hand have the name. -/
def Repeats (t : Dto) (g : DeclarationGraph) (name : String) : Prop :=
  (∃ p ∈ t.properties g, p.member.name = name) ∧ ∃ m ∈ t.handWritten g, m.name = name

/-- The rules of the marker and of records leave the property in. -/
structure Selects (t : Dto) (g : DeclarationGraph) (m : Member) : Prop where
  name : m.name ∉ t.ignoredProperties
  machinery : m.isEqualityMachinery = false
  annotations : ∀ a ∈ m.annotations, g.ignores t.ignoredAttributeTypes a.kind = false

/-- The names that are kept out are those of the properties written by hand. -/
def KnowsProperties (t : Dto) (g : DeclarationGraph) : Prop :=
  ∀ name, name ∈ t.explicitMemberNames ↔
    ∃ m ∈ t.handWritten g, m.isProperty = true ∧ m.name = name

theorem knowsProperties_of_resolve (hd : d ∈ g.declarations)
    (ht : (resolve g d).value? = some t) : t.KnowsProperties g := by
  have hr := resolve_cases hd
  generalize resolve g d = r at hr ht
  cases hr with
  | resolved marker entity _ _ _ =>
      obtain rfl : ofMarked g d marker entity = t := by simpa [Resolution.resolved] using ht
      intro name
      simp only [ofMarked, mem_nameSet, handWritten, Declaration.properties, List.mem_map,
        List.mem_flatMap, List.mem_filter]
      constructor
      · rintro ⟨m, ⟨f, hf, hm, hproperty⟩, rfl⟩
        exact ⟨m, ⟨f, hf, hm⟩, hproperty, rfl⟩
      · rintro ⟨m, ⟨f, hf, hm⟩, hproperty, rfl⟩
        exact ⟨m, ⟨f, hf, hm, hproperty⟩, rfl⟩
  | _ => cases ht

theorem exists_projected_iff :
    (∃ p ∈ t.properties g, p.member.name = name) ↔
      (∃ m ∈ t.entityProperties g, m.name = name ∧ t.Selects g m) ∧
        name ∉ t.explicitMemberNames := by
  rw [exists_mem_properties_iff (P := fun m => m.name = name)]
  constructor
  · rintro ⟨m, hm, ⟨hignored, hexplicit, hmachinery⟩, hunmet, rfl⟩
    refine ⟨⟨m, hm, rfl, hignored, hmachinery, ?_⟩, hexplicit⟩
    intro a ha
    exact DeclarationGraph.ignores_eq_false_iff.mpr (hunmet a ha)
  · rintro ⟨⟨m, hm, rfl, hselects⟩, hexplicit⟩
    refine ⟨m, hm, ⟨hselects.name, hexplicit, hselects.machinery⟩, ?_, rfl⟩
    intro a ha
    exact DeclarationGraph.ignores_eq_false_iff.mp (hselects.annotations a ha)

theorem KnowsProperties.repeats_iff (h : t.KnowsProperties g) :
    t.Repeats g name ↔
      (∃ m ∈ t.entityProperties g, m.name = name ∧ t.Selects g m) ∧
        (∃ m ∈ t.handWritten g, m.isMethod = true ∧ m.name = name) ∧
        ∀ m ∈ t.handWritten g, m.isProperty = true → m.name ≠ name := by
  have hexplicit : name ∉ t.explicitMemberNames ↔
      ∀ m ∈ t.handWritten g, m.isProperty = true → m.name ≠ name := by
    rw [h name]
    simp only [not_exists, not_and, ne_eq]
  rw [Repeats, exists_projected_iff, hexplicit]
  constructor
  · rintro ⟨⟨hselected, hnone⟩, m, hm, hname⟩
    refine ⟨hselected, ⟨m, hm, ?_, hname⟩, hnone⟩
    apply Member.isMethod_of_not_isProperty
    intro hproperty
    exact hnone m hm hproperty hname
  · rintro ⟨hselected, ⟨m, hm, -, hname⟩, hnone⟩
    exact ⟨⟨hselected, hnone⟩, m, hm, hname⟩

/-- No property written by hand is generated again, but a method is no obstacle: the names that both halves of
    a dto have are those of selected entity properties that a method has and no property written by hand. -/
theorem repeated_names_iff (hd : d ∈ g.discover.dtos) (ht : (resolve g d).value? = some t) :
    (∀ p ∈ t.properties g, ∀ m ∈ t.handWritten g, m.isProperty = true →
        p.member.name ≠ m.name) ∧
      ∀ name, t.Repeats g name ↔
        (∃ m ∈ t.entityProperties g, m.name = name ∧ t.Selects g m) ∧
          (∃ m ∈ t.handWritten g, m.isMethod = true ∧ m.name = name) ∧
          ∀ m ∈ t.handWritten g, m.isProperty = true → m.name ≠ name := by
  have hknows := knowsProperties_of_resolve (DeclarationGraph.marked_of_mem_dtos hd).1 ht
  refine ⟨?_, fun _ => hknows.repeats_iff⟩
  intro p hp m hm hproperty hname
  have hexplicit : p.member.name ∈ t.explicitMemberNames :=
    (hknows p.member.name).mpr ⟨m, hm, hproperty, hname.symm⟩
  exact (exists_projected_iff.mp ⟨p, hp, rfl⟩).2 hexplicit

def order : Declaration :=
  { Declaration.bare .classDecl "Acme.Order" "Acme" with
    members := [.bare .property "Number" (.primitive "int"),
      .bare .property "Total" (.primitive "decimal"), .bare .property "Note" (.primitive "string")] }

def orderDto : Declaration :=
  { Declaration.bare .classDecl "Acme.OrderDto" "Acme" with
    isPartial := true
    annotations := [⟨"Dto", [.named "Acme.Order"], [], []⟩]
    members := [.bare .property "Number" (.primitive "string")] }

/-- A further fragment of the dto with methods only. -/
def orderMethods : Declaration :=
  { Declaration.bare .classDecl "Acme.OrderDto" "Acme" with
    isPartial := true
    members := [.bare .method "Number" (.primitive "string"),
      .bare .method "Total" (.primitive "decimal")] }

def orderGraph : DeclarationGraph := .ofList [order, orderDto, orderMethods]

def orderDescriptor : Dto :=
  ⟨"Acme.OrderDto", "OrderDto", "Acme", .named "Acme.Order", [], [], ["Number"]⟩

/-- The method `Total` is repeated, the name that a property has as well is not. -/
theorem order_repeated_names :
    orderDto ∈ orderGraph.discover.dtos ∧
      (resolve orderGraph orderDto).value? = some orderDescriptor ∧
      orderDescriptor.Repeats orderGraph "Total" ∧
      ¬ orderDescriptor.Repeats orderGraph "Number" := by
  have hfound : orderDto ∈ orderGraph.discover.dtos := List.mem_singleton.mpr rfl
  have hresolved : (resolve orderGraph orderDto).value? = some orderDescriptor := rfl
  have hrepeated := (repeated_names_iff hfound hresolved).2
  refine ⟨hfound, hresolved, (hrepeated "Total").mpr ⟨?_, ?_, ?_⟩, ?_⟩
  · refine ⟨.bare .property "Total" (.primitive "decimal"), by decide, rfl, ?_⟩
    exact ⟨by decide, rfl, by decide⟩
  · exact ⟨.bare .method "Total" (.primitive "decimal"), by decide, rfl, rfl⟩
  · decide
  · intro hnumber
    have hnone := ((hrepeated "Number").mp hnumber).2.2
    exact hnone (.bare .property "Number" (.primitive "string")) (by decide) rfl rfl

theorem orderDto_repeats_method :
    orderDto ∈ orderGraph.discover.dtos ∧
      ∃ t, (resolve orderGraph orderDto).value? = some t ∧
        (∃ p ∈ t.properties orderGraph, p.member.name = "Total") ∧
        ∃ m ∈ t.handWritten orderGraph, m.isMethod = true ∧ m.name = "Total" := by
  refine ⟨List.mem_singleton.mpr rfl, orderDescriptor, rfl, ?_, ?_⟩
  · exact ⟨⟨.bare .property "Total" (.primitive "decimal"), []⟩, by decide, rfl⟩
  · exact ⟨.bare .method "Total" (.primitive "decimal"), by decide, rfl, rfl⟩

end Dto

end EndpointGen
