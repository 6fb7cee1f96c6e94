/- What a projection keeps of its entity: the properties that no rule leaves out, in order and unchanged, with
   all their annotations but the marker's own and the compiler's. Ignored attributes are looked for twice, and
   what passes the first time has nothing to lose the second. -/
import EndpointGen.Proofs.Dto.IgnoredAttributes

namespace EndpointGen

namespace DeclarationGraph

theorem propagate_of_unignored {g : DeclarationGraph} {ignored : List TypeExpr}
    {annotations : List Annotation} (h : ∀ a ∈ annotations, g.ignores ignored a.kind = false)
    (consumed : Annotation → Bool) :
    g.propagate ignored consumed annotations = candidates consumed annotations := by
  refine List.filter_eq_self.mpr fun a ha => ?_
  rw [h a (List.mem_filter.mp ha).1]
  rfl

end DeclarationGraph

namespace Dto

variable {g : DeclarationGraph} {t : Dto} {m : Member} {p : ProjectedProperty} {entity : Declaration}

/-- Some rule leaves the property out. -/
def Omits (t : Dto) (g : DeclarationGraph) (m : Member) : Prop :=
  m.name ∈ t.ignoredProperties ∨ m.name ∈ t.explicitMemberNames ∨ m.isEqualityMachinery = true ∨
    ∃ a ∈ m.annotations, g.ignores t.ignoredAttributeTypes a.kind = true

instance (t : Dto) (g : DeclarationGraph) : DecidablePred (t.Omits g) := fun m =>
  inferInstanceAs (Decidable (m.name ∈ t.ignoredProperties ∨ m.name ∈ t.explicitMemberNames ∨
    m.isEqualityMachinery = true ∨
      ∃ a ∈ m.annotations, g.ignores t.ignoredAttributeTypes a.kind = true))

theorem not_omits_iff :
    ¬ t.Omits g m ↔
      t.Includes m ∧ ∀ a ∈ m.annotations, g.ignores t.ignoredAttributeTypes a.kind = false := by
  simp only [Omits, Includes, not_or, not_exists, not_and, Bool.not_eq_true, and_assoc]

/-- In whatever order the rules are asked, a property stays in where none of them leaves it out. -/
theorem isNone_skipReason? (t : Dto) (g : DeclarationGraph) (m : Member) :
    (t.skipReason? g m).isNone = decide (¬ t.Omits g m) := by
  rw [Bool.eq_iff_iff, Option.isNone_iff_eq_none, decide_eq_true_iff, not_omits_iff,
    skipReason?_eq_none_iff]
  refine and_congr_right fun _ => forall₂_congr fun a _ => ?_
  exact DeclarationGraph.ignores_eq_false_iff.symm

theorem members_properties (t : Dto) (g : DeclarationGraph) :
    (t.properties g).map (·.member) = (t.entityProperties g).filter fun m => ¬ t.Omits g m := by
  rw [properties, List.map_map]
  calc ((t.entityProperties g).filter fun m => (t.skipReason? g m).isNone).map
        (ProjectedProperty.member ∘ t.project g)
      = (t.entityProperties g).filter fun m => (t.skipReason? g m).isNone := List.map_id _
    _ = (t.entityProperties g).filter fun m => ¬ t.Omits g m :=
        List.filter_congr fun m _ => t.isNone_skipReason? g m

theorem members_sublist (t : Dto) (g : DeclarationGraph) :
    ((t.properties g).map (·.member)).Sublist (t.entityProperties g) := by
  rw [members_properties]
  exact List.filter_sublist

theorem not_omits_of_mem_properties (h : p ∈ t.properties g) : ¬ t.Omits g p.member := by
  have hmember : p.member ∈ (t.properties g).map (·.member) := List.mem_map_of_mem h
  rw [members_properties] at hmember
  simpa using (List.mem_filter.mp hmember).2

theorem unignored_of_mem_properties (h : p ∈ t.properties g) :
    ∀ a ∈ p.member.annotations, g.ignores t.ignoredAttributeTypes a.kind = false :=
  (not_omits_iff.mp (not_omits_of_mem_properties h)).2

theorem annotations_of_mem_properties (h : p ∈ t.properties g) :
    p.annotations = DeclarationGraph.candidates isDtoMarker p.member.annotations := by
  have hunignored := unignored_of_mem_properties h
  obtain ⟨m, -, rfl⟩ := List.mem_map.mp h
  exact DeclarationGraph.propagate_of_unignored hunignored isDtoMarker

theorem entityProperties_of_resolve? (h : g.resolve? t.entityType = some entity) :
    t.entityProperties g = (g.fragments entity.identity).flatMap (·.properties) := by
  rw [entityProperties, h]

/-- The projection of an entity is the list of its properties, over all fragments, without those that a rule
    leaves out. Each property keeps its annotations in order except markers of dtos and annotations of the
    compiler; none of them is of an ignored type. Distinct names stay distinct, and none of them is
    ignored or written by hand. -/
theorem projection_conserves (h : g.resolve? t.entityType = some entity) :
    t.entityProperties g = (g.fragments entity.identity).flatMap (·.properties) ∧
      ((t.properties g).map (·.member)).Sublist (t.entityProperties g) ∧
      ((t.properties g).map (·.member) = (t.entityProperties g).filter fun m => ¬ t.Omits g m) ∧
      (∀ p ∈ t.properties g,
        (p.annotations = p.member.annotations.filter fun a =>
          !isMarker a.kind dtoMarker && !isInternal a.kind) ∧
          ∀ a ∈ p.member.annotations, g.ignores t.ignoredAttributeTypes a.kind = false) ∧
      (((t.entityProperties g).map (·.name)).Nodup →
        ((t.properties g).map (·.member.name)).Nodup) ∧
      ∀ p ∈ t.properties g,
        p.member.name ∉ t.ignoredProperties ∧ p.member.name ∉ t.explicitMemberNames := by
  refine ⟨entityProperties_of_resolve? h, t.members_sublist g, t.members_properties g, ?_, ?_, ?_⟩
  · intro p hp
    exact ⟨annotations_of_mem_properties hp, unignored_of_mem_properties hp⟩
  · intro hnodup
    have hnames := (t.members_sublist g).map (·.name)
    rw [List.map_map] at hnames
    exact hnames.nodup hnodup
  · intro p hp
    obtain ⟨⟨hignored, hexplicit, -⟩, -⟩ := not_omits_iff.mp (not_omits_of_mem_properties hp)
    exact ⟨hignored, hexplicit⟩

def membership : Declaration :=
  { Declaration.bare .classDecl "Acme.Member" "Acme" with
    members :=
      [ .bare .property "Id" (.primitive "int"),
        { Member.bare .property "Name" (.primitive "string") with
          annotations := [.bare "System.Runtime.CompilerServices.NullableAttribute",
            .bare "Acme.DocAttribute", .bare "DtoAttribute", .bare "Acme.RequiredAttribute`1"]
          initializer? := some "string.Empty" },
        { Member.bare .property "Ssn" (.primitive "string") with
          annotations := [.bare "Acme.DocAttribute", .bare "Acme.PiiAttribute`1"] } ] }

/-- A further fragment of the entity. -/
def membershipDates : Declaration :=
  { Declaration.bare .classDecl "Acme.Member" "Acme" with
    members :=
      [ .bare .method "Renew" (.primitive "void"), .bare .property "Since" (.primitive "int"),
        .bare .property "EqualityContract" (.named "System.Type"),
        .bare .property "Until" (.nullable (.primitive "int")) ] }

def membershipGraph : DeclarationGraph :=
  .ofList
    [ membership, .bare .classDecl "Acme.SensitiveAttribute" "Acme", membershipDates,
      (Declaration.bare .classDecl "Acme.PiiAttribute" "Acme").basedOn "Acme.SensitiveAttribute" ]

def memberDto : Dto :=
  ⟨"Acme.MemberDto", "MemberDto", "Acme", .named "Acme.Member", ["Id"],
    [.named "Acme.SensitiveAttribute"], ["Since"]⟩

theorem memberDto_conserves :
    membershipGraph.resolve? memberDto.entityType = some membership ∧
      ((memberDto.properties membershipGraph).map fun p =>
        (p.member.name, p.member.initializer?, p.annotations.map (·.kind))) =
          [("Name", some "string.Empty", ["Acme.DocAttribute", "Acme.RequiredAttribute`1"]),
            ("Until", none, [])] ∧
      ((memberDto.properties membershipGraph).map (·.member.name)).Nodup := by
  have hentity : membershipGraph.resolve? memberDto.entityType = some membership := rfl
  obtain ⟨hsource, -, -, -, hnodup, -⟩ := projection_conserves hentity
  refine ⟨hentity, rfl, hnodup ?_⟩
  rw [hsource]
  decide

end Dto

end EndpointGen
