/- Ignored attribute types on a projected property. Ignored types are looked for by their open
   identities, while the names above a kind are compared as written: an ignored type in generic form is
   missed where a kind reaches it only further up its chain. -/
import EndpointGen.Dto.Projection
import EndpointGen.Proofs.Dto.Resolution
import EndpointGen.Proofs.Graph.Queries

namespace EndpointGen

def ignoredNames (ignored : List TypeExpr) : List String := ignored.filterMap TypeExpr.identity?

namespace DeclarationGraph

variable {g : DeclarationGraph} {ignored : List TypeExpr} {kind : String}

def ReachesIgnored (g : DeclarationGraph) (ignored : List TypeExpr) (kind : String) : Prop :=
  ∃ i ∈ ignoredNames ignored, g.derives kind i = true

/-- Strictly above the kind stands an ignored type that is written in generic form. -/
def ReachesGeneric (g : DeclarationGraph) (ignored : List TypeExpr) (kind : String) : Prop :=
  ∃ i ∈ ignoredNames ignored, openIdentity i ≠ i ∧
    ∃ n, 0 < n ∧ n ≤ chainBound ∧ g.above n kind = some i

/-- Neither from the kind nor from its open identity does a walk meet an open ignored identity. -/
def MeetsNoOpen (g : DeclarationGraph) (ignored : List TypeExpr) (kind : String) : Prop :=
  ∀ i ∈ ignoredNames ignored, ∀ start, start = kind ∨ start = openIdentity kind →
    ∀ n ≤ chainBound, g.above n start ≠ some (openIdentity i)

theorem mem_walksToIgnored {start ancestor : String} :
    (start, ancestor) ∈ walksToIgnored kind ignored ↔
      (start = kind ∨ start = openIdentity kind) ∧
        ∃ i ∈ ignoredNames ignored, openIdentity i = ancestor := by
  simp only [walksToIgnored, ignoredIdentities, List.mem_flatMap, List.mem_map]
  by_cases hopen : openIdentity kind = kind
  · simp only [hopen, if_true, List.mem_singleton, Prod.mk.injEq, or_self, ignoredNames]
    constructor
    · rintro ⟨_, ⟨i, hi, rfl⟩, rfl, rfl⟩
      exact ⟨rfl, i, hi, rfl⟩
    · rintro ⟨rfl, i, hi, rfl⟩
      exact ⟨_, ⟨i, hi, rfl⟩, rfl, rfl⟩
  · simp only [hopen, if_false, List.mem_cons, List.not_mem_nil, or_false, Prod.mk.injEq,
      ignoredNames]
    constructor
    · rintro ⟨_, ⟨i, hi, rfl⟩, ⟨rfl, rfl⟩ | ⟨rfl, rfl⟩⟩
      · exact ⟨.inl rfl, i, hi, rfl⟩
      · exact ⟨.inr rfl, i, hi, rfl⟩
    · rintro ⟨rfl | rfl, i, hi, rfl⟩
      · exact ⟨_, ⟨i, hi, rfl⟩, .inl ⟨rfl, rfl⟩⟩
      · exact ⟨_, ⟨i, hi, rfl⟩, .inr ⟨rfl, rfl⟩⟩

theorem ignores_eq_false_iff : g.ignores ignored kind = false ↔ g.MeetsNoOpen ignored kind := by
  rw [ignores, List.any_eq_false]
  constructor
  · intro h i hi start hstart n hn habove
    exact h (start, openIdentity i) (mem_walksToIgnored.mpr ⟨hstart, i, hi, rfl⟩)
      (derives_iff.mpr ⟨n, hn, habove⟩)
  · rintro h ⟨start, ancestor⟩ hwalk hderives
    obtain ⟨hstart, i, hi, rfl⟩ := mem_walksToIgnored.mp hwalk
    obtain ⟨n, hn, habove⟩ := derives_iff.mp hderives
    exact h i hi start hstart n hn habove

/-- What is missed is exactly what only a name in generic form above the kind gives away: the kind
    itself and an ignored type in plain form are always met. -/
theorem missed_iff :
    g.ReachesIgnored ignored kind ∧ g.ignores ignored kind = false ↔
      g.ReachesGeneric ignored kind ∧ g.MeetsNoOpen ignored kind := by
  rw [ignores_eq_false_iff]
  constructor
  · rintro ⟨⟨i, hi, hderives⟩, hno⟩
    obtain ⟨n, hn, habove⟩ := derives_iff.mp hderives
    refine ⟨⟨i, hi, ?_, n, ?_, hn, habove⟩, hno⟩
    · intro hplain
      exact hno i hi kind (.inl rfl) n hn (by rw [hplain, habove])
    · cases n with
      | zero =>
          obtain rfl : kind = i := Option.some.inj habove
          exact absurd rfl (hno kind hi _ (.inr rfl) 0 (Nat.zero_le _))
      | succ n => exact Nat.succ_pos n
  · rintro ⟨⟨i, hi, -, n, -, hn, habove⟩, hno⟩
    exact ⟨⟨i, hi, derives_iff.mpr ⟨n, hn, habove⟩⟩, hno⟩

end DeclarationGraph

namespace Dto

variable {g : DeclarationGraph} {t : Dto} {m : Member}

/-- A projected property carries an annotation of an ignored type or of one derived from it. -/
def Leaks (t : Dto) (g : DeclarationGraph) : Prop :=
  ∃ p ∈ t.properties g, ∃ a ∈ p.member.annotations,
    g.ReachesIgnored t.ignoredAttributeTypes a.kind

/-- The rules that look at a property itself leave it in. -/
def Includes (t : Dto) (m : Member) : Prop :=
  m.name ∉ t.ignoredProperties ∧ m.name ∉ t.explicitMemberNames ∧ m.isEqualityMachinery = false

theorem skipReason?_eq_none_iff :
    t.skipReason? g m = none ↔
      t.Includes m ∧ ∀ a ∈ m.annotations, g.MeetsNoOpen t.ignoredAttributeTypes a.kind := by
  have hignored : m.annotations.any (t.isIgnoredAnnotation g) = false ↔
      ∀ a ∈ m.annotations, g.MeetsNoOpen t.ignoredAttributeTypes a.kind := by
    rw [List.any_eq_false]
    refine forall₂_congr fun a _ => ?_
    rw [Bool.not_eq_true, isIgnoredAnnotation, DeclarationGraph.ignores_eq_false_iff]
  rw [← hignored, skipReason?, Includes]
  by_cases hname : m.name ∈ t.ignoredProperties
  · simp [hname]
  · by_cases hexplicit : m.name ∈ t.explicitMemberNames
    · simp [hname, hexplicit]
    · cases hmachinery : m.isEqualityMachinery with
      | true => simp [hname, hexplicit]
      | false =>
          cases hany : m.annotations.any (t.isIgnoredAnnotation g) with
          | true => simp [hname, hexplicit]
          | false => simp [hname, hexplicit]

theorem exists_mem_properties_iff {P : Member → Prop} :
    (∃ p ∈ t.properties g, P p.member) ↔
      ∃ m ∈ t.entityProperties g, t.Includes m ∧
        (∀ a ∈ m.annotations, g.MeetsNoOpen t.ignoredAttributeTypes a.kind) ∧ P m := by
  constructor
  · rintro ⟨p, hp, hP⟩
    obtain ⟨m, hm, rfl⟩ := List.mem_map.mp hp
    obtain ⟨hm, hkept⟩ := List.mem_filter.mp hm
    obtain ⟨hin, hno⟩ := skipReason?_eq_none_iff.mp (Option.isNone_iff_eq_none.mp hkept)
    exact ⟨m, hm, hin, hno, hP⟩
  · rintro ⟨m, hm, hin, hno, hP⟩
    have hkept := Option.isNone_iff_eq_none.mpr (skipReason?_eq_none_iff.mpr ⟨hin, hno⟩)
    exact ⟨t.project g m, List.mem_map.mpr ⟨m, List.mem_filter.mpr ⟨hm, hkept⟩, rfl⟩, hP⟩

/-- A leak is a property that no rule leaves out, with an annotation that reaches an ignored type only
    by a name in generic form above its kind. -/
theorem leaks_iff (g : DeclarationGraph) (t : Dto) :
    (∀ ignored kind, g.ReachesIgnored ignored kind ∧ g.ignores ignored kind = false ↔
        g.ReachesGeneric ignored kind ∧ g.MeetsNoOpen ignored kind) ∧
      (t.Leaks g ↔ ∃ m ∈ t.entityProperties g, t.Includes m ∧
        (∀ a ∈ m.annotations, g.MeetsNoOpen t.ignoredAttributeTypes a.kind) ∧
        ∃ a ∈ m.annotations, g.ReachesGeneric t.ignoredAttributeTypes a.kind) := by
  refine ⟨fun _ _ => DeclarationGraph.missed_iff, ?_⟩
  rw [Leaks, exists_mem_properties_iff
    (P := fun m => ∃ a ∈ m.annotations, g.ReachesIgnored t.ignoredAttributeTypes a.kind)]
  constructor
  · rintro ⟨m, hm, hin, hno, a, ha, hreaches⟩
    have hunmet := DeclarationGraph.ignores_eq_false_iff.mpr (hno a ha)
    exact ⟨m, hm, hin, hno, a, ha, (DeclarationGraph.missed_iff.mp ⟨hreaches, hunmet⟩).1⟩
  · rintro ⟨m, hm, hin, hno, a, ha, hreaches⟩
    exact ⟨m, hm, hin, hno, a, ha, (DeclarationGraph.missed_iff.mpr ⟨hreaches, hno a ha⟩).1⟩

/-- Ignored types in plain form never leak. -/
theorem not_leaks_of_plain
    (h : ∀ i ∈ ignoredNames t.ignoredAttributeTypes, openIdentity i = i) : ¬ t.Leaks g := by
  intro hleaks
  obtain ⟨m, -, -, hno, a, ha, hreaches⟩ := (exists_mem_properties_iff
    (P := fun m => ∃ a ∈ m.annotations, g.ReachesIgnored t.ignoredAttributeTypes a.kind)).mp hleaks
  have hunmet := DeclarationGraph.ignores_eq_false_iff.mpr (hno a ha)
  obtain ⟨⟨i, hi, hgeneric, -⟩, -⟩ := DeclarationGraph.missed_iff.mp ⟨hreaches, hunmet⟩
  exact hgeneric (h i hi)

def emailMember : Member :=
  { Member.bare .property "Email" (.primitive "string") with annotations := [.bare "Acme.Pii"] }

def customerDto : Declaration :=
  { Declaration.bare .classDecl "Acme.CustomerDto" "Acme" with
    isPartial := true
    annotations := [⟨"Dto", [.named "Acme.Customer"], [],
      [⟨"IgnoredAttributes", .array [.type (.named "Acme.Sensitive`1")]⟩]⟩] }

def customerGraph : DeclarationGraph :=
  .ofList
    [ .bare .classDecl "Acme.Sensitive`1" "Acme",
      (Declaration.bare .classDecl "Acme.Pii" "Acme").basedOn "Acme.Sensitive`1",
      (Declaration.bare .classDecl "Acme.Customer" "Acme").addMember emailMember,
      customerDto ]

theorem customerDto_leaks :
    ∃ t, (resolve customerGraph customerDto).value? = some t ∧ t.Leaks customerGraph := by
  refine ⟨_, rfl, ⟨emailMember, [.bare "Acme.Pii"]⟩, ?_, .bare "Acme.Pii", ?_, "Acme.Sensitive`1",
    ?_, ?_⟩
  · decide
  · decide
  · decide
  · decide

end Dto

end EndpointGen
