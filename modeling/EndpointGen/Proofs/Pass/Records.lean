/- Names of request records in the output of a run: a name repeated within one facade is always reported,
   so that a repeat without a report is a name that two facades share. -/
import Mathlib.Data.List.Nodup
import Mathlib.Data.List.Pairwise
import EndpointGen.Proofs.Facade.Conflicts
import EndpointGen.Proofs.Pass.Committed

namespace EndpointGen

namespace Facade

variable {g : DeclarationGraph} {config : Config} {d : Declaration} {f : Facade}

def recordNames (f : Facade) : List String :=
  f.envelopes.map fun e => f.dtoNamespace ++ "." ++ e.typeName

theorem recordNames_nodup_iff : f.recordNames.Nodup ↔ repeatedRecords [] f.operations = [] := by
  have hqualified : f.recordNames = (f.envelopes.map (·.typeName)).map (f.dtoNamespace ++ "." ++ ·) := by
    rw [recordNames, List.map_map]
    rfl
  have hinjective : Function.Injective (f.dtoNamespace ++ "." ++ ·) :=
    fun _ _ heq => (String.append_right_inj _).mp heq
  rw [hqualified, List.nodup_map_iff hinjective, repeatedRecords_eq_nil_iff]

theorem exists_recordDiagnostic (h : (resolve g config d).value? = some f)
    (hrepeated : ¬ f.recordNames.Nodup) :
    ∃ e ∈ (resolve g config d).diagnostics, e.code = .conflictingRequestEnvelope ∧
      e.LocatedAt f.source := by
  rw [recordNames_nodup_iff] at hrepeated
  obtain ⟨⟨op, envelope, first⟩, hmem⟩ := List.exists_mem_of_ne_nil _ hrepeated
  refine ⟨recordDiagnostic d.identity op envelope first, ?_, rfl, .inr ⟨op.sourceMember, ?_⟩⟩
  · rw [diagnostics_of_resolve h]
    exact List.mem_append_right _ (List.mem_map.mpr ⟨_, hmem, rfl⟩)
  · rw [source_of_resolve h]
    rfl

end Facade

/-- No repeated record or field name and no output key taken twice is reported. -/
def Pass.Quiet (p : Pass) : Prop :=
  ∀ e ∈ p.diagnostics, e.code ≠ .conflictingRequestEnvelope ∧ e.code ≠ .duplicateOutputKey

namespace DeclarationGraph

variable {g : DeclarationGraph} {config : Config} {f f' : Facade}

/-- The qualified names of the request records in the output of a run. -/
def recordNames (g : DeclarationGraph) (config : Config) : List String :=
  (g.committedFacades config).flatMap Facade.recordNames

theorem committedFacades_pairwise (g : DeclarationGraph) (config : Config) :
    (g.committedFacades config).Pairwise fun f f' => f.source ≠ f'.source := by
  have hidentities : g.discover.facades.Pairwise fun d d' => d.identity ≠ d'.identity := by
    have hall := g.discover_identities_nodup
    rw [Discovery.declarations, List.map_append] at hall
    exact List.pairwise_map.mp (List.nodup_append.mp hall).1
  refine List.Pairwise.filter _ ?_
  simp only [resolveAll, List.filterMap_map]
  refine List.pairwise_filterMap.mpr (hidentities.imp fun {d d'} hne f hf f' hf' => ?_)
  rwa [Facade.source_of_resolve hf, Facade.source_of_resolve hf']

/-- A name that a facade of the graph repeats among its own records is reported at the facade. -/
theorem reports_repeated_record (hf : f ∈ (g.resolveAll config).facades)
    (hrepeated : ¬ f.recordNames.Nodup) :
    ∃ e ∈ (g.run config).diagnostics, e.code = .conflictingRequestEnvelope ∧
      e.LocatedAt f.source := by
  obtain ⟨d, hd, hr⟩ := mem_facades_iff.mp hf
  obtain ⟨e, he, hcode, hlocated⟩ := Facade.exists_recordDiagnostic hr hrepeated
  have hwork : Pending.ofFacade g config d ∈ g.pending config :=
    List.mem_append_left _ (List.mem_map.mpr ⟨d, hd, rfl⟩)
  exact ⟨e, Pass.mem_diagnostics_foldl_commit hwork he, hcode, hlocated⟩

theorem recordNames_nodup_of_quiet (hquiet : (g.run config).Quiet)
    (hf : f ∈ g.committedFacades config) : f.recordNames.Nodup := by
  by_contra hrepeated
  obtain ⟨e, he, hcode, -⟩ := reports_repeated_record (List.mem_filter.mp hf).1 hrepeated
  exact (hquiet e he).1 hcode

/-- Two facades of the output declare a record of one name. -/
def SharesRecord (g : DeclarationGraph) (config : Config) : Prop :=
  ∃ f ∈ g.committedFacades config, ∃ f' ∈ g.committedFacades config, f.source ≠ f'.source ∧
    ∃ name ∈ f.recordNames, name ∈ f'.recordNames

theorem recordNames_nodup_iff :
    (g.recordNames config).Nodup ↔
      (∀ f ∈ g.committedFacades config, f.recordNames.Nodup) ∧ ¬ g.SharesRecord config := by
  rw [recordNames, List.nodup_flatMap]
  refine and_congr_right fun _ => ?_
  constructor
  · rintro hpairwise ⟨f, hf, f', hf', hne, name, hname, hname'⟩
    have hfacades : f ≠ f' := fun heq => hne (congrArg Facade.source heq)
    have : Std.Symm (Function.onFun List.Disjoint Facade.recordNames) :=
      ⟨fun _ _ h => List.disjoint_symm h⟩
    exact hpairwise.forall hf hf' hfacades hname hname'
  · intro hapart
    refine (g.committedFacades_pairwise config).imp_of_mem fun {f f'} hf hf' hne name hname hname' => ?_
    exact hapart ⟨f, hf, f', hf', hne, name, hname, hname'⟩

/-- The records of one facade are in the output as a whole, and a repeated name among them is reported.
    Where nothing is reported, a name is repeated exactly when two facades share it. -/
theorem unreported_records_iff (g : DeclarationGraph) (config : Config) :
    (∀ f ∈ g.committedFacades config,
        (∀ u ∈ f.units config, u ∈ (g.run config).units) ∧
        (¬ f.recordNames.Nodup → ∃ e ∈ (g.run config).diagnostics,
          e.code = .conflictingRequestEnvelope ∧ e.LocatedAt f.source)) ∧
      ((g.run config).Quiet ∧ ¬ (g.recordNames config).Nodup ↔
        (g.run config).Quiet ∧ g.SharesRecord config) := by
  refine ⟨fun f hf => ⟨fun u hu => mem_units_run_iff.mpr (.inl ⟨f, hf, hu⟩),
    reports_repeated_record (List.mem_filter.mp hf).1⟩, ?_⟩
  refine and_congr_right fun hquiet => ?_
  have hown : ∀ f ∈ g.committedFacades config, f.recordNames.Nodup :=
    fun f hf => recordNames_nodup_of_quiet hquiet hf
  rw [recordNames_nodup_iff, not_and, not_not]
  exact ⟨fun h => h hown, fun h _ => h⟩

def createMember : Member :=
  { (Member.bare .method "Create" (.primitive "void")).addParameter "name" (.primitive "string") with
    annotations := [.bare "Post"] }

def createFacade (identity : String) : Declaration :=
  { Declaration.bare .interfaceDecl identity "Acme" with
    annotations := [.bare "HttpFacade"]
    members := [createMember] }

def twoCreates : DeclarationGraph :=
  .ofList [createFacade "Acme.IUsers", createFacade "Acme.IOrders"]

/-- Two facades of one namespace declare the same record, and nothing is reported. -/
theorem twoCreates_unreported :
    (twoCreates.run .default).Quiet ∧ ¬ (twoCreates.recordNames .default).Nodup := by
  have hdiagnostics : (twoCreates.run .default).diagnostics = [] := rfl
  have hnames : twoCreates.recordNames .default =
      ["Acme.Controllers.CreateRequest", "Acme.Controllers.CreateRequest"] := rfl
  constructor
  · intro e he
    rw [hdiagnostics] at he
    cases he
  · rw [hnames]
    decide

end DeclarationGraph

end EndpointGen
