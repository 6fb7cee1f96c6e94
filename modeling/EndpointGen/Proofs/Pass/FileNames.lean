/- File names in the output of a run: a key is no plain file name exactly where the name that it is made
   of has a separator, and writing the units of the run then stops there. -/
import EndpointGen.Proofs.Files.Writing
import EndpointGen.Proofs.Pass.Committed

namespace EndpointGen

theorem Facade.keys_not_plain_iff (f : Facade) (config : Config) :
    (∃ u ∈ f.units config, isPlainFileName u.key = false) ↔ HasSeparator f.controllerName := by
  have hcontroller : isPlainFileName f.controllerKey = false ↔ HasSeparator f.controllerName := by
    rw [controllerKey, controllerClass, String.append_assoc]
    exact isPlainFileName_append (by decide) (by decide)
  have hrequests : isPlainFileName f.requestsKey = false ↔ HasSeparator f.controllerName :=
    isPlainFileName_append (by decide) (by decide)
  unfold units
  by_cases hrecords : f.envelopes.isEmpty = true
  · simp [hrecords, hcontroller]
  · simp [hrecords, hcontroller, hrequests]

theorem Dto.key_not_plain_iff (t : Dto) (g : DeclarationGraph) (config : Config) :
    isPlainFileName (t.unit g config).key = false ↔ HasSeparator t.name :=
  isPlainFileName_append (by decide) (by decide)

namespace DeclarationGraph

variable {g : DeclarationGraph} {config : Config}

/-- A unit of a run is named after something with a separator. -/
def HasSeparatedName (g : DeclarationGraph) (config : Config) : Prop :=
  (∃ f ∈ g.committedFacades config, HasSeparator f.controllerName) ∨
    ∃ t ∈ g.committedDtos config, HasSeparator t.name

theorem keys_not_plain_iff :
    (∃ u ∈ (g.run config).units, isPlainFileName u.key = false) ↔ g.HasSeparatedName config := by
  constructor
  · rintro ⟨u, hu, hkey⟩
    rcases mem_units_run_iff.mp hu with ⟨f, hf, hu⟩ | ⟨t, ht, rfl⟩
    · exact .inl ⟨f, hf, (f.keys_not_plain_iff config).mp ⟨u, hu, hkey⟩⟩
    · exact .inr ⟨t, ht, (t.key_not_plain_iff g config).mp hkey⟩
  · rintro (⟨f, hf, hname⟩ | ⟨t, ht, hname⟩)
    · obtain ⟨u, hu, hkey⟩ := (f.keys_not_plain_iff config).mpr hname
      exact ⟨u, mem_units_run_iff.mpr (.inl ⟨f, hf, hu⟩), hkey⟩
    · exact ⟨t.unit g config, mem_units_run_iff.mpr (.inr ⟨t, ht, rfl⟩),
        (t.key_not_plain_iff g config).mpr hname⟩

/-- A name with a separator makes a key that is no plain file name, and such a key ends the writing of a
    run at its unit, whatever comes after it; without such a name no key does. -/
theorem separated_names_stop_writing (g : DeclarationGraph) (config : Config) :
    ((∃ u ∈ (g.run config).units, isPlainFileName u.key = false) ↔ g.HasSeparatedName config) ∧
      ∀ (t : FileTree) (directory : String) (dryRun : Bool),
        (∀ before u after, (g.run config).units = before ++ u :: after →
          isPlainFileName u.key = false →
          (writeUnits t directory (g.run config).units dryRun).failure?.isSome = true ∧
            writeUnits t directory (g.run config).units dryRun =
              (writeUnits t directory before dryRun).stopAt u.key) ∧
        ∀ f key, (writeUnits t directory (g.run config).units dryRun).failure? = some f →
          f.cause = .keyNotPlain key → g.HasSeparatedName config := by
  refine ⟨keys_not_plain_iff, fun t directory dryRun => ⟨?_, ?_⟩⟩
  · intro before u after hunits hkey
    rw [hunits, writeUnits_stopAt hkey before after]
    exact ⟨Writing.stopAt_failure _ _, rfl⟩
  · intro f key hf hcause
    rw [← keys_not_plain_iff]
    by_contra hkeys
    have hplain : ∀ u ∈ (g.run config).units, isPlainFileName u.key = true := by simpa using hkeys
    obtain ⟨e, he⟩ := writeUnits_failure hplain hf
    rw [hcause] at he
    cases he

def listMember : Member :=
  { Member.bare .method "List" (.primitive "string") with annotations := [.bare "Get"] }

/-- A facade whose marker gives a path as the controller name, before one without such a name. -/
def adminGraph : DeclarationGraph :=
  .ofList
    [ { Declaration.bare .interfaceDecl "Acme.IUsers" "Acme" with
        annotations := [⟨"HttpFacade", [], [.string "Admin/Users"], []⟩]
        members := [listMember] },
      { Declaration.bare .interfaceDecl "Acme.IOrders" "Acme" with
        annotations := [.bare "HttpFacade"]
        members := [listMember] } ]

/-- Nothing is reported about the path, and writing stops at it with nothing written. -/
theorem adminGraph_stops_writing :
    (adminGraph.run .default).diagnostics = [] ∧
      (adminGraph.run .default).keys = ["Admin/UsersController.g.cs", "OrdersController.g.cs"] ∧
      (writeUnits .empty "out" (adminGraph.run .default).units false).failure? =
        some (.ofCause (.keyNotPlain "Admin/UsersController.g.cs")) ∧
      (writeUnits .empty "out" (adminGraph.run .default).units false).written = [] := by
  refine ⟨rfl, rfl, rfl, rfl⟩

end DeclarationGraph

end EndpointGen
