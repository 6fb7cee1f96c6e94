/- Effects of commands: what a command leaves of the file tree, where it writes, and what decides its
   success. -/
import EndpointGen.CommandLine.Run
import EndpointGen.Proofs.Files.Touching
import EndpointGen.Proofs.Report.Diagnostics

namespace EndpointGen

variable {env : Environment} {t : FileTree} {graph : String} {output? config? : Option String}
  {work : Inputs}

namespace Config

/-- The settings of the file that counts for a run, none where no file does. -/
def ofFile? (t : FileTree) (explicit : Option String) (graphPath : String) : Option Config :=
  (path? t explicit graphPath).bind fun path => (load t path).toOption.join

theorem fromFile_eq {explicit : Option String} {c : Config} (h : fromFile t explicit graph = .ok c) :
    c = (ofFile? t explicit graph).getD default := by
  unfold fromFile at h
  unfold ofFile?
  split at h
  · rename_i hnone
    rw [hnone]
    exact (Except.ok.inj h).symm
  · rename_i path hpath
    rw [hpath, Option.bind_some]
    split at h
    · cases h
    · rename_i loaded hloaded
      rw [hloaded]
      exact (Except.ok.inj h).symm
    · rename_i hloaded
      rw [hloaded]
      split at h
      · cases h
      · exact (Except.ok.inj h).symm

theorem withEnvironment_outputDir (c : Config) (env : Environment) :
    (c.withEnvironment env).outputDir =
      ((env outputDirVariable).filter (· ≠ "")).getD c.outputDir := rfl

end Config

namespace Inputs

theorem of_load (h : load t env config? graph = .ok work) :
    Config.effective t env config? graph = .ok work.config ∧
      DeclarationSet.load t graph = .ok work.set := by
  unfold load at h
  cases hconfig : Config.effective t env config? graph with
  | error f => simp [hconfig, bind, Except.bind] at h
  | ok config =>
      cases hset : DeclarationSet.load t graph with
      | error f => simp [hconfig, hset, bind, Except.bind] at h
      | ok set =>
          simp only [hconfig, hset, bind, Except.bind, Except.ok.injEq] at h
          subst h
          exact ⟨rfl, rfl⟩

theorem load_error (h : (∃ f, Config.effective t env config? graph = .error f) ∨
    ∃ f, DeclarationSet.load t graph = .error f) :
    ∃ f, load t env config? graph = .error f := by
  cases hload : load t env config? graph with
  | error f => exact ⟨f, rfl⟩
  | ok work =>
      obtain ⟨hconfig, hset⟩ := of_load hload
      rcases h with ⟨f, h⟩ | ⟨f, h⟩
      · rw [hconfig] at h
        cases h
      · rw [hset] at h
        cases h

end Inputs

namespace Command

/-- Where a run writes: the directory that is asked for, else the one that the environment names, else
    the one of the settings file, else the usual one. -/
def outputDirectory (env : Environment) (t : FileTree) (graph : String)
    (output? config? : Option String) : String :=
  let named? := (env Config.outputDirVariable).filter (· ≠ "")
  let filed? := (Config.ofFile? t config? graph).map (·.outputDir)
  ((output?.or named?).or filed?).getD Config.default.outputDir

def isReadOnly : Command → Bool
  | .generate _ _ _ dryRun => dryRun
  | .check _ _ _ _ => true
  | .inspect _ _ => true

/-- The diagnostics of a pass make the command fail. -/
def FailsOn (diagnostics : List Diagnostic) : Command → Prop
  | .generate _ _ _ _ => ∃ d ∈ diagnostics, d.severity = .error
  | .check _ _ failOnError _ => failOnError = true ∧ ∃ d ∈ diagnostics, d.severity = .error
  | .inspect _ _ => False

theorem outputDirectory_eq (h : Inputs.load t env config? graph = .ok work) :
    outputDirectory env t graph output? config? = output?.getD work.config.outputDir := by
  obtain ⟨hconfig, -⟩ := Inputs.of_load h
  unfold Config.effective at hconfig
  cases hfile : Config.fromFile t config? graph with
  | error f => simp [hfile, Except.map] at hconfig
  | ok c =>
      rw [hfile] at hconfig
      rw [← Except.ok.inj hconfig, Config.withEnvironment_outputDir, Config.fromFile_eq hfile]
      unfold outputDirectory
      cases output? with
      | some directory => rfl
      | none =>
          cases (env Config.outputDirVariable).filter (· ≠ "") with
          | some directory => rfl
          | none => cases Config.ofFile? t config? graph <;> rfl

theorem generating_tree (t : FileTree) (work : Inputs) (output? : Option String) (dryRun : Bool) :
    (generating t work output? dryRun).tree =
      (writeUnits t (output?.getD work.config.outputDir) (work.set.graph.run work.config).units
        dryRun).tree := by
  unfold generating
  dsimp only
  split <;> rfl

theorem perform_readOnly {c : Command} (h : c.isReadOnly = true) : (c.perform t work).tree = t := by
  cases c with
  | generate graph output? config? dryRun =>
      obtain rfl : dryRun = true := h
      exact (generating_tree t work output? true).trans (writeUnits_dryRun t _ _)
  | check => rfl
  | inspect => rfl

/-- What a command gives back when it is not stopped tells whether the diagnostics make it fail. -/
theorem perform_result {c : Command} {success : Bool} (h : (c.perform t work).result = .ok success) :
    success = false ↔ c.FailsOn (work.set.graph.run work.config).diagnostics := by
  cases c with
  | generate graph output? config? dryRun =>
      simp only [perform, generating] at h
      split at h
      · cases h
      · obtain rfl := Except.ok.inj h
        rw [FailsOn, ← hasErrors_iff]
        simp [Pass.hasErrors]
  | check graph config? failOnError errorsOnly =>
      obtain rfl := Except.ok.inj h
      rw [FailsOn, ← hasErrors_iff]
      simp [Pass.hasErrors]
  | inspect graph config? =>
      obtain rfl := Except.ok.inj h
      simp [FailsOn]

theorem run_of_load_error {c : Command} {f : Failure}
    (h : Inputs.load t env c.config? c.graph = .error f) :
    (c.run env t).tree = t ∧ (c.run env t).result = .error f := by
  simp [run, h]

theorem run_of_load {c : Command} (h : Inputs.load t env c.config? c.graph = .ok work) :
    (c.run env t).tree = (c.perform t work).tree ∧
      (c.run env t).result = (c.perform t work).result := by
  simp [run, h]

/-- A command that only reads leaves the files as they are, and so does every command whose settings or
    graph cannot be loaded. Generating makes at most the directories that are missing on the way to its
    output directory and writes at most the files of the units right inside. A command that is not
    stopped fails exactly where the diagnostics of the pass make it fail. -/
theorem run_touches_announced (env : Environment) (t : FileTree) (c : Command) :
    (c.isReadOnly = true → (c.run env t).tree = t) ∧
      ((∃ f, Config.effective t env c.config? c.graph = .error f) ∨
          (∃ f, DeclarationSet.load t c.graph = .error f) → (c.run env t).tree = t) ∧
      (∀ graph output? config? dryRun work, c = .generate graph output? config? dryRun →
        Inputs.load t env config? graph = .ok work →
        t.Touches (outputDirectory env t graph output? config?)
          (work.set.graph.run work.config).units (c.run env t).tree) ∧
      ∀ success, (c.run env t).result = .ok success →
        ∃ work, Inputs.load t env c.config? c.graph = .ok work ∧
          (success = false ↔ c.FailsOn (work.set.graph.run work.config).diagnostics) := by
  refine ⟨?_, ?_, ?_, ?_⟩
  · intro hread
    cases hload : Inputs.load t env c.config? c.graph with
    | error f => exact (run_of_load_error hload).1
    | ok work => exact (run_of_load hload).1.trans (perform_readOnly hread)
  · intro hfailed
    obtain ⟨f, hload⟩ := Inputs.load_error hfailed
    exact (run_of_load_error hload).1
  · rintro graph output? config? dryRun work rfl hload
    obtain ⟨htree, -⟩ := run_of_load (c := .generate graph output? config? dryRun) hload
    rw [htree, perform, generating_tree, outputDirectory_eq hload]
    exact writeUnits_touches t _ _ dryRun
  · intro success hresult
    cases hload : Inputs.load t env c.config? c.graph with
    | error f =>
        rw [(run_of_load_error hload).2] at hresult
        cases hresult
    | ok work =>
        rw [(run_of_load hload).2] at hresult
        exact ⟨work, rfl, perform_result hresult⟩

/-- A tree with nothing but a graph of one facade. -/
def usersTree : FileTree :=
  ⟨[(["graph"], .file (.text ("\x7b\"declarations\":[\x7b\"identity\":\"N.IUsers\"," ++
    "\"kind\":\"interface\",\"namespace\":\"N\"," ++
    "\"annotations\":[\x7b\"kind\":\"HttpFacade\"\x7d]\x7d]\x7d")))], by decide⟩

/-- An environment with an empty output directory, which names none. -/
def unnamed : Environment := fun name => if name = Config.outputDirVariable then some "" else none

def usersCommand : Command := .generate "graph" none none false

theorem usersCommand_touches_announced :
    (FileTree.entry? (usersCommand.run unnamed usersTree).tree
        ["Generated", "UsersController.g.cs"]).isSome = true ∧
      ∃ work, Inputs.load usersTree unnamed none "graph" = .ok work ∧
        usersTree.Touches "Generated" (work.set.graph.run work.config).units
          (usersCommand.run unnamed usersTree).tree := by
  have hwritten : (FileTree.entry? (usersCommand.run unnamed usersTree).tree
      ["Generated", "UsersController.g.cs"]).isSome = true := by
    decide +kernel
  have hdirectory : outputDirectory unnamed usersTree "graph" none none = "Generated" := by
    decide +kernel
  refine ⟨hwritten, ?_⟩
  cases hload : Inputs.load usersTree unnamed none "graph" with
  | error f =>
      rw [(run_of_load_error (c := usersCommand) hload).1] at hwritten
      exact absurd hwritten (by decide)
  | ok work =>
      obtain ⟨-, -, htouches, -⟩ := run_touches_announced unnamed usersTree usersCommand
      have h := htouches "graph" none none false work rfl hload
      rw [hdirectory] at h
      exact ⟨work, rfl, h⟩

end Command

end EndpointGen
