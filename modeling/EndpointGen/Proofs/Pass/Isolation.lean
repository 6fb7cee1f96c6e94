/- Isolation of declarations: one more declaration, wherever it stands and however malformed it is, changes
   nothing that a pass makes of declarations that do not mention it. -/
import EndpointGen.Proofs.Dto.Agreement
import EndpointGen.Proofs.Facade.Endpoints
import EndpointGen.Proofs.Pass.Ownership

namespace EndpointGen

/-- The second list is the first with a block put in at one place. -/
def Inserts {α : Type} (block xs ys : List α) : Prop :=
  ∃ before after, xs = before ++ after ∧ ys = before ++ block ++ after

namespace Inserts

variable {α β : Type} {block xs ys : List α}

theorem nothing (xs : List α) : Inserts [] xs xs := ⟨xs, [], by simp, by simp⟩

theorem eq_of_nil (h : Inserts [] xs ys) : ys = xs := by
  obtain ⟨before, after, rfl, rfl⟩ := h
  simp

theorem cons (x : α) (h : Inserts block xs ys) : Inserts block (x :: xs) (x :: ys) := by
  obtain ⟨before, after, rfl, rfl⟩ := h
  exact ⟨x :: before, after, rfl, rfl⟩

theorem append_right (h : Inserts block xs ys) (zs : List α) :
    Inserts block (xs ++ zs) (ys ++ zs) := by
  obtain ⟨before, after, rfl, rfl⟩ := h
  exact ⟨before, after ++ zs, by simp, by simp⟩

theorem append_left (zs : List α) (h : Inserts block xs ys) :
    Inserts block (zs ++ xs) (zs ++ ys) := by
  obtain ⟨before, after, rfl, rfl⟩ := h
  exact ⟨zs ++ before, after, by simp, by simp⟩

theorem flatMap (h : Inserts block xs ys) {f f' : α → List β} (hf : ∀ x ∈ xs, f' x = f x) :
    Inserts (block.flatMap f') (xs.flatMap f) (ys.flatMap f') := by
  obtain ⟨before, after, rfl, rfl⟩ := h
  rw [← List.flatMap_congr hf]
  exact ⟨before.flatMap f', after.flatMap f', by simp, by simp⟩

theorem filterMap (h : Inserts block xs ys) {f f' : α → Option β} (hf : ∀ x ∈ xs, f' x = f x) :
    Inserts (block.filterMap f') (xs.filterMap f) (ys.filterMap f') := by
  obtain ⟨before, after, rfl, rfl⟩ := h
  rw [← List.filterMap_congr hf]
  exact ⟨before.filterMap f', after.filterMap f', by simp, by simp⟩

theorem map (h : Inserts block xs ys) {f f' : α → β} (hf : ∀ x ∈ xs, f' x = f x) :
    Inserts (block.map f') (xs.map f) (ys.map f') := by
  obtain ⟨before, after, rfl, rfl⟩ := h
  rw [← List.map_congr_left hf]
  exact ⟨before.map f', after.map f', by simp, by simp⟩

end Inserts

namespace Sighting

variable {seen : List String} {d : Declaration} {before after : List Declaration}

/-- A fragment of an identity that no other fragment has is sighted as new, and the others as without
    it. -/
theorem sequence_insert (hseen : d.identity ∉ seen)
    (hnew : ∀ e ∈ before ++ after, e.identity ≠ d.identity) :
    ∃ s earlier, d.identity ∉ earlier ∧ Of earlier d s ∧
      Inserts [s] (sequence seen (before ++ after)) (sequence seen (before ++ d :: after)) := by
  induction before generalizing seen with
  | nil =>
      refine ⟨of seen d, seen, hseen, of_cases seen d, [], sequence seen after, rfl, ?_⟩
      have hrest : sequence ((of seen d).remember seen) after = sequence seen after := by
        refine sequence_congr fun e he => ?_
        rw [mem_remember, or_iff_right]
        rintro ⟨e', he', heq⟩
        obtain rfl := found?_of he'
        exact hnew e he heq.symm
      simp [sequence, hrest]
  | cons b before ih =>
      have hseen' : d.identity ∉ (of seen b).remember seen := by
        rw [mem_remember]
        rintro (⟨e, he, heq⟩ | hmem)
        · obtain rfl := found?_of he
          exact hnew e (by simp) heq
        · exact hseen hmem
      obtain ⟨s, earlier, hearlier, hof, hinserts⟩ :=
        ih hseen' fun e he => hnew e (List.mem_cons_of_mem b he)
      exact ⟨s, earlier, hearlier, hof, hinserts.cons _⟩

end Sighting

/-- What one more declaration of the identity adds to what a graph resolves to: at most one descriptor of
    its own, and one block of diagnostics located at it. -/
structure Resolved.Adds (identity : String) (r r' : Resolved) : Prop where
  descriptors : ∃ fs ts, fs.length + ts.length ≤ 1 ∧ (∀ f ∈ fs, f.source = identity) ∧
    (∀ t ∈ ts, t.source = identity) ∧ Inserts fs r.facades r'.facades ∧ Inserts ts r.dtos r'.dtos
  diagnostics : ∃ block, (∀ e ∈ block, e.LocatedAt identity) ∧
    Inserts block r.diagnostics r'.diagnostics

/-- A pass with the same units, and one more block of diagnostics, located at the identity. -/
structure Pass.AddsFindings (identity : String) (p p' : Pass) : Prop where
  units : p'.units = p.units
  diagnostics : ∃ block, (∀ e ∈ block, e.LocatedAt identity) ∧
    Inserts block p.diagnostics p'.diagnostics

namespace Pass

/-- Work of which nothing is taken adds its findings and its refusal to a pass, and nothing else. -/
theorem addsFindings_of_insert {p q : Pass} (hsame : p.SameUnits q)
    (hdiagnostics : p.diagnostics = q.diagnostics) {w : Pending} {ws ws' : List Pending}
    (hinserts : Inserts [w] ws ws') (hw : ∀ e ∈ w.diagnostics, e.LocatedAt w.identity)
    (hnone : ¬ (ws'.foldl Pass.commit p).Owns w.identity) :
    (ws.foldl Pass.commit q).AddsFindings w.identity (ws'.foldl Pass.commit p) := by
  obtain ⟨before, after, rfl, rfl⟩ := hinserts
  simp only [List.foldl_append, List.foldl_cons, List.foldl_nil] at hnone ⊢
  obtain ⟨hbefore, ds, hp, hq⟩ := hsame.foldl_commit before
  have htaken := taken_eq_nil hnone
  -- Up to the work both passes are alike, and they stay so, since nothing of it is taken.
  generalize before.foldl Pass.commit p = p₁ at *
  generalize before.foldl Pass.commit q = q₁ at *
  have hkept : (p₁.commit w).SameUnits q₁ := by
    have hidle := sameUnits_commit htaken
    exact ⟨hidle.units.trans hbefore.units, hidle.owners.trans hbefore.owners⟩
  obtain ⟨hafter, es, hp', hq'⟩ := hkept.foldl_commit after
  refine ⟨hafter.units, w.diagnostics ++ (p₁.refusal w).toList, ?_, q.diagnostics ++ ds, es, ?_, ?_⟩
  · intro e he
    rcases List.mem_append.mp he with he | he
    · exact hw e he
    · obtain ⟨found, -, rfl⟩ := Option.map_eq_some_iff.mp (Option.mem_toList.mp he)
      exact .inl rfl
  · rw [hq', hq]
  · rw [hp', commit_diagnostics, hp, hdiagnostics]

end Pass

/-- One graph is the other with a declaration added that nothing else mentions: they agree on all other
    names, and the declaration is discovered in one of the two lists or not at all. -/
structure DeclarationGraph.Joins (d : Declaration) (g g' : DeclarationGraph) : Prop where
  declared : d ∈ g'.declarations
  agree : AgreeOn (· ≠ d.identity) g g'
  names : ∀ e ∈ g.declarations, ∀ n ∈ e.names, n ≠ d.identity
  discovered :
    (g'.discover.dtos = g.discover.dtos ∧ ∃ new, (new = [] ∨ new = [d]) ∧
      Inserts new g.discover.facades g'.discover.facades) ∨
    (g'.discover.facades = g.discover.facades ∧ Inserts [d] g.discover.dtos g'.discover.dtos)

namespace DeclarationGraph

theorem joins_insert {before after : List Declaration} {d : Declaration}
    (hnew : ∀ e ∈ before ++ after, d.identity ∉ e.names) :
    Joins d (ofList (before ++ after)) (ofList (before ++ d :: after)) := by
  have hnames : ∀ e ∈ before ++ after, ∀ n ∈ e.names, n ≠ d.identity := by
    rintro e he n hn rfl
    exact hnew e he hn
  refine ⟨by simp [ofList], .ofList ?_ fun e he _ => hnames e he, hnames, ?_⟩
  · intro name hname
    have hd : (d.identity == name) = false := beq_false_of_ne hname.symm
    simp [fragments, ofList, hd]
  · have hseen : d.identity ∉ [] := List.not_mem_nil
    obtain ⟨s, earlier, hearlier, hof, hinserts⟩ :=
      Sighting.sequence_insert hseen fun e he => hnames e he _ e.identity_mem_names
    have hfacades := hinserts.filterMap (f := Sighting.facade?) fun _ _ => rfl
    have hdtos := hinserts.filterMap (f := Sighting.dto?) fun _ _ => rfl
    cases hof with
    | unmarked => exact .inl ⟨hdtos.eq_of_nil, [], .inl rfl, hfacades⟩
    | repeated hmem => exact absurd hmem hearlier
    | facade => exact .inl ⟨hdtos.eq_of_nil, [d], .inr rfl, hfacades⟩
    | dto => exact .inr ⟨hfacades.eq_of_nil, hdtos⟩

namespace Joins

variable {d e : Declaration} {g g' : DeclarationGraph} {config : Config}

theorem facade (h : Joins d g g') (he : e ∈ g.discover.facades) :
    Facade.resolve g' config e = Facade.resolve g config e := by
  have hmem := (marked_of_mem_facades he).1
  exact Facade.resolve_eq_of_members
    (h.agree.alike.members _ (h.names e hmem _ e.identity_mem_names))

theorem dto_names (h : Joins d g g') (he : e ∈ g.discover.dtos) : ∀ n ∈ e.names, n ≠ d.identity :=
  h.names e (marked_of_mem_dtos he).1

theorem pending (h : Joins d g g') (config : Config) :
    g'.pending config = g.pending config ∨
      ∃ w, w.identity = d.identity ∧ (∀ e ∈ w.diagnostics, e.LocatedAt d.identity) ∧
        Inserts [w] (g.pending config) (g'.pending config) := by
  have hfacade : ∀ e ∈ g.discover.facades,
      Pending.ofFacade g' config e = Pending.ofFacade g config e := by
    intro e he
    rw [Pending.ofFacade, Pending.ofFacade, h.facade he]
  have hdto : ∀ e ∈ g.discover.dtos, Pending.ofDto g' config e = Pending.ofDto g config e :=
    fun e he => Dto.pending_agree h.agree.alike.propertiesAlike (h.dto_names he)
  rcases h.discovered with ⟨hdtos, new, hnew, hfacades⟩ | ⟨hfacades, hdtos⟩
  · have hwork : Inserts (new.map (Pending.ofFacade g' config)) (g.pending config)
        (g'.pending config) := by
      rw [DeclarationGraph.pending, DeclarationGraph.pending, hdtos, List.map_congr_left hdto]
      exact (hfacades.map hfacade).append_right _
    rcases hnew with rfl | rfl
    · exact .inl hwork.eq_of_nil
    · exact .inr ⟨_, rfl, fun e he => Facade.resolve_located he, hwork⟩
  · have hwork : Inserts [Pending.ofDto g' config d] (g.pending config) (g'.pending config) := by
      rw [DeclarationGraph.pending, DeclarationGraph.pending, hfacades,
        List.map_congr_left hfacade]
      exact (hdtos.map hdto).append_left _
    exact .inr ⟨_, rfl, fun e he => Dto.resolve_located he, hwork⟩

theorem descriptors (h : Joins d g g') (config : Config) :
    ∃ fs ts, fs.length + ts.length ≤ 1 ∧ (∀ f ∈ fs, f.source = d.identity) ∧
      (∀ t ∈ ts, t.source = d.identity) ∧
      Inserts fs (g.resolveAll config).facades (g'.resolveAll config).facades ∧
      Inserts ts (g.resolveAll config).dtos (g'.resolveAll config).dtos := by
  have hfacade : ∀ e ∈ g.discover.facades,
      (Facade.resolve g' config e).value? = (Facade.resolve g config e).value? :=
    fun e he => by rw [h.facade he]
  have hdto : ∀ e ∈ g.discover.dtos, (Dto.resolve g' e).value? = (Dto.resolve g e).value? :=
    fun e he => by rw [Dto.resolve_agree h.agree.alike.propertiesAlike (h.dto_names he)]
  simp only [resolveAll, List.filterMap_map]
  rcases h.discovered with ⟨hdtos, new, hnew, hfacades⟩ | ⟨hfacades, hdtos⟩
  · refine ⟨_, [], ?_, ?_, by simp, hfacades.filterMap hfacade, ?_⟩
    · have hlength : new.length ≤ 1 := by rcases hnew with rfl | rfl <;> simp
      exact Nat.le_trans (List.length_filterMap_le _ _) hlength
    · intro f hf
      obtain ⟨e, he, hvalue⟩ := List.mem_filterMap.mp hf
      obtain rfl : e = d := by
        rcases hnew with rfl | rfl
        · cases he
        · exact List.mem_singleton.mp he
      exact Facade.source_of_resolve hvalue
    · rw [hdtos]
      exact List.filterMap_congr hdto ▸ Inserts.nothing _
  · refine ⟨[], _, ?_, by simp, ?_, ?_, hdtos.filterMap hdto⟩
    · rw [List.length_nil, Nat.zero_add]
      exact List.length_filterMap_le _ [d]
    · intro t ht
      obtain ⟨e, he, hvalue⟩ := List.mem_filterMap.mp ht
      obtain rfl := List.mem_singleton.mp he
      exact Dto.source_of_resolve h.declared hvalue
    · rw [hfacades]
      exact List.filterMap_congr hfacade ▸ Inserts.nothing _

theorem adds (h : Joins d g g') (config : Config) :
    (g.resolveAll config).Adds d.identity (g'.resolveAll config) := by
  refine ⟨h.descriptors config, ?_⟩
  rw [← flatMap_diagnostics_pending, ← flatMap_diagnostics_pending]
  rcases h.pending config with hsame | ⟨w, -, hlocated, hinserts⟩
  · rw [hsame]
    exact ⟨[], by simp, .nothing _⟩
  · refine ⟨w.diagnostics, hlocated, ?_⟩
    simpa using hinserts.flatMap (f := Pending.diagnostics) fun _ _ => rfl

theorem addsFindings (h : Joins d g g') (hnone : ¬ (g'.run config).Owns d.identity) :
    (g.run config).AddsFindings d.identity (g'.run config) := by
  have hstart : ({ Pass.empty with log := g'.discover.log } : Pass).SameUnits
      { Pass.empty with log := g.discover.log } := ⟨rfl, rfl⟩
  rcases h.pending config with hsame | ⟨w, hidentity, hlocated, hinserts⟩
  · obtain ⟨hunits, ds, hp, hq⟩ := hstart.foldl_commit (g.pending config)
    refine ⟨?_, [], by simp, ?_⟩
    · rw [run, run, hsame]
      exact hunits.units
    · rw [run, run, hsame]
      exact hp.trans hq.symm ▸ Inserts.nothing _
  · rw [← hidentity] at hnone hlocated ⊢
    obtain ⟨hunits, hdiagnostics⟩ :=
      Pass.addsFindings_of_insert hstart rfl hinserts hlocated hnone
    exact ⟨hunits, hdiagnostics⟩

end Joins

/-- A declaration that no other mentions adds at most one descriptor and one block of diagnostics, wherever
    it stands, and where a pass has none of its units all units are as without it. -/
theorem insert_isolated {before after : List Declaration} {d : Declaration}
    (hnew : ∀ e ∈ before ++ after, d.identity ∉ e.names) (config : Config) :
    ((ofList (before ++ after)).resolveAll config).Adds d.identity
        ((ofList (before ++ d :: after)).resolveAll config) ∧
      (¬ ((ofList (before ++ d :: after)).run config).Owns d.identity →
        ((ofList (before ++ after)).run config).AddsFindings d.identity
          ((ofList (before ++ d :: after)).run config)) := by
  have hjoins := joins_insert hnew
  exact ⟨hjoins.adds config, hjoins.addsFindings⟩

def pingFacade : Declaration :=
  { Declaration.bare .interfaceDecl "Acme.IPing" "Acme" with
    annotations := [.bare "HttpFacade"]
    members := [{ Member.bare .method "Ping" (.primitive "string") with annotations := [.bare "Get"] }] }

/-- A marked class without a partial fragment, whose entity is the facade. -/
def strayDto : Declaration :=
  { Declaration.bare .classDecl "Acme.StrayDto" "Acme" with
    annotations := [⟨"Dto", [.named "Acme.IPing"], [], []⟩] }

/-- Between a facade and its further fragment the stray class leaves one error and nothing else. -/
theorem strayDto_isolated :
    (∀ e ∈ [pingFacade] ++ [pingFacade.asPartial], strayDto.identity ∉ e.names) ∧
      ¬ ((ofList [pingFacade, strayDto, pingFacade.asPartial]).run .default).Owns
        strayDto.identity ∧
      ((ofList [pingFacade, pingFacade.asPartial]).run .default).AddsFindings strayDto.identity
        ((ofList [pingFacade, strayDto, pingFacade.asPartial]).run .default) := by
  have hnew : ∀ e ∈ [pingFacade] ++ [pingFacade.asPartial], strayDto.identity ∉ e.names := by
    decide
  have hnone : ¬ ((ofList [pingFacade, strayDto, pingFacade.asPartial]).run .default).Owns
      strayDto.identity := by
    have howners : ((ofList [pingFacade, strayDto, pingFacade.asPartial]).run .default).owners =
        [("PingController.g.cs", "Acme.IPing")] := rfl
    rintro ⟨key, hkey⟩
    rw [howners] at hkey
    have hidentity : strayDto.identity = "Acme.IPing" := (Prod.mk.inj (List.mem_singleton.mp hkey)).2
    exact absurd hidentity (by decide)
  exact ⟨hnew, hnone, (insert_isolated hnew .default).2 hnone⟩

end DeclarationGraph

end EndpointGen
