/- Derivation over any number of steps, and how far a walk sees it. A walk looks at the first names of a chain
   up to the bound; where no more names than that have a base type, this is all there is to see, also on
   a chain that goes round. -/
import EndpointGen.Proofs.Graph.Queries
import Mathlib.Data.Set.Card
import Mathlib.Logic.Relation

namespace EndpointGen

namespace DeclarationGraph

variable {g : DeclarationGraph} {identity ancestor : String} {k : Nat}

/-- The names that have a base type. -/
def based (g : DeclarationGraph) : Set String := {name | g.baseType? name ≠ none}

/-- The identity is the ancestor or derives from it, over any number of steps. -/
def DerivesFrom (g : DeclarationGraph) : String → String → Prop :=
  Relation.ReflTransGen fun name base => g.baseType? name = some base

theorem above_add (g : DeclarationGraph) (m n : Nat) (name : String) :
    g.above (m + n) name = (g.above m name).bind (g.above n) := by
  induction m generalizing name with
  | zero => simp [above]
  | succ m ih =>
      rw [Nat.succ_add, above, above, Option.bind_assoc]
      exact Option.bind_congr fun base _ => ih base

theorem above_succ_last (g : DeclarationGraph) (n : Nat) (name : String) :
    g.above (n + 1) name = (g.above n name).bind g.baseType? := by
  rw [above_add]
  refine Option.bind_congr fun last _ => ?_
  exact Option.bind_fun_some (g.baseType? last)

theorem derivesFrom_iff : g.DerivesFrom identity ancestor ↔ ∃ n, g.above n identity = some ancestor := by
  constructor
  · intro h
    induction h with
    | refl => exact ⟨0, rfl⟩
    | tail _ hbase ih =>
        obtain ⟨n, hn⟩ := ih
        exact ⟨n + 1, by rw [above_succ_last, hn]; exact hbase⟩
  · rintro ⟨n, hn⟩
    induction n generalizing identity with
    | zero =>
        obtain rfl : identity = ancestor := Option.some.inj hn
        exact .refl
    | succ n ih =>
        obtain ⟨base, hbase, hn⟩ := Option.bind_eq_some_iff.mp hn
        exact .head hbase (ih hn)

theorem ascentLog_cases (g : DeclarationGraph) (identity ancestor : String) :
    (g.ascentLog identity ancestor = [.baseChainTooLong identity] ↔
        g.ascent identity ancestor = .abandoned) ∧
      (g.ascentLog identity ancestor = [] ↔ g.ascent identity ancestor ≠ .abandoned) := by
  by_cases h : g.ascent identity ancestor = .abandoned
  · simp [ascentLog, h]
  · simp [ascentLog, h]

/-- Up to the first time that a chain meets the ancestor, no name on it comes twice: from a name that comes
    again the ancestor would be met sooner. -/
theorem above_injOn (hk : g.above k identity = some ancestor)
    (hfirst : ∀ j < k, g.above j identity ≠ some ancestor) :
    Set.InjOn (fun n => g.above n identity) {n | n < k} := by
  have hlater : ∀ i j, i < j → j < k → g.above i identity ≠ g.above j identity := by
    intro i j hij hj heq
    apply hfirst (i + (k - j)) (by omega)
    calc g.above (i + (k - j)) identity
        = (g.above j identity).bind (g.above (k - j)) := by rw [above_add, heq]
      _ = g.above (j + (k - j)) identity := (above_add ..).symm
      _ = some ancestor := by rw [Nat.add_sub_cancel' hj.le, hk]
  intro i hi j hj heq
  rcases Nat.lt_trichotomy i j with hlt | rfl | hgt
  · exact absurd heq (hlater i j hlt hj)
  · rfl
  · exact absurd heq.symm (hlater j i hgt hi)

theorem above_mapsTo (hk : g.above k identity = some ancestor) :
    Set.MapsTo (fun n => g.above n identity) {n | n < k} (some '' g.based) := by
  intro n hn
  obtain ⟨r, rfl⟩ : ∃ r, k = n + (r + 1) := Nat.exists_eq_add_of_lt hn
  rw [above_add] at hk
  obtain ⟨name, hname, hrest⟩ := Option.bind_eq_some_iff.mp hk
  refine ⟨name, ?_, hname.symm⟩
  intro hnone
  simp [above, hnone] at hrest

/-- The shortest way up takes no more steps than there are names with a base type. -/
theorem exists_above_le_encard (h : g.DerivesFrom identity ancestor) :
    ∃ k : Nat, k ≤ g.based.encard ∧ g.above k identity = some ancestor := by
  classical
  have hexists := derivesFrom_iff.mp h
  refine ⟨Nat.find hexists, ?_, Nat.find_spec hexists⟩
  have hinj := above_injOn (Nat.find_spec hexists) fun j hj => Nat.find_min hexists hj
  have hcount := Set.encard_le_encard_of_injOn (above_mapsTo (Nat.find_spec hexists)) hinj
  rwa [Set.Nat.encard_range, (Option.some_injective String).encard_image] at hcount

theorem derives_iff_derivesFrom (h : g.based.encard ≤ chainBound) :
    g.derives identity ancestor = true ↔ g.DerivesFrom identity ancestor := by
  constructor
  · intro hderives
    obtain ⟨k, -, hk⟩ := derives_iff.mp hderives
    exact derivesFrom_iff.mpr ⟨k, hk⟩
  · intro hderives
    obtain ⟨k, hle, hk⟩ := exists_above_le_encard hderives
    exact derives_iff.mpr ⟨k, by exact_mod_cast hle.trans h, hk⟩

/-- A walk finds what stands on the first 65 names of a chain, warns where none of them is the ancestor and
    the chain has no end there, and asks for the base types of the first 64. Where at most 64 names have
    a base type this decides derivation over any number of steps, which is transitive. -/
theorem walk_decides_derivation (g : DeclarationGraph) :
    (∀ k identity, g.above 0 identity = some identity ∧
        g.above (k + 1) identity = (g.above k identity).bind g.baseType?) ∧
      (∀ identity ancestor,
        (g.derives identity ancestor = true ↔ ∃ k ≤ 64, g.above k identity = some ancestor) ∧
          (g.ascentLog identity ancestor = [.baseChainTooLong identity] ↔
            ∀ k ≤ 64, ∃ name, g.above k identity = some name ∧ name ≠ ancestor) ∧
          (g.ascentLog identity ancestor = [] ↔
            ¬ ∀ k ≤ 64, ∃ name, g.above k identity = some name ∧ name ≠ ancestor) ∧
          ∀ g' : DeclarationGraph,
            (∀ k < 64, ∀ name, g.above k identity = some name →
              g'.baseType? name = g.baseType? name) →
            g'.ascent identity ancestor = g.ascent identity ancestor) ∧
      (g.based.encard ≤ 64 →
        (∀ identity ancestor,
          g.derives identity ancestor = true ↔ g.DerivesFrom identity ancestor) ∧
          ∀ a b c, g.derives a b = true → g.derives b c = true → g.derives a c = true) := by
  refine ⟨fun k identity => ⟨rfl, g.above_succ_last k identity⟩, ?_, ?_⟩
  · intro identity ancestor
    have habandoned := g.ascend_eq_abandoned_iff ancestor chainBound identity
    obtain ⟨hwarns, hsilent⟩ := g.ascentLog_cases identity ancestor
    refine ⟨derives_iff, hwarns.trans habandoned, hsilent.trans (not_congr habandoned), ?_⟩
    intro g' hagree
    exact ascend_congr hagree
  · intro hfew
    have hdecides : ∀ identity ancestor,
        g.derives identity ancestor = true ↔ g.DerivesFrom identity ancestor :=
      fun _ _ => derives_iff_derivesFrom hfew
    refine ⟨hdecides, ?_⟩
    intro a b c hab hbc
    rw [hdecides] at hab hbc ⊢
    exact Relation.ReflTransGen.trans hab hbc

theorem based_ofList_encard_le (ds : List Declaration) : (ofList ds).based.encard ≤ ds.length := by
  have hsubset : (ofList ds).based ⊆ ((ds.map (·.identity)).toFinset : Set String) := by
    intro name hname
    obtain ⟨base, hbase⟩ := Option.ne_none_iff_exists'.mp hname
    obtain ⟨d, hd, -⟩ := Option.bind_eq_some_iff.mp hbase
    have hidentity : d.identity = name := by simpa using List.find?_some hd
    simpa using ⟨d, List.mem_of_find?_eq_some hd, hidentity⟩
  have hcard : (ds.map (·.identity)).toFinset.card ≤ ds.length := by
    simpa using List.toFinset_card_le (ds.map (·.identity))
  calc (ofList ds).based.encard
      ≤ ((ds.map (·.identity)).toFinset : Set String).encard := Set.encard_le_encard hsubset
    _ = (ds.map (·.identity)).toFinset.card := Set.encard_coe_eq_coe_finsetCard _
    _ ≤ ds.length := by exact_mod_cast hcard

/-- A chain of three and two names that are each other's base type. -/
def ringGraph : DeclarationGraph :=
  .ofList
    [ .bare .classDecl "Acme.Root" "Acme",
      (Declaration.bare .classDecl "Acme.Middle" "Acme").basedOn "Acme.Root",
      (Declaration.bare .classDecl "Acme.Leaf" "Acme").basedOn "Acme.Middle",
      (Declaration.bare .classDecl "Acme.Left" "Acme").basedOn "Acme.Right",
      (Declaration.bare .classDecl "Acme.Right" "Acme").basedOn "Acme.Left" ]

theorem ringGraph_decided :
    ringGraph.based.encard ≤ 64 ∧ ringGraph.DerivesFrom "Acme.Leaf" "Acme.Root" ∧
      ringGraph.DerivesFrom "Acme.Left" "Acme.Right" ∧
      ¬ ringGraph.DerivesFrom "Acme.Left" "Acme.Root" := by
  have hfew : ringGraph.based.encard ≤ 64 := by
    refine (based_ofList_encard_le _).trans ?_
    exact_mod_cast (by decide : 5 ≤ 64)
  obtain ⟨-, -, hdecided⟩ := walk_decides_derivation ringGraph
  have hdecides := (hdecided hfew).1
  refine ⟨hfew, ?_, ?_, ?_⟩
  · rw [← hdecides]
    decide
  · rw [← hdecides]
    decide
  · rw [← hdecides]
    decide

end DeclarationGraph

end EndpointGen
