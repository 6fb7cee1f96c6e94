/- Fragments of an identity, and the names on a base-type chain: a walk reaches an ancestor exactly
   where the ancestor is one of the first names of the chain, and is given up exactly where there are as many
   names as the bound allows and none of them is the ancestor. -/
import EndpointGen.Graph.Basic

namespace EndpointGen

namespace DeclarationGraph

theorem mem_fragments {g : DeclarationGraph} {identity : String} {d : Declaration} :
    d ∈ g.fragments identity ↔ d ∈ g.declarations ∧ d.identity = identity := by
  simp [fragments]

/-- The name that stands `n` steps above a name on its base-type chain. -/
def above (g : DeclarationGraph) : Nat → String → Option String
  | 0, name => some name
  | n + 1, name => (g.baseType? name).bind (g.above n)

theorem above_succ {g : DeclarationGraph} {name base : String} (h : g.baseType? name = some base)
    (n : Nat) : g.above (n + 1) name = g.above n base := by
  simp [above, h]

/-- Follows the recursion of the walk: a step that goes on moves every name one place down. -/
theorem ascend_eq_reached_iff (g : DeclarationGraph) (ancestor : String) (steps : Nat)
    (name : String) :
    g.ascend ancestor steps name = .reached ↔ ∃ n ≤ steps, g.above n name = some ancestor := by
  induction steps generalizing name with
  | zero =>
      by_cases h : name = ancestor
      · simp [ascend, above, h]
      · simp [ascend, above, h]
  | succ steps ih =>
      by_cases h : name = ancestor
      · simp only [ascend, if_pos h, true_iff]
        exact ⟨0, Nat.zero_le _, by simp [above, h]⟩
      · have start : ∀ n, g.above n name = some ancestor → n ≠ 0 := by
          rintro n hn rfl
          exact h (by simpa [above] using hn)
        cases hb : g.baseType? name with
        | none =>
            simp only [ascend, if_neg h, hb, reduceCtorEq, false_iff]
            rintro ⟨n, -, hn⟩
            cases n with
            | zero => exact start 0 hn rfl
            | succ n => simp [above, hb] at hn
        | some base =>
            simp only [ascend, if_neg h, hb, ih base]
            constructor
            · rintro ⟨n, hle, hn⟩
              exact ⟨n + 1, Nat.succ_le_succ hle, by rw [above_succ hb, hn]⟩
            · rintro ⟨n, hle, hn⟩
              cases n with
              | zero => exact absurd rfl (start 0 hn)
              | succ n => exact ⟨n, Nat.le_of_succ_le_succ hle, by rw [← above_succ hb, hn]⟩

/-- A walk that is given up has seen names up to the bound, none of them the ancestor. -/
theorem ascend_eq_abandoned_iff (g : DeclarationGraph) (ancestor : String) (steps : Nat)
    (name : String) :
    g.ascend ancestor steps name = .abandoned ↔
      ∀ n ≤ steps, ∃ m, g.above n name = some m ∧ m ≠ ancestor := by
  induction steps generalizing name with
  | zero =>
      by_cases h : name = ancestor
      · simp [ascend, above, h]
      · simp [ascend, above, h]
  | succ steps ih =>
      by_cases h : name = ancestor
      · simp only [ascend, if_pos h, reduceCtorEq, false_iff]
        intro hall
        obtain ⟨m, hm, hne⟩ := hall 0 (Nat.zero_le _)
        exact hne ((Option.some.inj hm).symm.trans h)
      · cases hb : g.baseType? name with
        | none =>
            simp only [ascend, if_neg h, hb, reduceCtorEq, false_iff]
            intro hall
            obtain ⟨m, hm, -⟩ := hall 1 (Nat.le_add_left 1 steps)
            simp [above, hb] at hm
        | some base =>
            simp only [ascend, if_neg h, hb, ih base]
            constructor
            · intro hall n hn
              cases n with
              | zero => exact ⟨name, rfl, h⟩
              | succ n =>
                  rw [above_succ hb]
                  exact hall n (Nat.le_of_succ_le_succ hn)
            · intro hall n hn
              rw [← above_succ hb]
              exact hall (n + 1) (Nat.succ_le_succ hn)

theorem ascend_congr {g g' : DeclarationGraph} {name ancestor : String} {steps : Nat}
    (h : ∀ n < steps, ∀ m, g.above n name = some m → g'.baseType? m = g.baseType? m) :
    g'.ascend ancestor steps name = g.ascend ancestor steps name := by
  induction steps generalizing name with
  | zero => rfl
  | succ steps ih =>
      have hhere : g'.baseType? name = g.baseType? name := h 0 (Nat.succ_pos steps) name rfl
      by_cases hmet : name = ancestor
      · simp [ascend, hmet]
      · cases hb : g.baseType? name with
        | none => simp [ascend, hmet, hhere, hb]
        | some base =>
            have hrest : g'.ascend ancestor steps base = g.ascend ancestor steps base := by
              apply ih
              intro n hn m hm
              exact h (n + 1) (Nat.succ_lt_succ hn) m (by rw [above_succ hb, hm])
            simp [ascend, hmet, hhere, hb, hrest]

theorem derives_iff {g : DeclarationGraph} {identity ancestor : String} :
    g.derives identity ancestor = true ↔ ∃ n ≤ chainBound, g.above n identity = some ancestor := by
  rw [← ascend_eq_reached_iff, derives, ascent]
  exact beq_iff_eq

variable {g g' : DeclarationGraph} {name base ancestor : String}

theorem derives_of_base (h : g.baseType? name = some base) : g.derives name base = true := by
  have habove : g.above 1 name = some base := by simp [above, h]
  exact derives_iff.mpr ⟨1, by decide, habove⟩

theorem eq_of_derives_baseless (hbase : g.baseType? name = none)
    (h : g.derives name ancestor = true) : name = ancestor := by
  obtain ⟨n, -, hn⟩ := derives_iff.mp h
  cases n with
  | zero => exact Option.some.inj hn
  | succ n => simp [above, hbase] at hn

/-- A chain that ends at the name, or goes round on the spot, meets no other name there. -/
theorem ascend_at_end (hend : g.baseType? name = none ∨ g.baseType? name = some name)
    (hne : name ≠ ancestor) (steps : Nat) : g.ascend ancestor steps name ≠ .reached := by
  induction steps with
  | zero => simp [ascend, hne]
  | succ steps ih =>
      rcases hend with hbase | hbase
      · simp [ascend, hne, hbase]
      · simpa [ascend, hne, hbase] using ih

/-- A name that names itself as its base is the end of a chain, to those who look for an ancestor. -/
theorem derives_congr_of_end (hother : ∀ n, n ≠ name → g'.baseType? n = g.baseType? n)
    (hend : g.baseType? name = none ∨ g.baseType? name = some name)
    (hend' : g'.baseType? name = none ∨ g'.baseType? name = some name) (start ancestor : String) :
    g'.derives start ancestor = g.derives start ancestor := by
  have hreached : ∀ steps start, g'.ascend ancestor steps start = .reached ↔
      g.ascend ancestor steps start = .reached := by
    intro steps
    induction steps with
    | zero => exact fun start => Iff.rfl
    | succ steps ih =>
        intro start
        by_cases hmet : start = ancestor
        · simp [ascend, hmet]
        · by_cases hname : start = name
          · subst hname
            exact iff_of_false (ascend_at_end hend' hmet _) (ascend_at_end hend hmet _)
          · simp only [ascend, if_neg hmet, hother start hname]
            cases g.baseType? start with
            | none => exact Iff.rfl
            | some base => exact ih base
  rw [Bool.eq_iff_iff, derives, derives, ascent, ascent, beq_iff_eq, beq_iff_eq]
  exact hreached chainBound start

end DeclarationGraph

end EndpointGen
