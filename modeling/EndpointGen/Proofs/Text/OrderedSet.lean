/- Finite sets as ascending lists: a set has the elements it is made from, and is known by them. -/
import Mathlib.Data.List.Sort
import EndpointGen.Text.OrderedSet

namespace EndpointGen

namespace OrderedSet

variable {α : Type} {order : α → α → Ordering} {x y : α} {xs ys : List α}

theorem mem_insert [Std.LawfulEqCmp order] : y ∈ insert order x xs ↔ y = x ∨ y ∈ xs := by
  induction xs with
  | nil => simp [insert]
  | cons z xs ih =>
      cases hcompare : order x z with
      | lt => simp [insert, hcompare]
      | eq =>
          obtain rfl := Std.LawfulEqCmp.eq_of_compare hcompare
          simp [insert, hcompare]
      | gt => simp only [insert, hcompare, List.mem_cons, ih, or_left_comm]

theorem mem_ofList [Std.LawfulEqCmp order] : y ∈ ofList order xs ↔ y ∈ xs := by
  induction xs with
  | nil => exact .rfl
  | cons x xs ih =>
      have hinsert : y ∈ ofList order (x :: xs) ↔ y = x ∨ y ∈ ofList order xs := mem_insert
      rw [hinsert, ih, List.mem_cons]

def Ascending (order : α → α → Ordering) (xs : List α) : Prop :=
  xs.Pairwise fun x y => order x y = .lt

theorem Ascending.insert [Std.TransCmp order] [Std.LawfulEqCmp order] (h : Ascending order xs)
    (x : α) : Ascending order (insert order x xs) := by
  induction xs with
  | nil => exact List.pairwise_singleton ..
  | cons z xs ih =>
      obtain ⟨hz, hrest⟩ := List.pairwise_cons.mp h
      cases hcompare : order x z with
      | lt =>
          simp only [OrderedSet.insert, hcompare]
          refine List.pairwise_cons.mpr ⟨?_, h⟩
          intro y hy
          rcases List.mem_cons.mp hy with rfl | hy
          · exact hcompare
          · exact Std.TransCmp.lt_trans hcompare (hz y hy)
      | eq =>
          simp only [OrderedSet.insert, hcompare]
          exact h
      | gt =>
          simp only [OrderedSet.insert, hcompare]
          refine List.pairwise_cons.mpr ⟨?_, ih hrest⟩
          intro y hy
          rcases mem_insert.mp hy with rfl | hy
          · exact Std.OrientedCmp.gt_iff_lt.mp hcompare
          · exact hz y hy

theorem ofList_ascending [Std.TransCmp order] [Std.LawfulEqCmp order] (xs : List α) :
    Ascending order (ofList order xs) := by
  induction xs with
  | nil => exact .nil
  | cons x xs ih => exact ih.insert x

/-- Two ascending lists with the same elements are equal. -/
theorem Ascending.ext [Std.TransCmp order] (hx : Ascending order xs) (hy : Ascending order ys)
    (h : ∀ z, z ∈ xs ↔ z ∈ ys) : xs = ys := by
  have hasymm : ∀ x y, order x y = .lt → order y x ≠ .lt := by
    intro x y hxy hyx
    rw [Std.OrientedCmp.gt_iff_lt.mpr hxy] at hyx
    cases hyx
  have : Std.Irrefl fun x y => order x y = .lt := ⟨fun x hlt => hasymm x x hlt hlt⟩
  have : Std.Antisymm fun x y => order x y = .lt := ⟨fun x y hxy hyx => absurd hyx (hasymm x y hxy)⟩
  exact List.Pairwise.eq_of_mem_iff hx hy h

theorem ofList_congr [Std.TransCmp order] [Std.LawfulEqCmp order] (h : ∀ z, z ∈ xs ↔ z ∈ ys) :
    ofList order xs = ofList order ys := by
  refine (ofList_ascending xs).ext (ofList_ascending ys) fun z => ?_
  rw [mem_ofList, mem_ofList, h]

end OrderedSet

variable {name : String} {xs ys : List String}

theorem mem_nameSet : name ∈ nameSet xs ↔ name ∈ xs := OrderedSet.mem_ofList

/-- A set with further names is the set of all the names. -/
theorem nameSet_append (xs ys : List String) : nameSet (nameSet xs ++ ys) = nameSet (xs ++ ys) := by
  refine OrderedSet.ofList_congr fun name => ?_
  rw [List.mem_append, List.mem_append, mem_nameSet]

end EndpointGen
