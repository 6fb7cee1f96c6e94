/- Lists in restated annotations. The list of arguments leaves out what has no text, an array literal does
   not: it is written as it should be exactly where no array in it has an item without text. Texts are
   compared by their lengths, since each item that is left out takes its separator with it. -/
import EndpointGen.Source.Literal
import Mathlib.Algebra.Order.BigOperators.Group.List
import Mathlib.Algebra.Order.Ring.Nat

namespace EndpointGen

open Text

/-- Items between an opening and a closing text, nothing at all where there are no items. -/
def enclosed (opening closing : String) : List String → String
  | [] => ""
  | ts => opening ++ commaSeparated ts ++ closing

/-- The length of items that are written with a separator after each. -/
def room (ts : List String) : Nat := (ts.map fun t => t.length + 2).sum

theorem length_commaSeparated {ts : List String} (h : ts ≠ []) :
    (commaSeparated ts).length + 2 = room ts := by
  induction ts with
  | nil => exact absurd rfl h
  | cons t ts ih =>
      cases ts with
      | nil => rfl
      | cons u us =>
          have hrest := ih (List.cons_ne_nil u us)
          have hroom : room (t :: u :: us) = t.length + 2 + room (u :: us) := List.sum_cons
          have hcomma : (", " : String).length = 2 := rfl
          rw [hroom, ← hrest, commaSeparated, String.length_append, String.length_append, hcomma]
          · omega
          · exact List.cons_ne_nil u us

theorem length_enclosed {ts : List String} (h : ts ≠ []) (opening closing : String) :
    (enclosed opening closing ts).length + 2 = opening.length + closing.length + room ts := by
  have hitems := length_commaSeparated h
  rw [enclosed, String.length_append, String.length_append]
  · omega
  · exact h

theorem length_parenthesized (ts : List String) : (enclosed "(" ")" ts).length = room ts := by
  by_cases h : ts = []
  · subst h
    rfl
  · have hlength := length_enclosed h "(" ")"
    have hopening : ("(" : String).length = 1 := rfl
    have hclosing : (")" : String).length = 1 := rfl
    omega

/-- The room of an item that is left out where it has no text, after a label where it has one. -/
def slot (label : Nat) (text : String) : Nat := if text = "" then 0 else label + text.length + 2

section Slot

variable {label : Nat} {s t : String}

theorem slot_empty (label : Nat) : slot label "" = 0 := rfl

theorem slot_of_ne (label : Nat) (h : t ≠ "") : slot label t = label + t.length + 2 := if_neg h

theorem slot_le (label : Nat) (h : s.length ≤ t.length) : slot label s ≤ slot label t := by
  unfold slot
  by_cases hs : s = ""
  · simp [hs]
  · have ht : t ≠ "" := by
      rintro rfl
      exact hs (String.length_eq_zero_iff.mp (Nat.le_zero.mp h))
    simp only [if_neg hs, if_neg ht]
    omega

theorem slot_lt (label : Nat) (h : s.length < t.length) : slot label s < slot label t := by
  have ht : t ≠ "" := by
    rintro rfl
    exact Nat.not_lt_zero _ h
  unfold slot
  rw [if_neg ht]
  split <;> omega

theorem slot_zero_le (h : s.length ≤ t.length) : slot 0 s ≤ t.length + 2 := by
  unfold slot
  split <;> omega

theorem slot_zero_lt (h : s = "" ∨ s.length < t.length) : slot 0 s < t.length + 2 := by
  unfold slot
  rcases h with rfl | h
  · simp
  · split <;> omega

end Slot

theorem room_map {α : Type} (f : α → String) (xs : List α) :
    room (xs.map f) = (xs.map fun x => (f x).length + 2).sum := by
  rw [room, List.map_map]
  rfl

/-- The room of items with a label before each, where items without text are left out, label and all. -/
theorem room_labelled {α : Type} (label text : α → String) (xs : List α) :
    room ((xs.filter fun x => text x ≠ "").map fun x => label x ++ text x) =
      (xs.map fun x => slot (label x).length (text x)).sum := by
  induction xs with
  | nil => rfl
  | cons x xs ih =>
      rw [List.map_cons, List.sum_cons, ← ih]
      by_cases h : text x = ""
      · simp [h, slot_empty]
      · rw [List.filter_cons_of_pos (by simpa using h), slot_of_ne _ h, room, List.map_cons,
          List.map_cons, List.sum_cons, String.length_append]
        rfl

theorem room_filter_map {α : Type} (f : α → String) (xs : List α) :
    room ((xs.map f).filter (· ≠ "")) = (xs.map fun x => slot 0 (f x)).sum := by
  have hlabelled := room_labelled (fun _ => "") f xs
  simp only [String.empty_append] at hlabelled
  rw [List.filter_map]
  exact hlabelled

namespace Argument

/-- An array literal with these items. -/
def arrayText (ts : List String) : String := enclosed "new[] \x7b" "\x7d" ts

theorem length_arrayText {ts : List String} (h : ts ≠ []) : (arrayText ts).length = room ts + 6 := by
  have hlength := length_enclosed h "new[] \x7b" "\x7d"
  have hopening : ("new[] \x7b" : String).length = 7 := rfl
  have hclosing : ("\x7d" : String).length = 1 := rfl
  rw [arrayText]
  omega

theorem literal_array (xs : List Argument) : (array xs).literal = arrayText (xs.map literal) := by
  cases xs with
  | nil => rfl
  | cons x xs =>
      rw [literal, literals_eq_map]
      rfl

/-- Induction over an argument by the items of its arrays. -/
theorem induction_items {P : Argument → Prop} (leaf : ∀ x, (∀ xs, x ≠ array xs) → P x)
    (array : ∀ xs, (∀ y ∈ xs, P y) → P (array xs)) (x : Argument) : P x := by
  induction x using Argument.rec (motive_2 := fun xs => ∀ y ∈ xs, P y) with
  | array xs ih => exact array xs ih
  | nil y hy => cases hy
  | cons x xs ihx ihxs y hy =>
      rcases List.mem_cons.mp hy with rfl | hy
      · exact ihx
      · exact ihxs y hy
  | _ => exact leaf _ (by simp)

mutual

/-- The source text of an argument in which every array, at any depth, leaves out what has no text. -/
def tidy : Argument → String
  | .array xs => arrayText (tidyItems xs)
  | x => x.literal

def tidyItems : List Argument → List String
  | [] => []
  | x :: xs => if x.tidy = "" then tidyItems xs else x.tidy :: tidyItems xs

end

theorem tidyItems_eq (xs : List Argument) : tidyItems xs = (xs.map tidy).filter (· ≠ "") := by
  induction xs with
  | nil => rfl
  | cons x xs ih =>
      by_cases h : x.tidy = ""
      · simpa [tidyItems, h] using ih
      · simpa [tidyItems, h] using ih

theorem tidy_array (xs : List Argument) :
    (array xs).tidy = arrayText ((xs.map tidy).filter (· ≠ "")) := by
  rw [tidy, tidyItems_eq]

/-- Some array in the argument, at any depth, has an item without text. -/
inductive Gapped : Argument → Prop
  | here {x : Argument} {xs : List Argument} : x ∈ xs → x.literal = "" → Gapped (.array xs)
  | within {x : Argument} {xs : List Argument} : x ∈ xs → Gapped x → Gapped (.array xs)

variable {x : Argument} {xs : List Argument}

/-- Where no text grows and some text vanishes or gets shorter, so does the array with these texts. -/
theorem length_arrayText_lt {f g : Argument → String}
    (hle : ∀ y ∈ xs, (f y).length ≤ (g y).length)
    (hlt : ∃ y ∈ xs, f y = "" ∨ (f y).length < (g y).length) :
    (arrayText ((xs.map f).filter (· ≠ ""))).length < (arrayText (xs.map g)).length := by
  obtain ⟨y, hy, hshort⟩ := hlt
  have hroom : room ((xs.map f).filter (· ≠ "")) < room (xs.map g) := by
    rw [room_filter_map, room_map]
    exact List.sum_lt_sum _ _ (fun y hy => slot_zero_le (hle y hy)) ⟨y, hy, slot_zero_lt hshort⟩
  rw [length_arrayText (List.ne_nil_of_mem (List.mem_map_of_mem hy))]
  by_cases hf : (xs.map f).filter (· ≠ "") = []
  · rw [hf]
    exact Nat.succ_pos _
  · rw [length_arrayText hf]
    exact Nat.add_lt_add_right hroom 6

theorem tidy_of_not_array (h : ∀ xs, x ≠ array xs) : x.tidy = x.literal := by
  cases x with
  | array xs => exact absurd rfl (h xs)
  | _ => rfl

theorem Gapped.exists_array (h : x.Gapped) : ∃ xs, x = .array xs := by
  cases h with
  | here => exact ⟨_, rfl⟩
  | within => exact ⟨_, rfl⟩

theorem filter_literal_eq_self (h : ∀ y ∈ xs, y.literal ≠ "") :
    (xs.map literal).filter (· ≠ "") = xs.map literal := by
  refine List.filter_eq_self.mpr fun t ht => ?_
  obtain ⟨y, hy, rfl⟩ := List.mem_map.mp ht
  exact decide_eq_true (h y hy)

theorem tidy_eq_literal (h : ¬ x.Gapped) : x.tidy = x.literal := by
  induction x using induction_items with
  | leaf x hleaf => exact tidy_of_not_array hleaf
  | array xs ih =>
      have hitems : xs.map tidy = xs.map literal :=
        List.map_congr_left fun y hy => ih y hy fun hgap => h (.within hy hgap)
      rw [tidy_array, literal_array, hitems, filter_literal_eq_self]
      exact fun y hy hempty => h (.here hy hempty)

theorem length_tidy_lt (h : x.Gapped) : x.tidy.length < x.literal.length := by
  induction x using induction_items with
  | leaf x hleaf =>
      obtain ⟨xs, hx⟩ := h.exists_array
      exact absurd hx (hleaf xs)
  | array xs ih =>
      have hle : ∀ y ∈ xs, y.tidy.length ≤ y.literal.length := by
        intro y hy
        by_cases hgap : y.Gapped
        · exact (ih y hy hgap).le
        · exact (congrArg String.length (tidy_eq_literal hgap)).le
      rw [tidy_array, literal_array]
      apply length_arrayText_lt hle
      cases h with
      | @here y _ hy hempty =>
          have hzero := hle y hy
          rw [hempty] at hzero
          exact ⟨y, hy, .inl (String.length_eq_zero_iff.mp (Nat.le_zero.mp hzero))⟩
      | @within y _ hy hgap => exact ⟨y, hy, .inr (ih y hy hgap)⟩

theorem length_tidy_le (x : Argument) : x.tidy.length ≤ x.literal.length := by
  by_cases h : x.Gapped
  · exact (length_tidy_lt h).le
  · exact (congrArg String.length (tidy_eq_literal h)).le

theorem literal_eq_tidy_iff : x.literal = x.tidy ↔ ¬ x.Gapped := by
  constructor
  · intro heq hgap
    have hlt := length_tidy_lt hgap
    rw [heq] at hlt
    exact Nat.lt_irrefl _ hlt
  · exact fun h => (tidy_eq_literal h).symm

/-- One level down: an array is written without its items of no text exactly where it has none. -/
theorem literal_array_eq_filter_iff (xs : List Argument) :
    (array xs).literal = arrayText ((xs.map literal).filter (· ≠ "")) ↔
      ∀ x ∈ xs, x.literal ≠ "" := by
  rw [literal_array]
  constructor
  · intro heq x hx hempty
    have hlt := length_arrayText_lt (f := literal) (g := literal) (fun _ _ => Nat.le_refl _)
      ⟨x, hx, .inl hempty⟩
    rw [← heq] at hlt
    exact Nat.lt_irrefl _ hlt
  · intro hfull
    rw [filter_literal_eq_self hfull]

end Argument

namespace Annotation

/-- The texts of the arguments that have one, positional ones first. -/
def textsBy (text : Argument → String) (a : Annotation) : List String :=
  (a.args.map text).filter (· ≠ "") ++
    (a.named.filter fun n => text n.value ≠ "").map fun n => n.name ++ " = " ++ text n.value

theorem argumentTexts_eq (a : Annotation) : a.argumentTexts = a.textsBy Argument.literal := rfl

theorem render_eq (a : Annotation) :
    a.render = "[" ++ a.displayName ++ enclosed "(" ")" a.argumentTexts ++ "]" := by
  unfold render
  cases a.argumentTexts with
  | nil => simp [enclosed]
  | cons t ts => simp [enclosed, String.append_assoc]

/-- The annotation in brackets, where no list in it has an item without text. -/
def tidyRender (a : Annotation) : String :=
  "[" ++ a.displayName ++ enclosed "(" ")" (a.textsBy Argument.tidy) ++ "]"

/-- All values that the annotation is given. -/
def values (a : Annotation) : List Argument := a.args ++ a.named.map (·.value)

theorem empty_not_mem_argumentTexts (a : Annotation) : "" ∉ a.argumentTexts := by
  intro h
  rcases List.mem_append.mp h with h | h
  · simpa using (List.mem_filter.mp h).2
  · obtain ⟨n, -, hn⟩ := List.mem_map.mp h
    have hlength := congrArg String.length hn
    simp at hlength

theorem room_textsBy (text : Argument → String) (a : Annotation) :
    room (a.textsBy text) = (a.args.map fun x => slot 0 (text x)).sum +
      (a.named.map fun n => slot (n.name ++ " = ").length (text n.value)).sum := by
  rw [← room_filter_map, ← room_labelled (fun n : NamedArgument => n.name ++ " = ")
    (fun n => text n.value), textsBy, room, List.map_append, List.sum_append]
  rfl

theorem room_textsBy_lt {a : Annotation} (h : ∃ x ∈ a.values, x.Gapped) :
    room (a.textsBy Argument.tidy) < room (a.textsBy Argument.literal) := by
  have hargs : ∀ x ∈ a.args, slot 0 x.tidy ≤ slot 0 x.literal :=
    fun x _ => slot_le 0 x.length_tidy_le
  have hnamed : ∀ n ∈ a.named,
      slot (n.name ++ " = ").length n.value.tidy ≤ slot (n.name ++ " = ").length n.value.literal :=
    fun n _ => slot_le _ n.value.length_tidy_le
  rw [room_textsBy, room_textsBy]
  obtain ⟨x, hx, hgap⟩ := h
  rcases List.mem_append.mp hx with hx | hx
  · have hlt := List.sum_lt_sum _ _ hargs ⟨x, hx, slot_lt 0 (Argument.length_tidy_lt hgap)⟩
    exact Nat.add_lt_add_of_lt_of_le hlt (List.sum_le_sum hnamed)
  · obtain ⟨n, hn, rfl⟩ := List.mem_map.mp hx
    have hlt := List.sum_lt_sum _ _ hnamed ⟨n, hn, slot_lt _ (Argument.length_tidy_lt hgap)⟩
    exact Nat.add_lt_add_of_le_of_lt (List.sum_le_sum hargs) hlt

theorem textsBy_congr {a : Annotation} {f g : Argument → String}
    (h : ∀ x ∈ a.values, f x = g x) : a.textsBy f = a.textsBy g := by
  have hargs : a.args.map f = a.args.map g :=
    List.map_congr_left fun x hx => h x (List.mem_append_left _ hx)
  have hvalue : ∀ n ∈ a.named, f n.value = g n.value :=
    fun n hn => h n.value (List.mem_append_right _ (List.mem_map_of_mem hn))
  have hkept : (a.named.filter fun n => f n.value ≠ "") = a.named.filter fun n => g n.value ≠ "" :=
    List.filter_congr fun n hn => by rw [hvalue n hn]
  rw [textsBy, textsBy, hargs, hkept]
  congr 1
  refine List.map_congr_left fun n hn => ?_
  rw [hvalue n (List.mem_of_mem_filter hn)]

theorem render_eq_tidyRender_iff (a : Annotation) :
    a.render = a.tidyRender ↔ ∀ x ∈ a.values, ¬ x.Gapped := by
  rw [render_eq, argumentTexts_eq, tidyRender]
  constructor
  · intro heq x hx hgap
    have hlt := room_textsBy_lt ⟨x, hx, hgap⟩
    have hlength := congrArg String.length heq
    simp only [String.length_append, length_parenthesized] at hlength
    omega
  · intro h
    rw [textsBy_congr fun x hx => (Argument.tidy_eq_literal (h x hx)).symm]

/-- Only an empty array and empty source text have no text. An array, and an argument with arrays at any
    depth, is written without them exactly where there are none, and an annotation exactly where none of
    its values has an array with such an item; its own list of arguments never has one. -/
theorem written_tidy_iff (xs : List Argument) (x : Argument) (a : Annotation) :
    (Argument.array xs).tidy =
        Argument.arrayText ((xs.map Argument.tidy).filter (· ≠ "")) ∧
      (x.literal = "" ↔ x = .array [] ∨ x = .primitive "" ∨ x = .enum "") ∧
      ((Argument.array xs).literal =
          Argument.arrayText ((xs.map Argument.literal).filter (· ≠ "")) ↔
        ∀ x ∈ xs, x.literal ≠ "") ∧
      (x.literal = x.tidy ↔ ¬ x.Gapped) ∧
      "" ∉ a.argumentTexts ∧ (a.render = a.tidyRender ↔ ∀ x ∈ a.values, ¬ x.Gapped) := by
  refine ⟨Argument.tidy_array xs, Argument.literal_eq_empty_iff, ?_, ?_, ?_, ?_⟩
  · exact Argument.literal_array_eq_filter_iff xs
  · exact Argument.literal_eq_tidy_iff
  · exact a.empty_not_mem_argumentTexts
  · exact a.render_eq_tidyRender_iff

def tagsOf (x : Argument) : Annotation := ⟨"Acme.TagsAttribute", [], [x], []⟩

/-- An array of an empty array is written with nothing between its braces, and an empty array among other
    items as a slot of its own. -/
theorem empty_items_written :
    (tagsOf (.array [.array []])).render = "[Acme.Tags(new[] \x7b\x7d)]" ∧
      (tagsOf (.array [.array []])).tidyRender = "[Acme.Tags]" ∧
      (Argument.array [.primitive "1", .array [], .primitive "2"]).literal =
        "new[] \x7b1, , 2\x7d" ∧
      (Argument.array [.primitive "1", .array [], .primitive "2"]).tidy = "new[] \x7b1, 2\x7d" := by
  decide

end Annotation

end EndpointGen
