/- Written types read in one way: where names are not empty and have no marks in them, two types are written
   alike exactly if they differ at most in which leaves are primitive and which are named. The last mark of a
   text tells what the type is, and a comma outside of all brackets where an argument ends. -/
import EndpointGen.Declaration.TypeExpr
import Mathlib.Data.List.Forall2
import Mathlib.Data.List.TakeWhile

namespace EndpointGen

namespace TypeExpr

mutual

/-- The names of the leaves and of the containers. -/
def names : TypeExpr → List String
  | .primitive name => [name]
  | .named name => [name]
  | .nullable t => t.names
  | .container name args => name :: namesOfAll args

def namesOfAll : List TypeExpr → List String
  | [] => []
  | t :: ts => t.names ++ namesOfAll ts

end

/-- The marks of the written form. -/
def isMark (c : Char) : Bool := c == '<' || c == '>' || c == ',' || c == '?'

/-- A name that cannot be taken for anything else. -/
def IsPlainName (name : String) : Prop := name ≠ "" ∧ ∀ c ∈ name.toList, isMark c = false

-- goes along the name: the type of characters is finite too, and far too large to be gone through
instance (name : String) : Decidable (IsPlainName name) :=
  have : Decidable (∀ c ∈ name.toList, isMark c = false) := List.decidableBAll _ _
  inferInstanceAs (Decidable (_ ∧ _))

def Readable (t : TypeExpr) : Prop := ∀ name ∈ t.names, IsPlainName name

instance (t : TypeExpr) : Decidable t.Readable :=
  inferInstanceAs (Decidable (∀ name ∈ t.names, IsPlainName name))

/-- The name of a type without arguments and wrappers. -/
def leafName? : TypeExpr → Option String
  | .primitive name => some name
  | .named name => some name
  | _ => none

/-- The types are the same but for leaves, of which one may be primitive and the other named. -/
inductive Alike : TypeExpr → TypeExpr → Prop
  | leaf {t u : TypeExpr} {name : String} (ht : t.leafName? = some name) (hu : u.leafName? = some name) :
      Alike t u
  | nullable {t u : TypeExpr} (h : Alike t u) : Alike (.nullable t) (.nullable u)
  | container {name : String} {ts us : List TypeExpr} (h : List.Forall₂ Alike ts us) :
      Alike (.container name ts) (.container name us)

variable {t u : TypeExpr} {ts us : List TypeExpr} {name : String}

/-- What follows the first argument. -/
def furtherArgs : List TypeExpr → String
  | [] => ""
  | t :: ts => ", " ++ renderArgs (t :: ts)

theorem renderArgs_cons (t : TypeExpr) (ts : List TypeExpr) :
    renderArgs (t :: ts) = t.render ++ furtherArgs ts := by
  cases ts with
  | nil => exact String.append_empty.symm
  | cons u us => exact String.append_assoc

theorem renderArgs_eq_of_furtherArgs (h : furtherArgs ts = furtherArgs us) :
    renderArgs ts = renderArgs us := by
  cases ts with
  | nil =>
      cases us with
      | nil => rfl
      | cons u us => simp [furtherArgs] at h
  | cons t ts =>
      cases us with
      | nil => simp [furtherArgs] at h
      | cons u us => simpa [furtherArgs] using h

theorem toList_render_nullable (t : TypeExpr) :
    (TypeExpr.nullable t).render.toList = t.render.toList ++ ['?'] := by
  rw [render, String.toList_append]
  rfl

theorem toList_render_container (name : String) (ts : List TypeExpr) :
    (container name ts).render.toList =
      name.toList ++ '<' :: ((renderArgs ts).toList ++ ['>']) := by
  simp [render]

/-- The text up to the first comma outside of all brackets, some of which may be open before it. -/
def untilComma : Nat → List Char → List Char
  | _, [] => []
  | depth, c :: cs =>
    if c = '<' then c :: untilComma (depth + 1) cs
    else if c = '>' then c :: untilComma (depth - 1) cs
    else if c = ',' ∧ depth = 0 then []
    else c :: untilComma depth cs

theorem untilComma_open (depth : Nat) (cs : List Char) :
    untilComma depth ('<' :: cs) = '<' :: untilComma (depth + 1) cs := rfl

theorem untilComma_close (depth : Nat) (cs : List Char) :
    untilComma (depth + 1) ('>' :: cs) = '>' :: untilComma depth cs := rfl

theorem untilComma_plain {cs : List Char} (h : ∀ c ∈ cs, isMark c = false ∨ c = '?') (depth : Nat)
    (rest : List Char) : untilComma depth (cs ++ rest) = cs ++ untilComma depth rest := by
  induction cs with
  | nil => rfl
  | cons c cs ih =>
      obtain ⟨hc, hcs⟩ := List.forall_mem_cons.mp h
      have hother : c ≠ '<' ∧ c ≠ '>' ∧ c ≠ ',' := by
        refine ⟨?_, ?_, ?_⟩ <;>
          · rintro rfl
            exact absurd hc (by decide)
      simp [untilComma, hother, ih hcs]

theorem untilComma_name (h : IsPlainName name) (depth : Nat) (rest : List Char) :
    untilComma depth (name.toList ++ rest) = name.toList ++ untilComma depth rest :=
  untilComma_plain (fun c hc => .inl (h.2 c hc)) depth rest

theorem readable_container : (container name ts).Readable ↔
    IsPlainName name ∧ ∀ n ∈ namesOfAll ts, IsPlainName n := List.forall_mem_cons

theorem readable_cons : (∀ n ∈ namesOfAll (t :: ts), IsPlainName n) ↔
    t.Readable ∧ ∀ n ∈ namesOfAll ts, IsPlainName n := List.forall_mem_append

/-- All commas of a written type are in its brackets. -/
theorem untilComma_render (h : t.Readable) (depth : Nat) (rest : List Char) :
    untilComma depth (t.render.toList ++ rest) = t.render.toList ++ untilComma depth rest := by
  -- Of an argument list the same holds in the bracket that is open around it.
  induction t using TypeExpr.rec
    (motive_2 := fun ts => (∀ n ∈ namesOfAll ts, IsPlainName n) → ∀ depth rest,
      untilComma (depth + 1) ((renderArgs ts).toList ++ rest) =
        (renderArgs ts).toList ++ untilComma (depth + 1) rest)
    generalizing depth rest with
  | primitive name => exact untilComma_name (h name List.mem_cons_self) depth rest
  | named name => exact untilComma_name (h name List.mem_cons_self) depth rest
  | nullable t ih =>
      rw [toList_render_nullable, List.append_assoc, ih h, List.append_assoc,
        untilComma_plain (by simp)]
  | container name ts ih =>
      obtain ⟨hname, hts⟩ := readable_container.mp h
      rw [toList_render_container, List.append_assoc, untilComma_name hname, List.cons_append,
        untilComma_open, List.append_assoc, ih hts, List.singleton_append, untilComma_close]
      simp
  | nil => rfl
  | cons t ts iht ihts =>
      rename_i hall depth rest
      obtain ⟨ht, hts⟩ := readable_cons.mp hall
      rw [renderArgs_cons, String.toList_append, List.append_assoc, List.append_assoc, iht ht]
      cases ts with
      | nil => rfl
      | cons u us =>
          have hrest := ihts hts depth rest
          simp only [furtherArgs, String.toList_append, List.append_assoc]
          rw [← hrest]
          rfl

/-- A written type is read off the start of an argument list. -/
theorem untilComma_renderArgs (h : t.Readable) (ts : List TypeExpr) :
    untilComma 0 (renderArgs (t :: ts)).toList = t.render.toList := by
  rw [renderArgs_cons, String.toList_append, untilComma_render h]
  cases ts with
  | nil => exact List.append_nil _
  | cons u us =>
      rw [furtherArgs, String.toList_append]
      exact List.append_nil _

theorem render_ne_empty (h : t.Readable) : t.render ≠ "" := by
  intro hempty
  have hchars : t.render.toList = [] := String.toList_eq_nil_iff.mpr hempty
  cases t with
  | primitive name => exact (h name List.mem_cons_self).1 hempty
  | named name => exact (h name List.mem_cons_self).1 hempty
  | nullable t => simp [toList_render_nullable] at hchars
  | container name ts => simp [toList_render_container] at hchars

theorem renderArgs_ne_empty (h : t.Readable) (ts : List TypeExpr) : renderArgs (t :: ts) ≠ "" := by
  intro hempty
  have hfirst := untilComma_renderArgs h ts
  rw [hempty] at hfirst
  exact render_ne_empty h (String.toList_eq_nil_iff.mp hfirst.symm)

/-- The first argument and the others can be told from their text. -/
theorem renderArgs_cons_inj (ht : t.Readable) (hu : u.Readable)
    (h : renderArgs (t :: ts) = renderArgs (u :: us)) :
    t.render = u.render ∧ renderArgs ts = renderArgs us := by
  have hfirst : t.render = u.render := by
    rw [← String.toList_inj, ← untilComma_renderArgs ht ts, h, untilComma_renderArgs hu us]
  rw [renderArgs_cons, renderArgs_cons, hfirst] at h
  exact ⟨hfirst, renderArgs_eq_of_furtherArgs ((String.append_right_inj _).mp h)⟩

/-- The mark that a written type ends in. -/
def lastMark? : TypeExpr → Option Char
  | .nullable _ => some '?'
  | .container _ _ => some '>'
  | _ => none

theorem getLast?_render (h : t.Readable) :
    t.render.toList.getLast?.filter (fun c => isMark c) = t.lastMark? := by
  have hleaf : ∀ name : String, IsPlainName name →
      name.toList.getLast?.filter (fun c => isMark c) = none := by
    rintro name ⟨-, hplain⟩
    cases hlast : name.toList.getLast? with
    | none => rfl
    | some c => simp [Option.filter, hplain c (List.mem_of_getLast? hlast)]
  cases t with
  | primitive name => exact hleaf name (h name List.mem_cons_self)
  | named name => exact hleaf name (h name List.mem_cons_self)
  | nullable t =>
      rw [toList_render_nullable, List.getLast?_concat]
      rfl
  | container name ts =>
      rw [toList_render_container, ← List.cons_append, ← List.append_assoc, List.getLast?_concat]
      rfl

theorem lastMark?_eq (ht : t.Readable) (hu : u.Readable) (h : t.render = u.render) :
    t.lastMark? = u.lastMark? := by
  rw [← getLast?_render ht, h, getLast?_render hu]

/-- A plain name ends where the first bracket opens. -/
theorem append_open_inj {a b : String} (ha : IsPlainName a) (hb : IsPlainName b) {xs ys : List Char}
    (h : a.toList ++ '<' :: xs = b.toList ++ '<' :: ys) : a = b ∧ xs = ys := by
  have hfree : ∀ n : String, IsPlainName n → ∀ cs : List Char,
      (n.toList ++ '<' :: cs).takeWhile (fun c => !isMark c) = n.toList := by
    intro n hn cs
    rw [List.takeWhile_append_of_pos fun c hc => by rw [hn.2 c hc]; rfl]
    exact List.append_nil _
  have hname : a.toList = b.toList := by rw [← hfree a ha xs, h, hfree b hb ys]
  rw [hname] at h
  exact ⟨String.toList_inj.mp hname, (List.cons.inj (List.append_cancel_left h)).2⟩

theorem render_of_leafName? (h : t.leafName? = some name) : t.render = name := by
  cases t with
  | primitive n => exact Option.some.inj h
  | named n => exact Option.some.inj h
  | nullable t => cases h
  | container n ts => cases h

theorem exists_leafName? (h : t.lastMark? = none) : ∃ name, t.leafName? = some name := by
  cases t with
  | primitive name => exact ⟨name, rfl⟩
  | named name => exact ⟨name, rfl⟩
  | nullable t => cases h
  | container name ts => cases h

theorem alike_of_leaf (ht : t.leafName? = some name) (hu : u.lastMark? = none)
    (h : t.render = u.render) : Alike t u := by
  obtain ⟨other, hother⟩ := exists_leafName? hu
  have hname : other = name := by rw [← render_of_leafName? hother, ← h, render_of_leafName? ht]
  exact .leaf ht (hname ▸ hother)

/-- Follows the structure of one of the types; the last mark tells that the other is of the same form. -/
theorem alike_of_render_eq (ht : t.Readable) (hu : u.Readable) (h : t.render = u.render) :
    Alike t u := by
  induction t using TypeExpr.rec
    (motive_2 := fun ts => ∀ us, (∀ n ∈ namesOfAll ts, IsPlainName n) →
      (∀ n ∈ namesOfAll us, IsPlainName n) → renderArgs ts = renderArgs us → List.Forall₂ Alike ts us)
    generalizing u with
  | primitive name => exact alike_of_leaf rfl (lastMark?_eq hu ht h.symm) h
  | named name => exact alike_of_leaf rfl (lastMark?_eq hu ht h.symm) h
  | nullable t ih =>
      have hmark : u.lastMark? = some '?' := lastMark?_eq hu ht h.symm
      cases u with
      | nullable u =>
          rw [← String.toList_inj, toList_render_nullable, toList_render_nullable] at h
          exact .nullable (ih ht hu (String.toList_inj.mp (List.append_cancel_right h)))
      | _ => simp [lastMark?] at hmark
  | container name ts ih =>
      have hmark : u.lastMark? = some '>' := lastMark?_eq hu ht h.symm
      cases u with
      | container name' us =>
          obtain ⟨hname, hts⟩ := readable_container.mp ht
          obtain ⟨hname', hus⟩ := readable_container.mp hu
          rw [← String.toList_inj, toList_render_container, toList_render_container] at h
          obtain ⟨rfl, hargs⟩ := append_open_inj hname hname' h
          exact .container (ih us hts hus (String.toList_inj.mp (List.append_cancel_right hargs)))
      | _ => simp [lastMark?] at hmark
  | nil =>
      rename_i us _ hus heq
      cases us with
      | nil => exact .nil
      | cons u us => exact absurd heq.symm (renderArgs_ne_empty (readable_cons.mp hus).1 us)
  | cons t ts iht ihts =>
      rename_i us hall hus heq
      obtain ⟨ht, hts⟩ := readable_cons.mp hall
      cases us with
      | nil => exact absurd heq (renderArgs_ne_empty ht ts)
      | cons u us =>
          obtain ⟨hu, hus⟩ := readable_cons.mp hus
          obtain ⟨hfirst, hrest⟩ := renderArgs_cons_inj ht hu heq
          exact .cons (iht ht hu hfirst) (ihts us hts hus hrest)

theorem Alike.render_eq (h : Alike t u) : t.render = u.render := by
  induction h using Alike.rec (motive_2 := fun ts us _ => renderArgs ts = renderArgs us) with
  | leaf ht hu => rw [render_of_leafName? ht, render_of_leafName? hu]
  | nullable _ ih => rw [render, render, ih]
  | container _ ih => rw [render, render, ih]
  | nil => rfl
  | cons _ hrest ihfirst ihrest =>
      rw [renderArgs_cons, renderArgs_cons, ihfirst]
      cases hrest with
      | nil => rfl
      | cons => rw [furtherArgs, furtherArgs, ihrest]

/-- The number of nullable wrappers around a type. -/
def wrappers : TypeExpr → Nat
  | .nullable t => t.wrappers + 1
  | _ => 0

/-- The name under the wrappers. -/
def headName : TypeExpr → String
  | .primitive name => name
  | .named name => name
  | .nullable t => t.headName
  | .container name _ => name

/-- The arguments under the wrappers; none for a type that is no container. -/
def arguments? : TypeExpr → Option (List TypeExpr)
  | .nullable t => t.arguments?
  | .container _ args => some args
  | _ => none

/-- What a type is at its top: its wrappers, its name, and how many arguments it has. -/
def top (t : TypeExpr) : Nat × String × Option Nat :=
  (t.wrappers, t.headName, t.arguments?.map List.length)

/-- The type at a place, which says what argument to go to from the top on. -/
def part? : List Nat → TypeExpr → Option TypeExpr
  | [], t => some t
  | i :: place, t => (t.arguments?.bind fun args => args[i]?).bind (part? place)

theorem leaf_top (h : t.leafName? = some name) :
    t.wrappers = 0 ∧ t.headName = name ∧ t.arguments? = none := by
  cases t with
  | primitive n => exact ⟨rfl, Option.some.inj h, rfl⟩
  | named n => exact ⟨rfl, Option.some.inj h, rfl⟩
  | nullable t => cases h
  | container n ts => cases h

theorem Alike.wrappers_eq (h : Alike t u) : t.wrappers = u.wrappers ∧ t.headName = u.headName := by
  induction h using Alike.rec (motive_2 := fun _ _ _ => True) with
  | leaf ht hu =>
      obtain ⟨hwrappers, hname, -⟩ := leaf_top ht
      obtain ⟨hwrappers', hname', -⟩ := leaf_top hu
      rw [hwrappers, hname, hwrappers', hname']
      exact ⟨rfl, rfl⟩
  | nullable _ ih => exact ⟨congrArg (· + 1) ih.1, ih.2⟩
  | container => exact ⟨rfl, rfl⟩
  | nil => trivial
  | cons => trivial

theorem Alike.arguments_cases (h : Alike t u) :
    (t.arguments? = none ∧ u.arguments? = none) ∨
      ∃ ts us, t.arguments? = some ts ∧ u.arguments? = some us ∧ List.Forall₂ Alike ts us := by
  induction h using Alike.rec (motive_2 := fun _ _ _ => True) with
  | leaf ht hu => exact .inl ⟨(leaf_top ht).2.2, (leaf_top hu).2.2⟩
  | nullable _ ih => exact ih
  | container hargs => exact .inr ⟨_, _, rfl, rfl, hargs⟩
  | nil => trivial
  | cons => trivial

theorem Alike.top_eq (h : Alike t u) : t.top = u.top := by
  obtain ⟨hwrappers, hname⟩ := h.wrappers_eq
  rw [top, top, hwrappers, hname]
  rcases h.arguments_cases with ⟨hnone, hnone'⟩ | ⟨ts, us, hsome, hsome', hargs⟩
  · rw [hnone, hnone']
  · rw [hsome, hsome', Option.map_some, Option.map_some, hargs.length_eq]

theorem alike_getElem? (h : List.Forall₂ Alike ts us) (i : Nat) :
    (ts[i]? = none ∧ us[i]? = none) ∨ ∃ t u, ts[i]? = some t ∧ us[i]? = some u ∧ Alike t u := by
  induction h generalizing i with
  | nil => exact .inl ⟨rfl, rfl⟩
  | cons hfirst _ ih =>
      cases i with
      | zero => exact .inr ⟨_, _, rfl, rfl, hfirst⟩
      | succ i => exact ih i

theorem Alike.part?_top_eq (h : Alike t u) (place : List Nat) :
    (t.part? place).map top = (u.part? place).map top := by
  induction place generalizing t u with
  | nil => exact congrArg some h.top_eq
  | cons i place ih =>
      unfold part?
      rcases h.arguments_cases with ⟨hnone, hnone'⟩ | ⟨ts, us, hsome, hsome', hargs⟩
      · rw [hnone, hnone']
      · rw [hsome, hsome', Option.bind_some, Option.bind_some]
        rcases alike_getElem? hargs i with ⟨hnone, hnone'⟩ | ⟨t, u, ht, hu, hpart⟩
        · rw [hnone, hnone']
        · rw [ht, hu]
          exact ih hpart

/-- Types with plain names are written alike exactly if they differ at most in which leaves are primitive and
    which are named. So the text tells of every place how many wrappers stand there, around what name, and
    how many arguments follow. -/
theorem render_uniquely_readable (ht : t.Readable) (hu : u.Readable) :
    (t.render = u.render ↔ Alike t u) ∧
      (t.render = u.render → ∀ place, (t.part? place).map top = (u.part? place).map top) :=
  ⟨⟨alike_of_render_eq ht hu, Alike.render_eq⟩,
    fun heq => (alike_of_render_eq ht hu heq).part?_top_eq⟩

/-- A dictionary of a list that may be missing, of numbers that may be missing. -/
def lookupTable (number : TypeExpr) : TypeExpr :=
  .nullable (.container "Dictionary" [.primitive "string", .nullable (.container "List" [.nullable number])])

theorem lookupTable_readable :
    (lookupTable (.primitive "int")).Readable ∧ (lookupTable (.named "int")).Readable ∧
      (lookupTable (.primitive "int")).render = "Dictionary<string, List<int?>?>?" ∧
      Alike (lookupTable (.primitive "int")) (lookupTable (.named "int")) ∧
      ¬ Alike (lookupTable (.primitive "int")) (lookupTable (.nullable (.primitive "int"))) := by
  have hprimitive : (lookupTable (.primitive "int")).Readable := by decide
  have hnamed : (lookupTable (.named "int")).Readable := by decide
  have hnullable : (lookupTable (.nullable (.primitive "int"))).Readable := by decide
  refine ⟨hprimitive, hnamed, by decide, (render_uniquely_readable hprimitive hnamed).1.mp (by decide), ?_⟩
  exact fun h => absurd ((render_uniquely_readable hprimitive hnullable).1.mpr h) (by decide)

end TypeExpr

end EndpointGen
