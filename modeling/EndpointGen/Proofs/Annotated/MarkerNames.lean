/- Marker names: a kind is recognised exactly where it is a name with a namespace before it and a generic form
   after it, which it is in one way only, and then by this name without its suffix. -/
import EndpointGen.Facade.Verb
import Mathlib.Data.List.TakeWhile

namespace EndpointGen

open Text

namespace Text

variable {sep : Char} {n : List Char} {ss : List (List Char)}

theorem unsegment_concat (sep : Char) (ss : List (List Char)) (n : List Char) :
    unsegment sep (ss ++ [n]) = ss.flatMap (· ++ [sep]) ++ n := by
  induction ss with
  | nil => rfl
  | cons s ss ih =>
      obtain ⟨x, xs, hcons⟩ := List.exists_cons_of_ne_nil (List.concat_ne_nil n ss)
      have hunfold : unsegment sep (s :: (ss ++ [n])) = s ++ sep :: unsegment sep (ss ++ [n]) := by
        rw [hcons]
        rfl
      rw [List.cons_append, hunfold, ih, List.flatMap_cons]
      simp

theorem segments_concat (hss : ∀ s ∈ ss, sep ∉ s) (hn : sep ∉ n) :
    segments sep (ss.flatMap (· ++ [sep]) ++ n) = ss ++ [n] := by
  induction ss with
  | nil => exact segments_of_not_mem hn
  | cons s ss ih =>
      obtain ⟨hs, hrest⟩ := List.forall_mem_cons.mp hss
      rw [List.flatMap_cons, List.append_assoc, List.append_assoc, List.singleton_append,
        segments_append, segments_of_not_mem hs, ih hrest]
      rfl

end Text

namespace Marker

variable {c : Char} {cs s n q : List Char}

/-- A letter, a digit or an underscore. -/
def IsWord (c : Char) : Prop := c.isAlphanum = true ∨ c = '_'

instance (c : Char) : Decidable (IsWord c) := inferInstanceAs (Decidable (_ ∨ _))

/-- A letter or an underscore, and after it letters, digits and underscores. -/
def IsIdentifier (n : List Char) : Prop :=
  ∃ c cs, n = c :: cs ∧ (c.isAlpha = true ∨ c = '_') ∧ ∀ d ∈ cs, IsWord d

/-- Any number of segments of letters, digits and underscores, each with a dot after it. -/
def IsNamespace (q : List Char) : Prop :=
  ∃ ss : List (List Char), (∀ s ∈ ss, s ≠ [] ∧ ∀ c ∈ s, IsWord c) ∧ q = ss.flatMap (· ++ ['.'])

/-- Nothing, an arity, or type arguments in angle brackets on one line. -/
inductive IsGenericForm : List Char → Prop
  | none : IsGenericForm []
  | arity {ds : List Char} (hne : ds ≠ []) (hdigits : ∀ d ∈ ds, isDecimalDigit d = true) :
      IsGenericForm ('`' :: ds)
  | arguments {cs : List Char} (hline : '\n' ∉ cs) : IsGenericForm ('<' :: (cs ++ ['>']))

/-- The kind is the name with a namespace before it and a generic form after it. -/
structure Spells (kind q n s : String) : Prop where
  whole : kind = q ++ n ++ s
  namespaced : IsNamespace q.toList
  named : IsIdentifier n.toList
  generic : IsGenericForm s.toList

/-- A name loses the suffix, unless nothing would be left. -/
inductive Shortens : String → String → Prop
  | suffixed {m : String} (hne : m ≠ "") : Shortens (m ++ "Attribute") m
  | plain {n : String} (h : ∀ m, n = m ++ "Attribute" → m = "") : Shortens n n

theorem isWordChar_iff : isWordChar c = true ↔ IsWord c := by
  simp [isWordChar, IsWord]

theorem isName_iff : isName n = true ↔ IsIdentifier n := by
  cases n with
  | nil => simp [isName, IsIdentifier]
  | cons c cs =>
      simp only [isName, isNameStart, Bool.and_eq_true, Bool.or_eq_true, beq_iff_eq, List.all_eq_true,
        isWordChar_iff]
      constructor
      · exact fun h => ⟨c, cs, rfl, h⟩
      · rintro ⟨d, ds, hcons, h⟩
        obtain ⟨rfl, rfl⟩ := List.cons.inj hcons
        exact h

theorem isQualifier_iff : isQualifier s = true ↔ s ≠ [] ∧ ∀ c ∈ s, IsWord c := by
  simp [isQualifier, isWordChar_iff]

theorem isGenericSuffix_iff : isGenericSuffix s = true ↔ IsGenericForm s := by
  constructor
  · intro h
    unfold isGenericSuffix at h
    split at h
    · exact .none
    · rename_i ds
      simp only [Bool.and_eq_true, Bool.not_eq_true', List.isEmpty_eq_false_iff, List.all_eq_true] at h
      exact .arity h.1 h.2
    · rename_i cs
      rw [Bool.and_eq_true, beq_iff_eq] at h
      obtain ⟨text, rfl⟩ := List.getLast?_eq_some_iff.mp h.1
      refine .arguments fun hline => ?_
      simpa using List.all_eq_true.mp h.2 '\n' (List.mem_append_left _ hline)
    · cases h
  · intro h
    cases h with
    | none => rfl
    | arity hne hdigits => simpa [isGenericSuffix, hne] using hdigits
    | arguments hline =>
        have hall : ∀ c ∈ _, c ≠ '\n' := fun c hc heq => hline (heq ▸ hc)
        simpa [isGenericSuffix] using hall

theorem IsWord.ne_dot (h : IsWord c) : c ≠ '.' := by
  rintro rfl
  exact absurd h (by decide)

theorem IsWord.not_opens (h : IsWord c) : opensGeneric c = false := by
  rw [opensGeneric, Bool.or_eq_false_iff, beq_eq_false_iff_ne, beq_eq_false_iff_ne]
  constructor <;>
    · rintro rfl
      exact absurd h (by decide)

theorem IsIdentifier.word (h : IsIdentifier n) : ∀ c ∈ n, IsWord c := by
  obtain ⟨c, cs, rfl, hstart, hrest⟩ := h
  refine List.forall_mem_cons.mpr ⟨?_, hrest⟩
  rcases hstart with halpha | rfl
  · exact .inl (by simp [Char.isAlphanum, halpha])
  · exact .inr rfl

theorem IsIdentifier.dot_not_mem (h : IsIdentifier n) : '.' ∉ n :=
  fun hdot => (h.word '.' hdot).ne_dot rfl

theorem IsNamespace.not_opens (h : IsNamespace q) : ∀ c ∈ q, opensGeneric c = false := by
  obtain ⟨ss, hss, rfl⟩ := h
  intro c hc
  obtain ⟨s, hs, hc⟩ := List.mem_flatMap.mp hc
  rcases List.mem_append.mp hc with hc | hc
  · exact ((hss s hs).2 c hc).not_opens
  · rw [List.mem_singleton.mp hc]
    rfl

theorem lastName?_eq_some_iff_segments :
    lastName? cs = some n ↔
      ∃ ss, segments '.' cs = ss ++ [n] ∧ isName n = true ∧ ss.all isQualifier = true := by
  unfold lastName?
  rcases List.eq_nil_or_concat (segments '.' cs) with hnil | ⟨ss, last, hlast⟩
  · exact absurd hnil (segments_ne_nil '.' cs)
  · rw [hlast]
    simp only [List.concat_eq_append, List.reverse_append, List.reverse_singleton,
      List.singleton_append, List.all_reverse]
    constructor
    · intro h
      split at h
      · rename_i hname
        obtain rfl := Option.some.inj h
        exact ⟨ss, rfl, Bool.and_eq_true_iff.mp hname⟩
      · cases h
    · rintro ⟨ss', heq, hname, hall⟩
      obtain ⟨rfl, hn⟩ := List.append_inj' heq rfl
      obtain rfl := List.singleton_inj.mp hn
      rw [if_pos (Bool.and_eq_true_iff.mpr ⟨hname, hall⟩)]

/-- The last name of a dotted text stands after a namespace. -/
theorem lastName?_eq_some_iff :
    lastName? cs = some n ↔ IsIdentifier n ∧ ∃ q, IsNamespace q ∧ cs = q ++ n := by
  rw [lastName?_eq_some_iff_segments]
  constructor
  · rintro ⟨ss, hss, hname, hall⟩
    refine ⟨isName_iff.mp hname, _, ⟨ss, fun s hs => ?_, rfl⟩, ?_⟩
    · exact isQualifier_iff.mp (List.all_eq_true.mp hall s hs)
    · rw [← unsegment_concat, ← hss, unsegment_segments]
  · rintro ⟨hname, q, ⟨ss, hss, rfl⟩, rfl⟩
    refine ⟨ss, ?_, isName_iff.mpr hname, ?_⟩
    · refine segments_concat (fun s hs hdot => ?_) hname.dot_not_mem
      exact ((hss s hs).2 '.' hdot).ne_dot rfl
    · exact List.all_eq_true.mpr fun s hs => isQualifier_iff.mpr (hss s hs)

/-- A generic form is what is cut off from a name that has no mark of one. -/
theorem cut_append (hcs : ∀ c ∈ cs, opensGeneric c = false) (hs : IsGenericForm s) :
    openChars (cs ++ s) = cs ∧ genericChars (cs ++ s) = s := by
  have hcut : ∀ c ∈ cs, (!opensGeneric c) = true := fun c hc => by rw [hcs c hc]; rfl
  rw [openChars, genericChars, List.takeWhile_append_of_pos hcut, List.dropWhile_append_of_pos hcut]
  cases hs with
  | none => exact ⟨List.append_nil cs, rfl⟩
  | arity => exact ⟨List.append_nil cs, rfl⟩
  | arguments => exact ⟨List.append_nil cs, rfl⟩

theorem afterLast_append (hq : IsNamespace q) (hn : '.' ∉ n) : afterLast '.' (q ++ n) = n := by
  have hfree : ∀ c ∈ n.reverse, decide (c ≠ '.') = true := by
    intro c hc
    exact decide_eq_true fun heq => hn (heq ▸ List.mem_reverse.mp hc)
  have hbefore : q.reverse.takeWhile (· ≠ '.') = [] := by
    obtain ⟨ss, -, rfl⟩ := hq
    rcases List.eq_nil_or_concat ss with rfl | ⟨ss, s, rfl⟩
    · rfl
    · simp
  rw [afterLast, List.reverse_append, List.takeWhile_append_of_pos hfree, hbefore, List.append_nil,
    List.reverse_reverse]

namespace Spells

variable {kind q n s q' n' s' : String}

theorem cut (h : Spells kind q n s) :
    openChars kind.toList = (q ++ n).toList ∧ genericChars kind.toList = s.toList := by
  have hopen : ∀ c ∈ (q ++ n).toList, opensGeneric c = false := by
    rw [String.toList_append]
    refine List.forall_mem_append.mpr ⟨h.namespaced.not_opens, fun c hc => ?_⟩
    exact (h.named.word c hc).not_opens
  have hcut := cut_append hopen h.generic
  rwa [← String.toList_append, ← h.whole] at hcut

theorem openIdentity_eq (h : Spells kind q n s) : openIdentity kind = q ++ n := by
  rw [openIdentity, h.cut.1, String.ofList_toList]

theorem simpleName_eq (h : Spells kind q n s) : simpleName (openIdentity kind) = n := by
  rw [simpleName, h.openIdentity_eq, String.toList_append,
    afterLast_append h.namespaced h.named.dot_not_mem, String.ofList_toList]

/-- A kind is spelled in one way. -/
theorem unique (h : Spells kind q n s) (h' : Spells kind q' n' s') : q = q' ∧ n = n' ∧ s = s' := by
  have hname : n = n' := h.simpleName_eq.symm.trans h'.simpleName_eq
  subst hname
  have hopen : q ++ n = q' ++ n := h.openIdentity_eq.symm.trans h'.openIdentity_eq
  have hgeneric : s.toList = s'.toList := h.cut.2.symm.trans h'.cut.2
  refine ⟨?_, rfl, String.toList_inj.mp hgeneric⟩
  rw [← String.toList_inj, String.toList_append, String.toList_append] at hopen
  exact String.toList_inj.mp (List.append_cancel_right hopen)

end Spells

variable {kind m marker : String}

theorem name?_eq_some_iff_spells :
    name? kind = some m ↔ ∃ q n s, Spells kind q n s ∧ withoutSuffix n = m := by
  constructor
  · intro h
    unfold name? at h
    split at h
    · rename_i hgeneric
      obtain ⟨n, hlast, rfl⟩ := Option.map_eq_some_iff.mp h
      obtain ⟨hname, q, hq, hopen⟩ := lastName?_eq_some_iff.mp hlast
      refine ⟨String.ofList q, String.ofList n, String.ofList (genericChars kind.toList), ?_, rfl⟩
      refine ⟨?_, ?_, ?_, ?_⟩
      · rw [← String.toList_inj]
        simp only [String.toList_append, String.toList_ofList, ← hopen]
        exact List.takeWhile_append_dropWhile.symm
      · rwa [String.toList_ofList]
      · rwa [String.toList_ofList]
      · rw [String.toList_ofList]
        exact isGenericSuffix_iff.mp hgeneric
    · cases h
  · rintro ⟨q, n, s, h, rfl⟩
    obtain ⟨hopen, hgeneric⟩ := h.cut
    have hlast : lastName? (q ++ n).toList = some n.toList :=
      lastName?_eq_some_iff.mpr ⟨h.named, q.toList, h.namespaced, String.toList_append⟩
    rw [name?, hgeneric, if_pos (isGenericSuffix_iff.mpr h.generic), hopen, hlast]
    simp

theorem dropSuffix?_suffix {n rest : String} :
    dropSuffix? suffix n = some rest ↔ n = rest ++ "Attribute" := dropSuffix?_eq_some_iff

theorem shortens_iff {n : String} : Shortens n m ↔ withoutSuffix n = m := by
  unfold withoutSuffix
  constructor
  · intro h
    cases h with
    | suffixed hne =>
        rw [dropSuffix?_suffix.mpr rfl]
        split
        · rename_i hempty
          exact absurd (Option.some.inj hempty) hne
        · rename_i hrest
          exact (Option.some.inj hrest).symm
        · rename_i hnone
          cases hnone
    | plain h =>
        split
        · rfl
        · rename_i rest hrest hdrop
          exact absurd (h rest (dropSuffix?_suffix.mp hdrop)) hrest
        · rfl
  · rintro rfl
    split
    · rename_i hdrop
      refine .plain fun m hm => ?_
      exact Option.some.inj ((dropSuffix?_suffix.mpr hm).symm.trans hdrop)
    · rename_i rest hrest hdrop
      obtain rfl := dropSuffix?_suffix.mp hdrop
      exact .suffixed hrest
    · rename_i hnone
      refine .plain fun m hm => ?_
      cases (dropSuffix?_suffix.mpr hm).symm.trans hnone

theorem name?_eq_some_iff :
    name? kind = some m ↔ ∃ q n s, Spells kind q n s ∧ Shortens n m := by
  simp only [name?_eq_some_iff_spells, shortens_iff]

/-- A kind goes by a name wherever markers are looked for: as a marker, on a declaration, and as a verb. -/
structure GoesBy (kind m : String) : Prop where
  marker : ∀ marker, isMarker kind marker = true ↔ marker = m
  first : ∀ (d : Declaration) (before after : List Annotation) (a : Annotation),
    d.annotations = before ++ a :: after → a.kind = kind →
    (∀ b ∈ before, isMarker b.kind m = false) → d.marker? m = some a
  only : ∀ (d : Declaration) (marker : String) (a : Annotation),
    d.marker? marker = some a → a.kind = kind → marker = m
  verb : HttpVerb.ofKind? kind = HttpVerb.ofName? m

theorem goesBy_of_name? (h : name? kind = some m) : GoesBy kind m := by
  have hmarker : ∀ marker, isMarker kind marker = true ↔ marker = m := by
    intro marker
    rw [isMarker, h, beq_iff_eq, Option.some.injEq, eq_comm]
  refine ⟨hmarker, ?_, ?_, ?_⟩
  · rintro d before after a hd rfl hbefore
    have hnone : before.find? (fun b => isMarker b.kind m) = none :=
      List.find?_eq_none.mpr fun b hb => by simp [hbefore b hb]
    rw [Declaration.marker?, hd, List.find?_append, hnone, Option.none_or, List.find?_cons,
      (hmarker m).mpr rfl]
  · rintro d marker a hfound rfl
    unfold Declaration.marker? at hfound
    have hmatch := List.find?_some hfound
    exact (hmarker marker).mp hmatch
  · rw [HttpVerb.ofKind?, h]
    rfl

theorem IsIdentifier.append (hn : IsIdentifier n) (hcs : ∀ c ∈ cs, IsWord c) :
    IsIdentifier (n ++ cs) := by
  obtain ⟨c, rest, rfl, hstart, hrest⟩ := hn
  exact ⟨c, rest ++ cs, rfl, hstart, List.forall_mem_append.mpr ⟨hrest, hcs⟩⟩

/-- An identifier that does not end in the suffix is what it is shortened to, with the suffix and without. -/
theorem name?_spelled {q s tail : String} (hq : IsNamespace q.toList) (hm : IsIdentifier m.toList)
    (hplain : ∀ r, m ≠ r ++ "Attribute") (htail : tail = "" ∨ tail = "Attribute")
    (hs : IsGenericForm s.toList) : name? (q ++ (m ++ tail) ++ s) = some m := by
  have hword : ∀ c ∈ tail.toList, IsWord c := by
    rcases htail with rfl | rfl
    · simp
    · exact (isQualifier_iff.mp (by decide)).2
  have hname : IsIdentifier (m ++ tail).toList := by
    rw [String.toList_append]
    exact hm.append hword
  refine name?_eq_some_iff.mpr ⟨q, m ++ tail, s, ⟨rfl, hq, hname, hs⟩, ?_⟩
  rcases htail with rfl | rfl
  · rw [String.append_empty]
    exact .plain fun r hr => absurd hr (hplain r)
  · refine .suffixed ?_
    rintro rfl
    obtain ⟨c, cs, hcons, -⟩ := hm
    cases hcons

/-- A kind has a marker name exactly where it is a name with a namespace before it and a generic form after
    it. It is so in one way only, the name is the simple name of the open type, and the marker name is this
    name without its suffix. So every spelling of an identifier goes by it. -/
theorem name?_grammar :
    (∀ kind m, name? kind = some m ↔ ∃ q n s, Spells kind q n s ∧ Shortens n m) ∧
      (∀ kind q n s q' n' s', Spells kind q n s → Spells kind q' n' s' →
        q = q' ∧ n = n' ∧ s = s') ∧
      (∀ kind q n s, Spells kind q n s → simpleName (openIdentity kind) = n) ∧
      ∀ q m tail s, IsNamespace q.toList → IsIdentifier m.toList → (∀ r, m ≠ r ++ "Attribute") →
        tail = "" ∨ tail = "Attribute" → IsGenericForm s.toList → GoesBy (q ++ (m ++ tail) ++ s) m :=
  ⟨fun _ _ => name?_eq_some_iff, fun _ _ _ _ _ _ _ => Spells.unique, fun _ _ _ _ => Spells.simpleName_eq,
    fun _ _ _ _ hq hm hplain htail hs => goesBy_of_name? (name?_spelled hq hm hplain htail hs)⟩

/-- A kind with a namespace, the suffix, and a type argument that is generic itself. -/
theorem getOfList_goesBy :
    Spells "Acme.Web.GetAttribute<List<A>>" "Acme.Web." "GetAttribute" "<List<A>>" ∧
      name? "Acme.Web.GetAttribute<List<A>>" = some "Get" ∧
      simpleName (openIdentity "Acme.Web.GetAttribute<List<A>>") = "GetAttribute" ∧
      (∀ q n s, Spells "Acme.Web.GetAttribute<List<A>>" q n s → q = "Acme.Web.") ∧
      GoesBy "Acme.Web.GetAttribute<List<A>>" "Get" := by
  obtain ⟨hnames, hunique, hsimple, hspelled⟩ := name?_grammar
  have hqualifiers : ∀ s ∈ [['A', 'c', 'm', 'e'], ['W', 'e', 'b']], isQualifier s = true := by decide
  have hq : IsNamespace "Acme.Web.".toList :=
    ⟨_, fun s hs => isQualifier_iff.mp (hqualifiers s hs), rfl⟩
  have hs : IsGenericForm ('<' :: ("List<A>".toList ++ ['>'])) := .arguments (by decide)
  have hshort : Shortens ("Get" ++ "Attribute") "Get" := .suffixed (by decide)
  have hspells : Spells "Acme.Web.GetAttribute<List<A>>" "Acme.Web." "GetAttribute" "<List<A>>" :=
    ⟨rfl, hq, isName_iff.mp (by decide), hs⟩
  have hplain : ∀ r, "Get" ≠ r ++ "Attribute" := by
    intro r hr
    have hlength : 3 = r.length + 9 := (congrArg String.length hr).trans (String.length_append _ _)
    omega
  refine ⟨hspells, (hnames _ _).mpr ⟨_, _, _, hspells, hshort⟩,
    hsimple _ _ _ _ hspells, fun q n s h => (hunique _ _ _ _ _ _ _ h hspells).1, ?_⟩
  exact hspelled "Acme.Web." "Get" "Attribute" "<List<A>>" hq (isName_iff.mp (by decide)) hplain
    (.inr rfl) hs

end Marker

end EndpointGen
