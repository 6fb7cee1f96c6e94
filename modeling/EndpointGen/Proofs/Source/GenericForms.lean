/- Kinds in generic form. A restated annotation drops an arity from its kind, and then the suffix. Type
   arguments in angle brackets stay in the kind, with the suffix in front of them, and those that are given
   apart are written after them: only in this form does the text depend on how the kind is spelled. -/
import EndpointGen.Proofs.Source.Lists
import Mathlib.Data.List.TakeWhile

namespace EndpointGen

open Text

/-- A kind is its open name alone, or with an arity, or with type arguments in angle brackets. -/
theorem kind_cases (kind : String) :
    kind = openIdentity kind ∨ (∃ arity, kind = openIdentity kind ++ ("`" ++ arity)) ∨
      ∃ rest, kind = openIdentity kind ++ ("<" ++ rest) := by
  have hsplit : Marker.openChars kind.toList ++ Marker.genericChars kind.toList = kind.toList :=
    List.takeWhile_append_dropWhile
  cases hgeneric : Marker.genericChars kind.toList with
  | nil =>
      rw [hgeneric, List.append_nil] at hsplit
      exact .inl (by simp [openIdentity, hsplit])
  | cons c rest =>
      have hopens : Marker.opensGeneric c = true := by
        have hhead := List.head?_dropWhile_not (fun c => !Marker.opensGeneric c) kind.toList
        rw [show kind.toList.dropWhile _ = c :: rest from hgeneric] at hhead
        simpa using hhead
      have hkind : kind = openIdentity kind ++ (String.singleton c ++ String.ofList rest) := by
        rw [← String.toList_inj]
        simp [openIdentity, ← hgeneric, hsplit]
      simp only [Marker.opensGeneric, Bool.or_eq_true, beq_iff_eq] at hopens
      rcases hopens with rfl | rfl
      · exact .inr (.inl ⟨String.ofList rest, hkind⟩)
      · exact .inr (.inr ⟨String.ofList rest, hkind⟩)

namespace Annotation

/-- The name that stands for a kind when nothing generic is left in it. -/
def restatedName (base : String) : String :=
  ((dropSuffix? Marker.suffix base).filter standsAlone).getD base

def beforeArity (kind : String) : String := String.ofList (kind.toList.takeWhile (· ≠ '`'))

/-- The type arguments that are given apart from the kind, in angle brackets. -/
def typeList (a : Annotation) : String := enclosed "<" ">" (a.typeArgs.map TypeExpr.render)

theorem displayName_eq (a : Annotation) :
    a.displayName = restatedName (beforeArity a.kind) ++ a.typeList := by
  unfold displayName typeList
  cases a.typeArgs with
  | nil => simp [enclosed, restatedName, beforeArity]
  | cons t ts => simp [enclosed, restatedName, beforeArity, String.append_assoc]

/-- The suffix goes, unless nothing or a bare namespace would be left. -/
theorem restatedName_suffixed (s : String) :
    restatedName (s ++ Marker.suffix) = if standsAlone s then s else s ++ Marker.suffix := by
  rw [restatedName, dropSuffix?_eq_some_iff.mpr rfl]
  by_cases h : standsAlone s = true
  · simp [Option.filter, h]
  · simp [Option.filter, h]

theorem restatedName_of_not_suffixed {base : String} (h : ∀ s, base ≠ s ++ Marker.suffix) :
    restatedName base = base := by
  have hnone : dropSuffix? Marker.suffix base = none :=
    Option.eq_none_iff_forall_ne_some.mpr fun s hs => h s (dropSuffix?_eq_some_iff.mp hs)
  rw [restatedName, hnone]
  rfl

theorem restatedName_cases (base : String) :
    restatedName base = base ∨ base = restatedName base ++ Marker.suffix := by
  by_cases h : ∃ s, base = s ++ Marker.suffix
  · obtain ⟨s, rfl⟩ := h
    rw [restatedName_suffixed]
    by_cases hs : standsAlone s = true
    · exact .inr (by rw [if_pos hs])
    · exact .inl (by rw [if_neg hs])
  · exact .inl (restatedName_of_not_suffixed fun s hs => h ⟨s, hs⟩)

theorem length_restatedName_le (base : String) : (restatedName base).length ≤ base.length := by
  rcases restatedName_cases base with h | h
  · rw [h]
  · have hlength := congrArg String.length h
    rw [String.length_append] at hlength
    omega

/-- The suffix never reaches back over an angle bracket. -/
theorem restatedName_angle (s t : String) :
    ∃ u, restatedName (s ++ ("<" ++ t)) = s ++ ("<" ++ u) := by
  rcases restatedName_cases (s ++ ("<" ++ t)) with h | h
  · exact ⟨t, h⟩
  · have hlists : s.toList ++ '<' :: t.toList =
        (restatedName (s ++ ("<" ++ t))).toList ++ Marker.suffix.toList := by
      simpa [String.toList_append] using congrArg String.toList h
    have hfree : '<' ∉ Marker.suffix.toList := by decide
    rcases List.append_eq_append_iff.mp hlists with ⟨u, hname, hrest⟩ | ⟨u, -, hsuffix⟩
    · cases u with
      | nil =>
          rw [List.nil_append] at hrest
          exact absurd (hrest ▸ List.mem_cons_self) hfree
      | cons c u =>
          obtain ⟨rfl, -⟩ := List.cons.inj hrest
          refine ⟨String.ofList u, ?_⟩
          rw [← String.toList_inj, hname]
          simp
    · exact absurd (hsuffix ▸ List.mem_append_right u List.mem_cons_self) hfree

/-- An open name has no arity in it. -/
theorem beforeArity_append (kind s : String) :
    beforeArity (openIdentity kind ++ s) = openIdentity kind ++ beforeArity s := by
  have hopen : ∀ c ∈ (openIdentity kind).toList, decide (c ≠ '`') = true := by
    intro c hc
    rw [openIdentity, String.toList_ofList] at hc
    rw [decide_eq_true_iff]
    rintro rfl
    exact absurd (List.mem_takeWhile_imp hc) (by decide)
  rw [← String.toList_inj, beforeArity, String.toList_append, List.takeWhile_append_of_pos hopen]
  simp [beforeArity]

theorem beforeArity_openIdentity (kind : String) :
    beforeArity (openIdentity kind) = openIdentity kind := by
  have h := beforeArity_append kind ""
  rwa [String.append_empty, show beforeArity "" = "" from rfl, String.append_empty] at h

theorem beforeArity_arity (s : String) : beforeArity ("`" ++ s) = "" := by
  simp [beforeArity]

theorem beforeArity_angle (s : String) : beforeArity ("<" ++ s) = "<" ++ beforeArity s := by
  rw [← String.toList_inj]
  simp [beforeArity]

variable {a : Annotation}

/-- The kind goes on after its open name with type arguments in angle brackets. -/
def InAngles (a : Annotation) : Prop := ∃ rest, a.kind = openIdentity a.kind ++ ("<" ++ rest)

def opened (a : Annotation) : Annotation := { a with kind := openIdentity a.kind }

theorem displayName_opened (a : Annotation) :
    a.opened.displayName = restatedName (openIdentity a.kind) ++ a.typeList := by
  rw [displayName_eq]
  exact congrArg (restatedName · ++ a.typeList) (beforeArity_openIdentity a.kind)

theorem displayName_of_not_inAngles (h : ¬ a.InAngles) :
    a.displayName = restatedName (openIdentity a.kind) ++ a.typeList := by
  have hbase : beforeArity a.kind = openIdentity a.kind := by
    rcases kind_cases a.kind with hkind | ⟨arity, hkind⟩ | hangles
    · exact (congrArg beforeArity hkind).trans (beforeArity_openIdentity a.kind)
    · have hcut := congrArg beforeArity hkind
      rwa [beforeArity_append, beforeArity_arity, String.append_empty] at hcut
    · exact absurd hangles h
  rw [displayName_eq, hbase]

/-- The open name stays as it is, with its suffix, and the bracket after it. -/
theorem displayName_of_inAngles (h : a.InAngles) :
    ∃ rest, a.displayName = openIdentity a.kind ++ ("<" ++ rest) ++ a.typeList := by
  obtain ⟨rest, hkind⟩ := h
  have hbase : beforeArity a.kind = openIdentity a.kind ++ ("<" ++ beforeArity rest) := by
    have hcut := congrArg beforeArity hkind
    rwa [beforeArity_append, beforeArity_angle] at hcut
  obtain ⟨kept, hname⟩ := restatedName_angle (openIdentity a.kind) (beforeArity rest)
  exact ⟨kept, by rw [displayName_eq, hbase, hname]⟩

theorem displayName_of_closed (harity : '`' ∉ a.kind.toList)
    (hclosed : a.kind.toList.getLast? = some '>') : a.displayName = a.kind ++ a.typeList := by
  have hbase : beforeArity a.kind = a.kind := by
    rw [beforeArity, List.takeWhile_eq_self_iff.mpr, String.ofList_toList]
    intro c hc
    rw [decide_eq_true_iff]
    rintro rfl
    exact harity hc
  have hname : restatedName a.kind = a.kind := by
    apply restatedName_of_not_suffixed
    intro s hs
    have hlast : Marker.suffix.toList.getLast? = some 'e' := rfl
    rw [hs, String.toList_append, List.getLast?_append, hlast] at hclosed
    exact absurd hclosed (by simp)
  rw [displayName_eq, hbase, hname]

theorem render_eq_opened_iff (a : Annotation) : a.render = a.opened.render ↔ ¬ a.InAngles := by
  have hopened : a.opened.render =
      "[" ++ a.opened.displayName ++ enclosed "(" ")" a.argumentTexts ++ "]" := a.opened.render_eq
  rw [a.render_eq, hopened, a.displayName_opened]
  constructor
  · intro heq hangles
    obtain ⟨rest, hname⟩ := displayName_of_inAngles hangles
    have hlength := congrArg String.length heq
    have hshort := length_restatedName_le (openIdentity a.kind)
    have hbracket : ("<" : String).length = 1 := rfl
    simp only [hname, String.length_append] at hlength
    omega
  · intro h
    rw [displayName_of_not_inAngles h]

/-- Whether the type arguments of a kind are left open, counted or spelled out in angle brackets makes no
    difference to the restated annotation exactly where they are not spelled out. It has the open name then,
    without its suffix unless nothing or a bare namespace would be left, and the type arguments once.
    Otherwise the open name keeps its suffix and the bracket after it, and what is spelled out stands in
    front of the type arguments. -/
theorem generic_forms_alike_iff (a : Annotation) :
    (a.render = a.opened.render ↔ ¬ a.InAngles) ∧
      (¬ a.InAngles → a.render = "[" ++ (restatedName (openIdentity a.kind) ++
        enclosed "<" ">" (a.typeArgs.map TypeExpr.render)) ++
          enclosed "(" ")" a.argumentTexts ++ "]") ∧
      (a.InAngles → ∃ rest, a.render = "[" ++ (openIdentity a.kind ++ ("<" ++ rest) ++
        enclosed "<" ">" (a.typeArgs.map TypeExpr.render)) ++
          enclosed "(" ")" a.argumentTexts ++ "]") ∧
      ('`' ∉ a.kind.toList → a.kind.toList.getLast? = some '>' →
        a.render = "[" ++ (a.kind ++ enclosed "<" ">" (a.typeArgs.map TypeExpr.render)) ++
          enclosed "(" ")" a.argumentTexts ++ "]") ∧
      (∀ s, restatedName (s ++ "Attribute") = if standsAlone s then s else s ++ "Attribute") ∧
      ∀ base, (∀ s, base ≠ s ++ "Attribute") → restatedName base = base := by
  refine ⟨a.render_eq_opened_iff, ?_, ?_, ?_, restatedName_suffixed, ?_⟩
  · intro h
    rw [a.render_eq, displayName_of_not_inAngles h]
    rfl
  · intro h
    obtain ⟨rest, hname⟩ := displayName_of_inAngles h
    exact ⟨rest, by rw [a.render_eq, hname]; rfl⟩
  · intro harity hclosed
    rw [a.render_eq, displayName_of_closed harity hclosed]
    rfl
  · exact fun base => restatedName_of_not_suffixed

def ruledBy (kind : String) : Annotation := ⟨kind, [.named "Acme.Rules"], [], []⟩

/-- The arity makes no difference; type arguments in angle brackets are written twice. -/
theorem type_arguments_written_twice :
    (ruledBy "Acme.ValidatorAttribute<Acme.Rules>").render =
        "[Acme.ValidatorAttribute<Acme.Rules><Acme.Rules>]" ∧
      (ruledBy "Acme.ValidatorAttribute<Acme.Rules>").opened.render = "[Acme.Validator<Acme.Rules>]" ∧
      (ruledBy "Acme.ValidatorAttribute`1").render = "[Acme.Validator<Acme.Rules>]" := by
  decide

end Annotation

end EndpointGen
