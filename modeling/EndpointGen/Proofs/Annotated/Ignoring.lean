/- Laws of ignored types: only the open types that they name count, so that their spelling makes no
   difference; more of them ignore more kinds, and a kind in generic form is ignored wherever its open type
   is. -/
import EndpointGen.Proofs.Dto.IgnoredAttributes
import Mathlib.Data.List.TakeWhile
import Mathlib.Logic.Relation

namespace EndpointGen

open Text

/-- The start of a generic form, and whatever follows it. -/
def StartsGeneric (s : String) : Prop := ∃ rest, s = "`" ++ rest ∨ s = "<" ++ rest

def IsOpenKind (kind : String) : Prop := '`' ∉ kind.toList ∧ '<' ∉ kind.toList

instance (kind : String) : Decidable (IsOpenKind kind) := inferInstanceAs (Decidable (_ ∧ _))

theorem openIdentity_append {s : String} (hs : StartsGeneric s) (kind : String) :
    openIdentity (kind ++ s) = openIdentity kind := by
  have hstart : Marker.openChars s.toList = [] := by
    obtain ⟨rest, rfl | rfl⟩ := hs <;> rw [String.toList_append] <;> rfl
  have hcut : ∀ cs, Marker.openChars (cs ++ s.toList) = Marker.openChars cs := by
    intro cs
    induction cs with
    | nil => exact hstart
    | cons c cs ih =>
        simp only [Marker.openChars, List.cons_append, List.takeWhile_cons] at ih ⊢
        rw [ih]
  rw [openIdentity, openIdentity, String.toList_append, hcut]

theorem openIdentity_of_isOpenKind {kind : String} (h : IsOpenKind kind) : openIdentity kind = kind := by
  rw [openIdentity, Marker.openChars, List.takeWhile_eq_self_iff.mpr, String.ofList_toList]
  intro c hc
  rw [Marker.opensGeneric, Bool.not_eq_true', Bool.or_eq_false_iff, beq_eq_false_iff_ne,
    beq_eq_false_iff_ne]
  exact ⟨fun heq => h.1 (heq ▸ hc), fun heq => h.2 (heq ▸ hc)⟩

namespace TypeExpr

/-- One type is the other with a nullable wrapper or a generic suffix more. -/
inductive Extends : TypeExpr → TypeExpr → Prop
  | wrapped (t : TypeExpr) : Extends t (.nullable t)
  | generic (name : String) {s : String} (hs : StartsGeneric s) :
      Extends (.named name) (.named (name ++ s))
  | inside {t u : TypeExpr} (h : Extends t u) : Extends (.nullable t) (.nullable u)

/-- One type becomes the other by adding and taking away nullable wrappers and generic suffixes. -/
def SpelledAs : TypeExpr → TypeExpr → Prop := Relation.EqvGen Extends

def openIdentity? (t : TypeExpr) : Option String := t.identity?.map openIdentity

variable {t u : TypeExpr}

theorem Extends.openIdentity?_eq (h : Extends t u) : t.openIdentity? = u.openIdentity? := by
  induction h with
  | wrapped t => rfl
  | generic name hs => exact congrArg some (openIdentity_append hs name).symm
  | inside h ih => exact ih

theorem SpelledAs.openIdentity?_eq (h : SpelledAs t u) : t.openIdentity? = u.openIdentity? := by
  induction h with
  | rel t u h => exact h.openIdentity?_eq
  | refl t => rfl
  | symm t u _ ih => exact ih.symm
  | trans t u v _ _ ih ih' => exact ih.trans ih'

end TypeExpr

/-- Each type of one set is a type of the other, spelled in some way. -/
def SameButSpelling (ignored ignored' : List TypeExpr) : Prop :=
  (∀ t ∈ ignored, ∃ u ∈ ignored', t.SpelledAs u) ∧ ∀ u ∈ ignored', ∃ t ∈ ignored, t.SpelledAs u

namespace DeclarationGraph

variable {g : DeclarationGraph} {ignored ignored' : List TypeExpr} {kind : String}

/-- A kind is ignored where it, or its open type, is or derives from an open type that an ignored type
    names. -/
theorem ignores_iff : g.ignores ignored kind = true ↔
    ∃ start, (start = kind ∨ start = openIdentity kind) ∧
      ∃ t ∈ ignored, ∃ ancestor, t.openIdentity? = some ancestor ∧ g.derives start ancestor = true := by
  simp only [ignores, List.any_eq_true, Prod.exists, mem_walksToIgnored, ignoredNames,
    List.mem_filterMap, TypeExpr.openIdentity?, Option.map_eq_some_iff]
  constructor
  · rintro ⟨start, ancestor, ⟨hstart, i, ⟨t, ht, hi⟩, hopen⟩, hderives⟩
    exact ⟨start, hstart, t, ht, ancestor, ⟨i, hi, hopen⟩, hderives⟩
  · rintro ⟨start, hstart, t, ht, ancestor, ⟨i, hi, hopen⟩, hderives⟩
    exact ⟨start, ancestor, ⟨hstart, i, ⟨t, ht, hi⟩, hopen⟩, hderives⟩

/-- What counts of the ignored types are the open types that they name. -/
theorem ignores_mono
    (h : ∀ t ∈ ignored, ∃ u ∈ ignored', t.openIdentity? = u.openIdentity?)
    (hignored : g.ignores ignored kind = true) : g.ignores ignored' kind = true := by
  obtain ⟨start, hstart, t, ht, ancestor, hopen, hderives⟩ := ignores_iff.mp hignored
  obtain ⟨u, hu, heq⟩ := h t ht
  exact ignores_iff.mpr ⟨start, hstart, u, hu, ancestor, heq ▸ hopen, hderives⟩

theorem ignores_of_subset (h : ignored ⊆ ignored') (hignored : g.ignores ignored kind = true) :
    g.ignores ignored' kind = true :=
  ignores_mono (fun t ht => ⟨t, h ht, rfl⟩) hignored

theorem ignores_respelled (h : SameButSpelling ignored ignored') (kind : String) :
    g.ignores ignored kind = g.ignores ignored' kind := by
  rw [Bool.eq_iff_iff]
  constructor
  · refine ignores_mono fun t ht => ?_
    obtain ⟨u, hu, hspelled⟩ := h.1 t ht
    exact ⟨u, hu, hspelled.openIdentity?_eq⟩
  · refine ignores_mono fun u hu => ?_
    obtain ⟨t, ht, hspelled⟩ := h.2 u hu
    exact ⟨t, ht, hspelled.openIdentity?_eq.symm⟩

/-- The walks from the open type of a kind are made from the kind as well. -/
theorem ignores_generic {s : String} (hkind : IsOpenKind kind) (hs : StartsGeneric s)
    (hignored : g.ignores ignored kind = true) : g.ignores ignored (kind ++ s) = true := by
  obtain ⟨start, hstart, ht⟩ := ignores_iff.mp hignored
  refine ignores_iff.mpr ⟨start, .inr ?_, ht⟩
  rw [openIdentity_append hs]
  rcases hstart with rfl | rfl
  · exact (openIdentity_of_isOpenKind hkind).symm
  · rfl

theorem propagate_sublist (g : DeclarationGraph) (ignored : List TypeExpr)
    (consumed : Annotation → Bool) (annotations : List Annotation) :
    (g.propagate ignored consumed annotations).Sublist annotations :=
  List.filter_sublist.trans List.filter_sublist

theorem propagate_sublist_of_subset (h : ignored ⊆ ignored') (consumed : Annotation → Bool)
    (annotations : List Annotation) :
    (g.propagate ignored' consumed annotations).Sublist
      (g.propagate ignored consumed annotations) := by
  have hfilter : g.propagate ignored' consumed annotations =
      (g.propagate ignored consumed annotations).filter fun a => !g.ignores ignored' a.kind := by
    rw [propagate, propagate, List.filter_filter]
    refine List.filter_congr fun a _ => ?_
    cases hignored : g.ignores ignored a.kind with
    | false => simp
    | true => simp [ignores_of_subset h hignored]
  rw [hfilter]
  exact List.filter_sublist

/-- Of the ignored types the open types that they name count. So an open kind that is ignored is ignored in
    every generic form; more ignored types ignore more kinds, and their spelling makes no difference; more of
    them can only take annotations away, and what is restated are some of the annotations in their order. -/
theorem ignoring_laws (g : DeclarationGraph) :
    (∀ ignored kind, g.ignores ignored kind = true ↔
        ∃ start, (start = kind ∨ start = openIdentity kind) ∧ ∃ t ∈ ignored, ∃ ancestor,
          t.openIdentity? = some ancestor ∧ g.derives start ancestor = true) ∧
      (∀ ignored kind s, IsOpenKind kind → StartsGeneric s → g.ignores ignored kind = true →
        g.ignores ignored (kind ++ s) = true) ∧
      (∀ ignored ignored' kind, ignored ⊆ ignored' → g.ignores ignored kind = true →
        g.ignores ignored' kind = true) ∧
      (∀ ignored ignored' kind, SameButSpelling ignored ignored' →
        g.ignores ignored kind = g.ignores ignored' kind) ∧
      (∀ ignored ignored' consumed annotations, ignored ⊆ ignored' →
        (g.propagate ignored' consumed annotations).Sublist
          (g.propagate ignored consumed annotations)) ∧
      ∀ ignored consumed annotations,
        (g.propagate ignored consumed annotations).Sublist annotations :=
  ⟨fun _ _ => ignores_iff, fun _ _ _ => ignores_generic, fun _ _ _ => ignores_of_subset,
    fun _ _ kind h => ignores_respelled h kind,
    fun _ _ consumed annotations h => propagate_sublist_of_subset h consumed annotations,
    g.propagate_sublist⟩

/-- A sensitive type, and a type of annotations that derives from it. -/
def sensitiveGraph : DeclarationGraph :=
  .ofList
    [ .bare .classDecl "Acme.Sensitive" "Acme",
      (Declaration.bare .classDecl "Acme.Pii" "Acme").basedOn "Acme.Sensitive" ]

theorem sensitive_ignored :
    sensitiveGraph.ignores [.named "Acme.Sensitive"] "Acme.Pii`1" = true ∧
      sensitiveGraph.ignores [.nullable (.named "Acme.Sensitive<int>")] "Acme.Pii" = true ∧
      (sensitiveGraph.propagate [.named "Acme.Key", .named "Acme.Sensitive"] (fun _ => false)
          [.bare "Acme.Key", .bare "Acme.Pii", .bare "Acme.Text"]).Sublist
        (sensitiveGraph.propagate [.named "Acme.Sensitive"] (fun _ => false)
          [.bare "Acme.Key", .bare "Acme.Pii", .bare "Acme.Text"]) ∧
      sensitiveGraph.propagate [.named "Acme.Sensitive"] (fun _ => false)
          [.bare "Acme.Key", .bare "Acme.Pii", .bare "Acme.Text"] =
        [.bare "Acme.Key", .bare "Acme.Text"] := by
  obtain ⟨-, hgeneric, hsubset, hspelling, hpropagate, -⟩ := ignoring_laws sensitiveGraph
  have hderives : sensitiveGraph.ignores [.named "Acme.Sensitive"] "Acme.Pii" = true := by decide
  have hsuffix : TypeExpr.Extends (.named "Acme.Sensitive") (.named ("Acme.Sensitive" ++ "<int>")) :=
    .generic _ ⟨"int>", .inr rfl⟩
  have hspelledAs : TypeExpr.SpelledAs (.named "Acme.Sensitive") (.nullable (.named "Acme.Sensitive<int>")) :=
    .trans _ _ _ (.rel _ _ hsuffix) (.rel _ _ (.wrapped _))
  have hspelled :
      SameButSpelling [.named "Acme.Sensitive"] [.nullable (.named "Acme.Sensitive<int>")] := by
    simpa [SameButSpelling] using hspelledAs
  refine ⟨hgeneric _ "Acme.Pii" "`1" (by decide) ⟨"1", .inl rfl⟩ hderives, ?_, ?_, by decide⟩
  · rw [← hspelling _ _ _ hspelled]
    exact hsubset _ _ _ (List.Subset.refl _) hderives
  · exact hpropagate _ _ _ _ (by simp)

end DeclarationGraph

end EndpointGen
