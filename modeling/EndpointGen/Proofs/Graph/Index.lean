/- Declaration sets and their index. However a set came about, the index gives the first position of each
   identity and nothing else, so that the set answers as its list of fragments alone does. -/
import EndpointGen.Files.Load
import EndpointGen.Pass

namespace EndpointGen

/-- The first fragment of the identity stands at the position. -/
structure FirstAt (ds : List Declaration) (identity : String) (i : Nat) : Prop where
  here : ∃ d, ds[i]? = some d ∧ d.identity = identity
  before : ∀ j < i, ∀ d, ds[j]? = some d → d.identity ≠ identity

theorem findIdx?_identity_iff {ds : List Declaration} {identity : String} {i : Nat} :
    (ds.findIdx? fun d => d.identity == identity) = some i ↔ FirstAt ds identity i := by
  rw [List.findIdx?_eq_some_iff_getElem]
  constructor
  · rintro ⟨hi, hhere, hbefore⟩
    refine ⟨⟨ds[i], List.getElem?_eq_getElem hi, beq_iff_eq.mp hhere⟩, ?_⟩
    intro j hj d hd
    obtain ⟨hlt, rfl⟩ := List.getElem?_eq_some_iff.mp hd
    exact fun heq => hbefore j hj (beq_iff_eq.mpr heq)
  · rintro ⟨⟨d, hd, hhere⟩, hbefore⟩
    obtain ⟨hi, rfl⟩ := List.getElem?_eq_some_iff.mp hd
    refine ⟨hi, beq_iff_eq.mpr hhere, ?_⟩
    intro j hj heq
    exact hbefore j hj _ (List.getElem?_eq_getElem (Nat.lt_trans hj hi)) (beq_iff_eq.mp heq)

/-- Two graphs answer every query alike. -/
structure DeclarationGraph.SameAnswers (g g' : DeclarationGraph) : Prop where
  find? : ∀ identity, g.find? identity = g'.find? identity
  fragments : ∀ identity, g.fragments identity = g'.fragments identity
  baseType? : ∀ identity, g.baseType? identity = g'.baseType? identity
  resolve? : ∀ t, g.resolve? t = g'.resolve? t
  derives : ∀ identity ancestor, g.derives identity ancestor = g'.derives identity ancestor

namespace DeclarationSet

variable {s : DeclarationSet}

/-- The index has the position that a search of the list finds. -/
def Indexed (s : DeclarationSet) : Prop :=
  ∀ identity, s.index[identity]? = s.toList.findIdx? fun d => d.identity == identity

theorem getElem?_keepFirst (index : Std.HashMap String Nat) (name identity : String) (i : Nat) :
    (index.insertIfNew name i)[identity]? =
      index[identity]?.or (if name = identity then some i else none) := by
  rw [Std.HashMap.getElem?_insertIfNew]
  by_cases hname : name = identity
  · subst hname
    cases hfound : index[name]? with
    | none =>
        have hnew : name ∉ index := by
          rw [Std.HashMap.mem_iff_isSome_getElem?, hfound]
          simp
        simp [hnew]
    | some j =>
        have hold : name ∈ index := by
          rw [Std.HashMap.mem_iff_isSome_getElem?, hfound]
          rfl
        simp [hold]
  · simp [hname]

theorem getElem?_indexFrom (start : Nat) (index : Std.HashMap String Nat) (ds : List Declaration)
    (identity : String) :
    (indexFrom start index ds)[identity]? =
      index[identity]?.or ((ds.findIdx? fun d => d.identity == identity).map (· + start)) := by
  induction ds generalizing start index with
  | nil => simp [indexFrom]
  | cons d ds ih =>
      rw [indexFrom, ih, getElem?_keepFirst, Option.or_assoc, List.findIdx?_cons]
      congr 1
      by_cases hd : d.identity = identity
      · simp [hd]
      · simp only [hd, if_false, Option.none_or, beq_iff_eq, Option.map_map]
        congr 1
        funext i
        simp only [Function.comp_apply]
        omega

theorem Indexed.ofList (ds : List Declaration) : (DeclarationSet.ofList ds).Indexed := by
  intro identity
  rw [DeclarationSet.ofList, getElem?_indexFrom]
  simp [toList]

theorem Indexed.push (h : s.Indexed) (d : Declaration) : (s.push d).Indexed := by
  intro identity
  have hlist : (s.push d).toList = s.toList ++ [d] := Array.toList_push
  rw [hlist, List.findIdx?_append, ← h identity, DeclarationSet.push, getElem?_keepFirst]
  congr 1
  by_cases hd : d.identity = identity
  · simp [hd, toList]
  · simp [hd]

theorem Indexed.find? (h : s.Indexed) (identity : String) :
    s.find? identity = s.toList.find? fun d => d.identity == identity := by
  rw [List.find?_eq_bind_findIdx?_getElem?, ← h identity, DeclarationSet.find?]
  simp only [toList, Array.getElem?_toList]

theorem Indexed.graph_eq (h : s.Indexed) : s.graph = .ofList s.toList := by
  rw [graph, DeclarationGraph.ofList]
  congr 1
  exact funext h.find?

/-- The sets that come about: from a list of fragments, from a text or a file, and by adding
    fragments one at a time. -/
inductive Built : DeclarationSet → Prop
  | empty : Built .empty
  | ofList (ds : List Declaration) : Built (.ofList ds)
  | parsed {format : GraphFormat} {text : String} {s : DeclarationSet} :
      parse format text = .ok s → Built s
  | loaded {t : FileTree} {path : String} {s : DeclarationSet} : load t path = .ok s → Built s
  | push {s : DeclarationSet} (d : Declaration) : Built s → Built (s.push d)

theorem exists_ofList_of_parse {format : GraphFormat} {text : String}
    (h : parse format text = .ok s) : ∃ ds, s = .ofList ds := by
  unfold parse at h
  cases hdoc : format.parse text with
  | error f => simp [hdoc, bind, Except.bind] at h
  | ok doc =>
      cases hds : decoding GraphDocument.ofDoc doc with
      | error f => simp [hdoc, hds, bind, Except.bind] at h
      | ok ds => exact ⟨ds, by simpa [hdoc, hds, bind, Except.bind, eq_comm] using h⟩

theorem exists_parse_of_load {t : FileTree} {path : String} (h : load t path = .ok s) :
    ∃ format text, parse format text = .ok s := by
  unfold load at h
  cases hread : t.read path with
  | error e => simp [hread, attempting] at h
  | ok text =>
      cases hparse : parse (GraphFormat.ofPath path) text with
      | error f => simp [hread, hparse, attempting] at h
      | ok s' =>
          obtain rfl : s' = s := by simpa [hread, hparse, attempting] using h
          exact ⟨_, _, hparse⟩

theorem Built.indexed (h : s.Built) : s.Indexed := by
  induction h with
  | empty => exact Indexed.ofList []
  | ofList ds => exact .ofList ds
  | parsed hparse =>
      obtain ⟨ds, rfl⟩ := exists_ofList_of_parse hparse
      exact .ofList ds
  | loaded hload =>
      obtain ⟨format, text, hparse⟩ := exists_parse_of_load hload
      obtain ⟨ds, rfl⟩ := exists_ofList_of_parse hparse
      exact .ofList ds
  | push d _ ih => exact ih.push d

/-- The index of a set gives the first positions and nothing else, and whatever is asked of the set or
    generated from it comes out as from its list of fragments alone. -/
theorem Built.answers_as_list (h : s.Built) :
    (∀ identity i, s.index[identity]? = some i ↔ FirstAt s.toList identity i) ∧
      s.graph.SameAnswers (.ofList s.toList) ∧
      ∀ config, s.graph.resolveAll config = (DeclarationGraph.ofList s.toList).resolveAll config ∧
        s.graph.run config = (DeclarationGraph.ofList s.toList).run config := by
  have hgraph := h.indexed.graph_eq
  refine ⟨?_, ?_, ?_⟩
  · intro identity i
    rw [h.indexed identity, findIdx?_identity_iff]
  · rw [hgraph]
    exact ⟨fun _ => rfl, fun _ => rfl, fun _ => rfl, fun _ => rfl, fun _ _ => rfl⟩
  · intro config
    rw [hgraph]
    exact ⟨rfl, rfl⟩

/-- A set in which an identity is reopened by fragments that come later, in the list and one by one. -/
def reopened : DeclarationSet :=
  ((ofList
    [ .bare .classDecl "Acme.Item" "Acme",
      (Declaration.bare .classDecl "Acme.Order" "Acme").basedOn "Acme.Item",
      (Declaration.bare .classDecl "Acme.Item" "Acme").basedOn "Acme.Order" ]).push
    (Declaration.bare .classDecl "Acme.Order" "Acme").asPartial).push
    (.bare .interfaceDecl "Acme.Item" "Acme")

theorem reopened_answers :
    reopened.Built ∧ reopened.index["Acme.Order"]? = some 1 ∧
      reopened.graph.SameAnswers (.ofList reopened.toList) ∧
      reopened.graph.run .default = (DeclarationGraph.ofList reopened.toList).run .default := by
  have hbuilt : reopened.Built := .push _ (.push _ (.ofList _))
  obtain ⟨hindex, hanswers, hpass⟩ := hbuilt.answers_as_list
  refine ⟨hbuilt, (hindex _ 1).mpr ⟨⟨_, rfl, rfl⟩, ?_⟩, hanswers, (hpass .default).2⟩
  intro j hj d hd
  obtain rfl : j = 0 := by omega
  obtain rfl := Option.some.inj hd
  decide

end DeclarationSet

end EndpointGen
