/- Route templates: the names that a template binds are those of its segments in braces, and each one that no
   parameter of the method bears is reported once, in the order of bytes. -/
import Mathlib.Data.List.TakeWhile
import EndpointGen.Proofs.Facade.Endpoints
import EndpointGen.Proofs.Facade.Parameters
import EndpointGen.Proofs.Text.ByteOrder
import EndpointGen.Proofs.Text.OrderedSet

namespace EndpointGen

open Text

namespace Text

variable {sep : Char} {s cs : List Char} {xs ys : List (List Char)}

/-- What stands between two separators, or between a separator and an end of the text. -/
def IsSegment (sep : Char) (s cs : List Char) : Prop :=
  sep ∉ s ∧ ∃ before after, cs = before ++ s ++ after ∧
    (before = [] ∨ ∃ front, before = front ++ [sep]) ∧ (after = [] ∨ ∃ back, after = sep :: back)

theorem unsegment_append (hx : xs ≠ []) (hy : ys ≠ []) :
    unsegment sep (xs ++ ys) = unsegment sep xs ++ sep :: unsegment sep ys := by
  induction xs with
  | nil => exact absurd rfl hx
  | cons x xs ih =>
      cases xs with
      | nil =>
          obtain ⟨y, ys, rfl⟩ := List.exists_cons_of_ne_nil hy
          rfl
      | cons x' xs =>
          calc unsegment sep (x :: (x' :: xs ++ ys))
              = x ++ sep :: unsegment sep (x' :: xs ++ ys) := rfl
            _ = x ++ sep :: (unsegment sep (x' :: xs) ++ sep :: unsegment sep ys) := by
                rw [ih (List.cons_ne_nil x' xs)]
            _ = (x ++ sep :: unsegment sep (x' :: xs)) ++ sep :: unsegment sep ys := by
                rw [List.append_assoc, List.cons_append]

theorem exists_after_first (sep : Char) (s : List Char) (ys : List (List Char)) :
    ∃ after, unsegment sep (s :: ys) = s ++ after ∧ (after = [] ∨ ∃ back, after = sep :: back) := by
  cases ys with
  | nil => exact ⟨[], (List.append_nil s).symm, .inl rfl⟩
  | cons y ys => exact ⟨sep :: unsegment sep (y :: ys), rfl, .inr ⟨_, rfl⟩⟩

theorem mem_segments_iff : s ∈ segments sep cs ↔ IsSegment sep s cs := by
  constructor
  · intro h
    refine ⟨not_mem_of_mem_segments h, ?_⟩
    obtain ⟨xs, ys, hsplit⟩ := List.append_of_mem h
    obtain ⟨after, hfirst, hafter⟩ := exists_after_first sep s ys
    rw [← unsegment_segments sep cs, hsplit]
    by_cases hx : xs = []
    · exact ⟨[], after, by rw [hx, List.nil_append, List.nil_append, hfirst], .inl rfl, hafter⟩
    · refine ⟨unsegment sep xs ++ [sep], after, ?_, .inr ⟨_, rfl⟩, hafter⟩
      rw [unsegment_append hx (List.cons_ne_nil s ys), hfirst]
      simp
  · rintro ⟨hs, before, after, rfl, hbefore, hafter⟩
    have hlast : s ∈ segments sep (s ++ after) := by
      rcases hafter with rfl | ⟨back, rfl⟩
      · simp [segments_of_not_mem hs]
      · simp [segments_append, segments_of_not_mem hs]
    rcases hbefore with rfl | ⟨front, rfl⟩
    · exact hlast
    · rw [List.append_assoc, List.append_assoc, List.singleton_append, segments_append]
      exact List.mem_append_right _ hlast

end Text

namespace Route

/-- The segments that bind a name: the name between braces, by itself or with a constraint after a colon. -/
inductive InBraces (name : List Char) : List Char → Prop
  | plain : InBraces name ('\x7b' :: name ++ ['\x7d'])
  | constrained (c : List Char) : InBraces name ('\x7b' :: name ++ ':' :: c ++ ['\x7d'])

variable {n s : List Char} {name : String} {r : Route} {ps : List Parameter}

theorem takeWhile_of_not_mem (h : ':' ∉ n) (c : List Char) :
    n.takeWhile (· ≠ ':') = n ∧ (n ++ ':' :: c).takeWhile (· ≠ ':') = n := by
  have hn : ∀ x ∈ n, decide (x ≠ ':') = true := by
    intro x hx
    exact decide_eq_true fun heq => h (heq ▸ hx)
  refine ⟨List.takeWhile_eq_self_iff.mpr hn, ?_⟩
  rw [List.takeWhile_append_of_pos hn]
  simp

theorem segmentName?_braced (inner : List Char) (hne : inner.takeWhile (· ≠ ':') ≠ []) :
    segmentName? ('\x7b' :: (inner ++ ['\x7d'])) = some (inner.takeWhile (· ≠ ':')) := by
  obtain ⟨x, xs, hname⟩ := List.exists_cons_of_ne_nil hne
  simp only [segmentName?, List.getLast?_concat, List.dropLast_concat, if_true, hname]

theorem exists_inner_of_segmentName? (h : segmentName? s = some n) :
    ∃ inner, s = '\x7b' :: (inner ++ ['\x7d']) ∧ n = inner.takeWhile (· ≠ ':') ∧ n ≠ [] := by
  unfold segmentName? at h
  split at h
  · next rest =>
      split at h
      · next hlast =>
          obtain ⟨inner, rfl⟩ := List.getLast?_eq_some_iff.mp hlast
          rw [List.dropLast_concat] at h
          split at h
          · cases h
          · next hname =>
              obtain rfl := Option.some.inj h
              exact ⟨inner, rfl, rfl, hname⟩
      · cases h
  · cases h

theorem segmentName?_eq_some_iff : segmentName? s = some n ↔ n ≠ [] ∧ ':' ∉ n ∧ InBraces n s := by
  constructor
  · intro h
    obtain ⟨inner, rfl, hn, hne⟩ := exists_inner_of_segmentName? h
    refine ⟨hne, ?_, ?_⟩
    · intro hcolon
      rw [hn] at hcolon
      simpa using List.mem_takeWhile_imp hcolon
    · have hinner := List.takeWhile_append_dropWhile (p := (· ≠ ':')) (l := inner)
      rw [← hn] at hinner
      cases hrest : inner.dropWhile (· ≠ ':') with
      | nil =>
          rw [hrest, List.append_nil] at hinner
          rw [← hinner]
          exact .plain
      | cons x c =>
          have hx : x = ':' := by
            have hhead := List.head?_dropWhile_not (· ≠ ':') inner
            simpa only [hrest, List.head?_cons, decide_eq_false_iff_not, not_not] using hhead
          rw [hrest, hx] at hinner
          rw [← hinner]
          exact .constrained c
  · rintro ⟨hne, hcolon, hs⟩
    cases hs with
    | plain =>
        obtain ⟨htake, -⟩ := takeWhile_of_not_mem hcolon []
        have hsegment := segmentName?_braced n (by rwa [htake])
        rwa [htake] at hsegment
    | constrained c =>
        obtain ⟨-, htake⟩ := takeWhile_of_not_mem hcolon c
        have hsegment := segmentName?_braced (n ++ ':' :: c) (by rwa [htake])
        rwa [htake] at hsegment

/-- A template binds a name exactly where a segment of it has the name in braces. -/
theorem mem_names_parse_iff (template name : String) :
    name ∈ (parse template).names ↔ name ≠ "" ∧ ':' ∉ name.toList ∧
      ∃ s, IsSegment '/' s template.toList ∧ InBraces name.toList s := by
  have hname : ∀ n : List Char, String.ofList n = name ↔ n = name.toList := by
    intro n
    rw [← String.toList_inj, String.toList_ofList]
  simp only [parse, mem_nameSet, List.mem_map, List.mem_filterMap, hname, mem_segments_iff,
    segmentName?_eq_some_iff]
  constructor
  · rintro ⟨n, ⟨s, hs, hne, hcolon, hbraces⟩, rfl⟩
    exact ⟨by simpa using hne, hcolon, s, hs, hbraces⟩
  · rintro ⟨hne, hcolon, s, hs, hbraces⟩
    exact ⟨name.toList, ⟨s, hs, by simpa using hne, hcolon, hbraces⟩, rfl⟩

theorem mem_unmatched_iff : name ∈ r.unmatched ps ↔ name ∈ r.names ∧ ∀ p ∈ ps, p.name ≠ name := by
  simp [unmatched]

/-- The names that are left over keep the order of bytes. -/
theorem unmatched_ascending (template : String) (ps : List Parameter) :
    ((parse template).unmatched ps).Pairwise fun a b => bytes a < bytes b := by
  have hnames : OrderedSet.Ascending compare (parse template).names := OrderedSet.ofList_ascending _
  exact (hnames.imp bytes_lt_of_compare).filter _

end Route

namespace Operation

variable {g : DeclarationGraph} {config : Config} {owner : Declaration} {m : Member} {op : Operation}

/-- The operation binds the parameters that its template names, and each name that no parameter of the
    method bears is reported once at the method, as a warning, in the order of bytes. -/
structure ReportsUnmatched (op : Operation) (m : Member) (place : String) (ds : List Diagnostic) :
    Prop where
  forwards : op.Forwards m
  bound : ∀ p ∈ op.parameters, p.isRouteBound = true ↔ p.name ∈ op.route.names
  reported : ∃ names : List String, names.Pairwise (fun a b => bytes a < bytes b) ∧
    (∀ name, name ∈ names ↔ name ∈ op.route.names ∧ ∀ p ∈ m.parameters, p.name ≠ name) ∧
    withCode .unmatchedRouteParameter ds = names.map (op.route.unmatchedDiagnostic place m.name)
  warnings : ∀ e ∈ withCode .unmatchedRouteParameter ds, e.severity = .warning

/-- The names that a template binds are those that a segment of it has in braces. Every method with a verb
    marker gives an operation, whatever is reported: its route is read from the text of the marker, else
    from the name of the method, and what is reported of the route are the names left over. -/
theorem template_names_reported (g : DeclarationGraph) (config : Config) (owner : Declaration)
    {m : Member} (h : m.isEndpoint = true) :
    (∀ template, (Route.parse template).template = template ∧
        ∀ name, name ∈ (Route.parse template).names ↔ name ≠ "" ∧ ':' ∉ name.toList ∧
          ∃ s, IsSegment '/' s template.toList ∧ Route.InBraces name.toList s) ∧
      ∃ op verb marker, (resolve g config owner m).value? = some op ∧
        m.verbMarker? = some (verb, marker) ∧
        op.route = Route.parse ((explicitRoute? marker).getD (baseName config m.name)) ∧
        op.ReportsUnmatched m (location owner m) (resolve g config owner m).diagnostics := by
  refine ⟨fun template => ⟨rfl, Route.mem_names_parse_iff template⟩, ?_⟩
  obtain ⟨⟨verb, marker⟩, hmarked⟩ := Member.exists_marker_of_endpoint h
  have hmethod : m.isMethod = true := (Bool.and_eq_true_iff.mp h).1
  have hresolve : resolve g config owner m = .resolved (ofMarked g config m verb marker)
      ((ofMarked g config m verb marker).warnings owner m) := by
    rw [resolve_eq, if_pos hmethod, hmarked]
  obtain ⟨hfindings, -⟩ := withCode_warnings (ofMarked g config m verb marker) owner m
  rw [hresolve]
  refine ⟨_, verb, marker, rfl, hmarked, rfl, forwards_ofMarked g config hmarked, ?_, ?_, ?_⟩
  · intro p hp
    rw [ofMarked, Route.bind_eq] at hp
    obtain ⟨q, -, rfl⟩ := List.mem_map.mp hp
    rw [Route.isRouteBound_bound, decide_eq_true_eq]
    rfl
  · exact ⟨_, Route.unmatched_ascending _ m.parameters, fun _ => Route.mem_unmatched_iff, hfindings⟩
  · intro e he
    have hmem : e ∈ (ofMarked g config m verb marker).warnings owner m := (List.mem_filter.mp he).1
    exact (warnings_advice _ hmem).severity

/-- A template with a constraint, a repeated name, and segments that are no parameters. -/
def browseTemplate : String :=
  "\x7bshop\x7d/\x7bid:int\x7d//\x7bid\x7d/\x7bItem:a:b\x7d/x\x7by\x7d/\x7b\x7d"

/-- A method that leaves two names of its route without a parameter. -/
def browseMember : Member :=
  { Member.bare .method "Browse" (.primitive "string") with
    parameters := [⟨"id", .primitive "int"⟩, ⟨"page", .primitive "int"⟩]
    annotations := [⟨"Get", [], [.string browseTemplate], []⟩] }

def browseOwner : Declaration := .bare .interfaceDecl "Acme.IShop" "Acme"

theorem browse_names_reported :
    browseMember.isEndpoint = true ∧
      ∃ op : Operation, op.ReportsUnmatched browseMember "Acme.IShop.Browse"
          (resolve (.ofList []) .default browseOwner browseMember).diagnostics ∧
        op.route.names = ["Item", "id", "shop"] := by
  have hendpoint : browseMember.isEndpoint = true := by decide
  obtain ⟨-, op, verb, marker, -, hmarked, hroute, hreports⟩ :=
    template_names_reported (.ofList []) .default browseOwner hendpoint
  refine ⟨hendpoint, op, hreports, ?_⟩
  obtain ⟨rfl, rfl⟩ := Prod.mk.inj (Option.some.inj hmarked)
  rw [hroute]
  rfl

end Operation

end EndpointGen
