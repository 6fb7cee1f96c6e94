/- Members of one declaration written over two fragments. The second fragment carries members only, and no
   other fragment of the declaration stands between the two: nothing that is made of the graph changes. -/
import EndpointGen.Proofs.Pass.Alike

namespace EndpointGen

namespace Declaration

def withMembers (d : Declaration) (ms : List Member) : Declaration := { d with members := ms }

/-- A further fragment of a declaration that states nothing but members. -/
def continuation (d : Declaration) (isPartial : Bool) (ms : List Member) : Declaration :=
  ⟨d.identity, d.kind, d.namespaceName, isPartial, none, [], [], ms⟩

/-- The declaration in two fragments, with others between them. -/
def split (d : Declaration) (between : List Declaration) (isPartial : Bool) (ms ms' : List Member) :
    List Declaration :=
  d.withMembers ms :: (between ++ [d.continuation isPartial ms'])

variable {d : Declaration} {between : List Declaration} {isPartial : Bool} {ms ms' : List Member}

theorem filter_others {ds : List Declaration} {name : String} (h : ∀ e ∈ ds, e.identity ≠ name) :
    ds.filter (fun e => e.identity == name) = [] := by
  rw [List.filter_eq_nil_iff]
  intro e he
  simpa using h e he

/-- Under the identity itself the two fragments stand next to each other, in the place of the one. -/
theorem filter_split_self (hbetween : ∀ e ∈ between, e.identity ≠ d.identity) :
    (d.split between isPartial ms ms').filter (fun e => e.identity == d.identity) =
      [d.withMembers ms, d.continuation isPartial ms'] := by
  simp [split, withMembers, continuation, filter_others hbetween]

theorem filter_split_other {name : String} (hname : d.identity ≠ name) :
    (d.split between isPartial ms ms').filter (fun e => e.identity == name) =
      between.filter fun e => e.identity == name := by
  simp [split, withMembers, continuation, hname]

end Declaration

namespace DeclarationGraph

variable {before between after : List Declaration} {d : Declaration} {ms ms' : List Member}
  {isPartial : Bool}

theorem SeenAlike.split (hmembers : d.members = ms ++ ms')
    (hpartial : isPartial = true → d.isPartial = true) (fs fs' : List Declaration) :
    SeenAlike (fs ++ d :: fs')
      (fs ++ d.withMembers ms :: d.continuation isPartial ms' :: fs') := by
  refine ⟨?_, ?_, ?_, ?_⟩
  · cases fs <;> rfl
  · cases fs <;> rfl
  · simp [Declaration.withMembers, Declaration.continuation, hmembers]
  · have hor : (d.isPartial || isPartial) = d.isPartial := by
      cases isPartial with
      | false => exact Bool.or_false _
      | true => rw [hpartial rfl, Bool.or_true]
    simp [Declaration.withMembers, Declaration.continuation, ← Bool.or_assoc, hor]

theorem alike_split (hmembers : d.members = ms ++ ms')
    (hbetween : ∀ e ∈ between, e.identity ≠ d.identity)
    (hpartial : isPartial = true → d.isPartial = true) :
    AlikeOn (fun _ => True) (ofList (before ++ (d :: between) ++ after))
      (ofList (before ++ d.split between isPartial ms ms' ++ after)) := by
  refine .ofList fun name => ?_
  simp only [fragments, DeclarationGraph.ofList, List.filter_append]
  by_cases hname : d.identity = name
  · subst hname
    rw [Declaration.filter_split_self hbetween, List.filter_cons_of_pos (by simp),
      Declaration.filter_others hbetween]
    simpa using SeenAlike.split hmembers hpartial _ _
  · rw [Declaration.filter_split_other hname, List.filter_cons_of_neg (by simpa using hname)]
    exact .refl _

theorem discover_split :
    (ofList (before ++ d.split between isPartial ms ms' ++ after)).discover.map Declaration.header =
      (ofList (before ++ (d :: between) ++ after)).discover.map Declaration.header := by
  -- The second fragment has no marker, and the first has the header of the whole.
  have hunmarked : (d.continuation isPartial ms').isMarked = false := rfl
  have hdropped : (ofList (before ++ d.split between isPartial ms ms' ++ after)).discover =
      (ofList (before ++ d.withMembers ms :: between ++ after)).discover := by
    have hinsert := discover_insert_unmarked hunmarked (before ++ d.withMembers ms :: between) after
    simpa [Declaration.split] using hinsert
  have hheaders : (before ++ d.withMembers ms :: between ++ after).map Declaration.header =
      (before ++ (d :: between) ++ after).map Declaration.header := by
    simp [Declaration.header, Declaration.withMembers]
  calc (ofList (before ++ d.split between isPartial ms ms' ++ after)).discover.map Declaration.header
      = (ofList ((before ++ d.withMembers ms :: between ++ after).map Declaration.header)).discover := by
        rw [hdropped, discover_header]
    _ = (ofList (before ++ (d :: between) ++ after)).discover.map Declaration.header := by
        rw [hheaders, discover_header]

/-- Splitting the members of a declaration over two fragments leaves what its graph resolves to and its runs
    unchanged, whatever the declaration is to the others. -/
theorem split_unnoticed (hmembers : d.members = ms ++ ms')
    (hbetween : ∀ e ∈ between, e.identity ≠ d.identity)
    (hpartial : isPartial = true → d.isPartial = true) (config : Config) :
    (ofList (before ++ d.split between isPartial ms ms' ++ after)).resolveAll config =
        (ofList (before ++ (d :: between) ++ after)).resolveAll config ∧
      (ofList (before ++ d.split between isPartial ms ms' ++ after)).run config =
        (ofList (before ++ (d :: between) ++ after)).run config :=
  (alike_split hmembers hbetween hpartial).same_pass_of_headers discover_split config

def openMember : Member :=
  { (Member.bare .method "Open" (.primitive "void")).addParameter "owner" (.primitive "string") with
    annotations := [.bare "Post"] }

def balanceMember : Member := .bare .property "Balance" (.primitive "decimal")

/-- A facade that is an entity as well. -/
def account : Declaration :=
  { Declaration.bare .classDecl "Acme.Account" "Acme" with
    isPartial := true
    interfaces := [.named "Acme.IAccounts"]
    annotations := [.bare "HttpFacade"]
    members := [openMember, balanceMember] }

def accountDto : Declaration :=
  { Declaration.bare .classDecl "Acme.AccountDto" "Acme" with
    isPartial := true
    annotations := [⟨"Dto", [.named "Acme.Account"], [], []⟩] }

/-- The property of the entity is written behind the dto that receives it. -/
theorem account_split_unnoticed :
    account.members = [openMember] ++ [balanceMember] ∧
      (∀ e ∈ [accountDto], e.identity ≠ account.identity) ∧ account.isPartial = true ∧
      (ofList [account, accountDto]).run .default =
        (ofList (account.split [accountDto] true [openMember] [balanceMember])).run .default ∧
      ((ofList [account, accountDto]).run .default).keys =
        ["AccountController.g.cs", "AccountRequests.g.cs", "AccountDto.g.cs"] := by
  have hmembers : account.members = [openMember] ++ [balanceMember] := rfl
  have hother : ∀ e ∈ [accountDto], e.identity ≠ account.identity := by decide
  have hpartial : true = true → account.isPartial = true := fun _ => rfl
  have hrun : (ofList ([] ++ account.split [accountDto] true [openMember] [balanceMember] ++ [])).run
        .default = (ofList ([] ++ (account :: [accountDto]) ++ [])).run .default :=
    (split_unnoticed hmembers hother hpartial .default).2
  rw [List.append_nil] at hrun
  exact ⟨hmembers, hother, rfl, hrun.symm, rfl⟩

end DeclarationGraph

end EndpointGen
