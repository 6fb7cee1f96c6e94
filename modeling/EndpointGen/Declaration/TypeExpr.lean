/- Types as declarations mention them, their written form and their order. -/
import EndpointGen.Text.Cut

namespace EndpointGen

open Text

inductive TypeExpr where
  | primitive (name : String)
  | named (identity : String)
  | nullable (inner : TypeExpr)
  | container (name : String) (args : List TypeExpr)
deriving Repr, Inhabited

namespace TypeExpr

mutual

def decEq : (t u : TypeExpr) → Decidable (t = u)
  | .primitive a, .primitive b => decidable_of_iff (a = b) (by simp)
  | .named a, .named b => decidable_of_iff (a = b) (by simp)
  | .nullable t, .nullable u =>
    match decEq t u with
    | isTrue h => isTrue (by rw [h])
    | isFalse h => isFalse (by simpa using h)
  | .container a ts, .container b us =>
    match decEqList ts us with
    | isTrue h => decidable_of_iff (a = b) (by simp [h])
    | isFalse h => isFalse (by simp [h])
  | .primitive _, .named _ => isFalse (by simp)
  | .primitive _, .nullable _ => isFalse (by simp)
  | .primitive _, .container _ _ => isFalse (by simp)
  | .named _, .primitive _ => isFalse (by simp)
  | .named _, .nullable _ => isFalse (by simp)
  | .named _, .container _ _ => isFalse (by simp)
  | .nullable _, .primitive _ => isFalse (by simp)
  | .nullable _, .named _ => isFalse (by simp)
  | .nullable _, .container _ _ => isFalse (by simp)
  | .container _ _, .primitive _ => isFalse (by simp)
  | .container _ _, .named _ => isFalse (by simp)
  | .container _ _, .nullable _ => isFalse (by simp)

def decEqList : (ts us : List TypeExpr) → Decidable (ts = us)
  | [], [] => isTrue rfl
  | [], _ :: _ => isFalse (by simp)
  | _ :: _, [] => isFalse (by simp)
  | t :: ts, u :: us =>
    match decEq t u, decEqList ts us with
    | isTrue h, isTrue h' => isTrue (by rw [h, h'])
    | isFalse h, _ => isFalse (by simp [h])
    | _, isFalse h => isFalse (by simp [h])

end

instance : DecidableEq TypeExpr := decEq

/-- Wraps once: a nullable type stays as it is. -/
def orNull : TypeExpr → TypeExpr
  | .nullable t => .nullable t
  | t => .nullable t

def isNullable : TypeExpr → Bool
  | .nullable _ => true
  | _ => false

/-- The type without its outer nullable wrappers. -/
def stripNullable : TypeExpr → TypeExpr
  | .nullable t => t.stripNullable
  | t => t

def identity? : TypeExpr → Option String
  | .named name => some name
  | .nullable t => t.identity?
  | _ => none

theorem identity?_stripNullable (t : TypeExpr) : t.stripNullable.identity? = t.identity? := by
  induction t using TypeExpr.rec (motive_2 := fun _ => True) with
  | nullable t ih => simpa [stripNullable, identity?] using ih
  | _ => simp [stripNullable, identity?]

mutual

/-- The written form: `T`, `T?`, `C<A, B>`. -/
def render : TypeExpr → String
  | .primitive name => name
  | .named name => name
  | .nullable t => t.render ++ "?"
  | .container name args => name ++ "<" ++ renderArgs args ++ ">"

def renderArgs : List TypeExpr → String
  | [] => ""
  | [t] => t.render
  | t :: ts => t.render ++ ", " ++ renderArgs ts

end

theorem renderArgs_eq (ts : List TypeExpr) : renderArgs ts = commaSeparated (ts.map render) := by
  induction ts with
  | nil => rfl
  | cons t ts ih =>
    cases ts with
    | nil => rfl
    | cons u us => simp only [renderArgs, List.map_cons, commaSeparated] at ih ⊢; rw [ih]

def rank : TypeExpr → Nat
  | .primitive _ => 0
  | .named _ => 1
  | .nullable _ => 2
  | .container _ _ => 3

mutual

/-- Primitive before named before nullable before container, then by content. -/
def order : TypeExpr → TypeExpr → Ordering
  | .primitive a, .primitive b => compare a b
  | .named a, .named b => compare a b
  | .nullable t, .nullable u => order t u
  | .container a ts, .container b us => (compare a b).then (orderList ts us)
  | t, u => compare t.rank u.rank

/-- Item by item, a list before its continuations. -/
def orderList : List TypeExpr → List TypeExpr → Ordering
  | [], [] => .eq
  | [], _ :: _ => .lt
  | _ :: _, [] => .gt
  | t :: ts, u :: us => (order t u).then (orderList ts us)

end

end TypeExpr

end EndpointGen
