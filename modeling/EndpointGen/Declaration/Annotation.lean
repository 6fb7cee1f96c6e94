/- Annotations on declarations and members, and typed access to their arguments. -/
import EndpointGen.Declaration.TypeExpr
import EndpointGen.Text.OrderedSet

namespace EndpointGen

/-- An annotation argument; numbers and enum members are kept as their source text. -/
inductive Argument where
  | null
  | string (s : String)
  | bool (b : Bool)
  | char (c : Char)
  | primitive (text : String)
  | type (t : TypeExpr)
  | enum (text : String)
  | array (items : List Argument)
deriving Repr, Inhabited

namespace Argument

mutual

def decEq : (a b : Argument) → Decidable (a = b)
  | .null, b => match b with
    | .null => isTrue rfl
    | .string _ | .bool _ | .char _ | .primitive _ | .type _ | .enum _ | .array _ => isFalse (by simp)
  | .string x, b => match b with
    | .string y => decidable_of_iff (x = y) (by simp)
    | .null | .bool _ | .char _ | .primitive _ | .type _ | .enum _ | .array _ =>
      isFalse (by simp)
  | .bool x, b => match b with
    | .bool y => decidable_of_iff (x = y) (by simp)
    | .null | .string _ | .char _ | .primitive _ | .type _ | .enum _ | .array _ =>
      isFalse (by simp)
  | .char x, b => match b with
    | .char y => decidable_of_iff (x = y) (by simp)
    | .null | .string _ | .bool _ | .primitive _ | .type _ | .enum _ | .array _ =>
      isFalse (by simp)
  | .primitive x, b => match b with
    | .primitive y => decidable_of_iff (x = y) (by simp)
    | .null | .string _ | .bool _ | .char _ | .type _ | .enum _ | .array _ =>
      isFalse (by simp)
  | .type x, b => match b with
    | .type y => decidable_of_iff (x = y) (by simp)
    | .null | .string _ | .bool _ | .char _ | .primitive _ | .enum _ | .array _ =>
      isFalse (by simp)
  | .enum x, b => match b with
    | .enum y => decidable_of_iff (x = y) (by simp)
    | .null | .string _ | .bool _ | .char _ | .primitive _ | .type _ | .array _ =>
      isFalse (by simp)
  | .array xs, b => match b with
    | .array ys =>
      match decEqList xs ys with
      | isTrue h => isTrue (by rw [h])
      | isFalse h => isFalse (by simpa using h)
    | .null | .string _ | .bool _ | .char _ | .primitive _ | .type _ | .enum _ => isFalse (by simp)

def decEqList : (xs ys : List Argument) → Decidable (xs = ys)
  | [], [] => isTrue rfl
  | [], _ :: _ => isFalse (by simp)
  | _ :: _, [] => isFalse (by simp)
  | x :: xs, y :: ys =>
    match decEq x y, decEqList xs ys with
    | isTrue h, isTrue h' => isTrue (by rw [h, h'])
    | isFalse h, _ => isFalse (by simp [h])
    | _, isFalse h => isFalse (by simp [h])

end
instance : DecidableEq Argument := decEq

def isNull : Argument → Bool
  | .null => true
  | _ => false

def text? : Argument → Option String
  | .string s => some s
  | _ => none

def type? : Argument → Option TypeExpr
  | .type t => some t
  | _ => none

/-- The items of an array; an empty array counts as absent. -/
def items? : Argument → Option (List Argument)
  | .array (x :: xs) => some (x :: xs)
  | _ => none

/-- The items of an array that may be absent. -/
def itemsOf (a : Option Argument) : List Argument := (a.bind items?).getD []

/-- The nonempty texts among the items of an array, as a set. -/
def textSet (a : Option Argument) : List String :=
  nameSet (((itemsOf a).filterMap text?).filter (· ≠ ""))

/-- The types among the items of an array, as a set. -/
def typeSet (a : Option Argument) : List TypeExpr :=
  OrderedSet.ofList TypeExpr.order ((itemsOf a).filterMap type?)

end Argument

structure NamedArgument where
  name : String
  value : Argument
deriving DecidableEq, Repr

/-- An annotation with the identifier of its kind, its type arguments when it is applied in
    generic form, and its arguments. -/
structure Annotation where
  kind : String
  typeArgs : List TypeExpr
  args : List Argument
  named : List NamedArgument
deriving DecidableEq, Repr

namespace Annotation

def bare (kind : String) : Annotation := ⟨kind, [], [], []⟩

def addTypeArg (a : Annotation) (t : TypeExpr) : Annotation :=
  { a with typeArgs := a.typeArgs ++ [t] }

def addArg (a : Annotation) (x : Argument) : Annotation := { a with args := a.args ++ [x] }

def addNamed (a : Annotation) (name : String) (x : Argument) : Annotation :=
  { a with named := a.named ++ [⟨name, x⟩] }

/-- The positional argument at an index; null counts as absent. -/
def positional? (a : Annotation) (i : Nat) : Option Argument :=
  (a.args[i]?).filter fun x => !x.isNull

/-- The first argument of a name; null counts as absent. -/
def named? (a : Annotation) (name : String) : Option Argument :=
  ((a.named.find? fun n => n.name == name).map (·.value)).filter fun x => !x.isNull

def nonempty? (x : Option Argument) : Option String := (x.bind (·.text?)).filter (· ≠ "")

/-- The nonempty text at an index. -/
def positionalText? (a : Annotation) (i : Nat) : Option String := nonempty? (a.positional? i)

/-- The nonempty text under a name. -/
def namedText? (a : Annotation) (name : String) : Option String := nonempty? (a.named? name)

def genericArg? (a : Annotation) : Option TypeExpr := a.typeArgs.head?

end Annotation

end EndpointGen
