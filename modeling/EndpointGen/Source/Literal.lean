/- Annotations restated as source text. -/
import EndpointGen.Annotated.Marker

namespace EndpointGen

open Text

namespace Argument

def escapeQuote (c : Char) : List Char := if c = '"' then ['\\', '"'] else [c]

def stringLiteral (s : String) : String :=
  String.ofList ('"' :: s.toList.flatMap escapeQuote ++ ['"'])

mutual

/-- The source text of an argument; empty text means that the argument is left out. -/
def literal : Argument → String
  | .null => "null"
  | .string s => stringLiteral s
  | .bool true => "true"
  | .bool false => "false"
  | .char c => String.ofList ['\'', c, '\'']
  | .type t => "typeof(" ++ t.render ++ ")"
  | .array [] => ""
  | .array (x :: xs) => "new[] \x7b" ++ commaSeparated (literals (x :: xs)) ++ "\x7d"
  | .primitive text => text
  | .enum text => text

def literals : List Argument → List String
  | [] => []
  | x :: xs => literal x :: literals xs

end

theorem literals_eq_map (xs : List Argument) : literals xs = xs.map literal := by
  induction xs with
  | nil => rfl
  | cons x xs ih => simp [literals, ih]

/-- What has no text of its own: no array with items is among it, whatever the texts of its items. -/
theorem literal_eq_empty_iff {x : Argument} :
    x.literal = "" ↔ x = .array [] ∨ x = .primitive "" ∨ x = .enum "" := by
  constructor
  · intro h
    cases x with
    | primitive text => exact .inr (.inl (congrArg primitive h))
    | enum text => exact .inr (.inr (congrArg enum h))
    | array xs =>
        cases xs with
        | nil => exact .inl rfl
        | cons x xs => simp [literal, ← String.toList_inj] at h
    | bool b => cases b <;> simp [literal] at h
    | _ => simp [literal, stringLiteral, ← String.toList_inj] at h
  · rintro (rfl | rfl | rfl) <;> rfl

end Argument

namespace Annotation

/-- A name that may stand for its longer form: not empty and not a bare namespace. -/
def standsAlone (name : String) : Bool := name != "" && name.toList.getLast? != some '.'

def displayName (a : Annotation) : String :=
  let base := String.ofList (a.kind.toList.takeWhile (· ≠ '`'))
  let base := ((dropSuffix? Marker.suffix base).filter standsAlone).getD base
  match a.typeArgs with
  | [] => base
  | ts => base ++ "<" ++ commaSeparated (ts.map TypeExpr.render) ++ ">"

def argumentTexts (a : Annotation) : List String :=
  (a.args.map Argument.literal).filter (· ≠ "") ++
    (a.named.filter fun n => n.value.literal ≠ "").map fun n => n.name ++ " = " ++ n.value.literal

/-- The annotation in brackets, with parentheses only around arguments. -/
def render (a : Annotation) : String :=
  match a.argumentTexts with
  | [] => "[" ++ a.displayName ++ "]"
  | texts => "[" ++ a.displayName ++ "(" ++ commaSeparated texts ++ ")]"

end Annotation

end EndpointGen
