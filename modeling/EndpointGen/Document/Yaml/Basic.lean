/- Reading YAML text as a document. -/
import EndpointGen.Document.Yaml.Node

namespace EndpointGen.Yaml

open Decimal

def nullTexts : List String := ["", "null", "Null", "NULL", "~"]

def boolTexts : List (String × Bool) :=
  [("true", true), ("True", true), ("TRUE", true), ("false", false), ("False", false),
    ("FALSE", false)]

def digitIn? (radix : Nat) (c : Char) : Option Nat :=
  (Json.hexValue? c).filter (· < radix)

def natural? (radix : Nat) (cs : List Char) : Option Nat :=
  if cs.isEmpty then none
  else cs.foldlM (fun n c => (digitIn? radix c).map fun d => n * radix + d) 0

/-- Digits after a zero: the text of no number. -/
def isPadded (cs : List Char) : Bool :=
  let cs := match cs with
    | '-' :: rest => rest
    | '+' :: rest => rest
    | cs => cs
  match cs with
  | '0' :: c :: rest => (c :: rest).all Char.isDigit
  | _ => false

def radixPrefix? : List Char → Option (Nat × List Char)
  | '0' :: 'x' :: rest => some (16, rest)
  | '0' :: 'o' :: rest => some (8, rest)
  | '0' :: 'b' :: rest => some (2, rest)
  | _ => none

def integer? (cs : List Char) : Option Int :=
  let (negative, digits) := match cs with
    | '+' :: rest => (false, rest)
    | '-' :: rest => (true, rest)
    | cs => (false, cs)
  let magnitude :=
    match (radixPrefix? digits).bind fun (radix, rest) => natural? radix rest with
    | some n => some n
    | none => if isPadded cs then none else natural? 10 digits
  magnitude.map fun n => if negative then -(n : Int) else n

/-- An integer that is kept: from `-2 ^ 63` up to `2 ^ 64 - 1`. -/
def isNarrow (n : Int) : Bool := -0x8000000000000000 ≤ n && n ≤ 0xFFFFFFFFFFFFFFFF

/-- An integer that is refused, from `-2 ^ 127` up to `2 ^ 128 - 1`; one wider still is read as a
    decimal number. -/
def isWide (n : Int) : Bool := -(Int.pow 2 127) ≤ n && n < Int.pow 2 128

def decimal? (cs : List Char) : Option Binary64 :=
  let (negative, cs) := match cs with
    | '+' :: rest => (false, rest)
    | '-' :: rest => (true, rest)
    | cs => (false, cs)
  let whole := cs.takeWhile Char.isDigit
  let rest := cs.dropWhile Char.isDigit
  let (places, rest) := match rest with
    | '.' :: rest => (rest.takeWhile Char.isDigit, rest.dropWhile Char.isDigit)
    | rest => ([], rest)
  if whole.isEmpty && places.isEmpty then none
  else
    let exponent : Option Int := match rest with
      | [] => some 0
      | e :: rest =>
        if e == 'e' || e == 'E' then
          match rest with
          | '+' :: rest => (natural? 10 rest).map fun n => (n : Int)
          | '-' :: rest => (natural? 10 rest).map fun n => -(n : Int)
          | rest => (natural? 10 rest).map fun n => (n : Int)
        else none
    exponent.bind fun e =>
      let digits := (whole ++ places).foldl (fun n c => n * 10 + Json.digitValue c) 0
      let scale := e - places.length
      let size : Int := (Nat.toDigits 10 digits).length + scale
      if digits = 0 || size < -400 then some (Binary64.zero negative)
      else if 400 < size then none
      else Binary64.ofDecimal? negative digits scale

def infiniteTexts : List String :=
  [".inf", ".Inf", ".INF", "+.inf", "+.Inf", "+.INF", "-.inf", "-.Inf", "-.INF", ".nan", ".NaN",
    ".NAN"]

/-- A number that is not finite has no place in a document and becomes null. -/
def float? (s : String) : Option Doc :=
  if infiniteTexts.contains s then some .null
  else match s.toList with
    | '+' :: '+' :: _ => none
    | '+' :: '-' :: _ => none
    | cs => (decimal? cs).map .float

def plain (s : String) : Option Doc :=
  if nullTexts.contains s then some .null
  else match boolTexts.lookup s with
    | some b => some (.bool b)
    | none =>
      let decimal : Doc :=
        if isPadded s.toList then .string s else (float? s).getD (.string s)
      match integer? s.toList with
      | some n =>
        if isNarrow n then some (.int n)
        else if isWide n then none
        else some decimal
      | none => some decimal

/-- The value of a scalar: a standard tag decides on its kind, other tags make it a text. -/
def scalarValue (tag : Tag) (isPlain : Bool) (s : String) : Option Doc :=
  match tag with
  | .silent => if isPlain then plain s else some (.string s)
  | .boolean => (boolTexts.lookup s).map .bool
  | .integer => (integer? s.toList).bind fun n => if isNarrow n then some (.int n) else none
  | .float => float? s
  | .null => if nullTexts.contains s && s != "" then some .null else none
  | .own => none
  | .other => some (.string s)

mutual

def Node.anchors (found : List (Nat × Node)) : Node → List (Nat × Node)
  | .scalar _ _ _ => found
  | .sequence _ items => anchorsOfItems found items
  | .mapping _ pairs => anchorsOfPairs found pairs
  | .anchored number n => n.anchors ((number, n) :: found)
  | .alias _ => found

def anchorsOfItems (found : List (Nat × Node)) : List Node → List (Nat × Node)
  | [] => found
  | n :: ns => anchorsOfItems (n.anchors found) ns

def anchorsOfPairs (found : List (Nat × Node)) : List (Node × Node) → List (Nat × Node)
  | [] => found
  | (k, v) :: rest => anchorsOfPairs (v.anchors (k.anchors found)) rest

end

abbrev Walk := StateT Nat Option

/-- The node itself, or the one that an alias stands for: the last of its number, which may come
    after the alias. -/
def Node.target (anchors : List (Nat × Node)) : Node → Walk Node
  | .anchored _ n => pure n
  | .alias number => fun left =>
    match left with
    | 0 => none
    | left + 1 => (anchors.lookup number).map fun n => (n, left)
  | n => pure n

def Node.fieldName (anchors : List (Nat × Node)) (n : Node) : Walk String := do
  match ← n.target anchors with
  | .scalar _ _ s => pure s
  | _ => failure

/-- The value of a node with collections nested up to a depth. An alias inside the node that it
    stands for is met again at every depth, so that it has no value. -/
def Node.value (anchors : List (Nat × Node)) : Nat → Node → Walk Doc
  | 0, n => do
    match ← n.target anchors with
    | .scalar tag isPlain s => StateT.lift (scalarValue tag isPlain s)
    | _ => failure
  | depth + 1, n => do
    match ← n.target anchors with
    | .scalar tag isPlain s => StateT.lift (scalarValue tag isPlain s)
    | .sequence tag items =>
      if tag = .own then failure
      else do
        let ds ← items.mapM (Node.value anchors depth)
        pure (.array ds)
    | .mapping tag pairs =>
      if tag = .own then failure
      else do
        let fields ← pairs.mapM fun (k, v) => do
          let name ← k.fieldName anchors
          let d ← Node.value anchors depth v
          pure (name, d)
        pure (Doc.ofFields fields)
    | _ => failure

def greatestDepth : Nat := 128

/-- How many aliases may be followed for each node boundary of the text. -/
def aliasAllowance : Nat := 100

def parse? (s : String) : Option Doc := do
  let ts ← Token.ofText? s
  match ← Node.ofTokens? ts with
  | none => some .null
  | some (n, boundaries) =>
    ((n.value (n.anchors []) greatestDepth).run (aliasAllowance * boundaries)).map (·.1)

end EndpointGen.Yaml
