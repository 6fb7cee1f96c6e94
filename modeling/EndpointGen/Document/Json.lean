/- Reading and writing JSON text. -/
import EndpointGen.Document.Basic
import EndpointGen.Text.Utf8

namespace EndpointGen.Json

open Decimal

/-- Why a text is not JSON: it ends too early, or it goes wrong before its end. -/
inductive Fault where
  | unfinished
  | malformed
deriving DecidableEq, Repr

def isSpace (c : Char) : Bool := c == ' ' || c == '\n' || c == '\t' || c == '\r'

def skipSpace (cs : List Char) : List Char := cs.dropWhile isSpace

def expect : List Char → List Char → Except Fault (List Char)
  | [], cs => .ok cs
  | _ :: _, [] => .error .unfinished
  | w :: ws, c :: cs => if w = c then expect ws cs else .error .malformed

/-- The greatest integer that is kept: `2 ^ 64 - 1`. -/
def greatestWord : Nat := 0xFFFFFFFFFFFFFFFF

/-- The size of the least integer that is kept: `2 ^ 63`. -/
def greatestNegated : Nat := 0x8000000000000000

def digitValue (c : Char) : Nat := c.toNat - '0'.toNat

/-- Takes digits into a 64-bit significand and gives back those that no longer fit. -/
def absorb (significand : Nat) : List Char → Nat × List Char
  | [] => (significand, [])
  | c :: cs =>
    let next := significand * 10 + digitValue c
    if next ≤ greatestWord then absorb next cs else (significand, c :: cs)

def powerOfTen (k : Nat) : Binary64 := (Binary64.ofRatio? false (Nat.pow 10 k) 1).getD (Binary64.zero false)

def scaleDown : Nat → Binary64 → Int → Binary64 × Int
  | 0, x, scale => (x, scale)
  | fuel + 1, x, scale =>
    if scale < -308 ∧ x.isZero = false then
      scaleDown fuel ((x.div? (powerOfTen 308)).getD x) (scale + 308)
    else (x, scale)

/-- `significand * 10 ^ scale` by one rounding to binary64 and one product or quotient;
    `none` beyond the greatest finite number. -/
def magnitude? (significand : Nat) (scale : Int) : Option Binary64 := do
  let x ← Binary64.ofRatio? false significand 1
  let (x, scale) := scaleDown 4 x scale
  if x.isZero then pure x
  else if scale < 0 then x.div? (powerOfTen scale.natAbs)
  else if 308 < scale then none
  else x.mul? (powerOfTen scale.toNat)

def floating (negative : Bool) (significand : Nat) (scale : Int) : Except Fault Doc :=
  match magnitude? significand scale with
  | some x => .ok (.float (if negative then x.neg else x))
  | none => .error .malformed

/-- The greatest exponent that is read as written: `2 ^ 31 - 1`. -/
def greatestExponent : Nat := 0x7FFFFFFF

def exponent (negative : Bool) (significand : Nat) (scale : Int) (cs : List Char) : Except Fault (Doc × List Char) := do
  let (raises, cs) := match cs with
    | '+' :: cs => (true, cs)
    | '-' :: cs => (false, cs)
    | cs => (true, cs)
  match cs with
  | [] => .error .unfinished
  | c :: _ =>
    if !c.isDigit then .error .malformed
    else
      let n := (cs.takeWhile Char.isDigit).foldl (fun n c => n * 10 + digitValue c) 0
      let rest := cs.dropWhile Char.isDigit
      if greatestExponent < n then
        if significand ≠ 0 ∧ raises then .error .malformed
        else .ok (.float (Binary64.zero negative), rest)
      else
        let d ← floating negative significand (if raises then scale + n else scale - n)
        .ok (d, rest)

def number (negative : Bool) (cs : List Char) : Except Fault (Doc × List Char) := do
  let whole := cs.takeWhile Char.isDigit
  let rest := cs.dropWhile Char.isDigit
  match whole with
  | [] => if cs.isEmpty then .error .unfinished else .error .malformed
  | '0' :: _ :: _ => .error .malformed
  | _ =>
    let (significand, surplus) := absorb 0 whole
    let scale : Int := surplus.length
    match rest with
    | '.' :: rest =>
      let places := rest.takeWhile Char.isDigit
      let rest := rest.dropWhile Char.isDigit
      if places.isEmpty then
        if rest.isEmpty then .error .unfinished else .error .malformed
      else
        let (significand, left) := absorb significand places
        let scale := scale - (places.length - left.length : Nat)
        match rest with
        | 'e' :: rest => exponent negative significand scale rest
        | 'E' :: rest => exponent negative significand scale rest
        | rest => do
          let d ← floating negative significand scale
          .ok (d, rest)
    | 'e' :: rest => exponent negative significand scale rest
    | 'E' :: rest => exponent negative significand scale rest
    | rest =>
      if surplus.isEmpty ∧ ¬ negative then .ok (.int significand, rest)
      else if surplus.isEmpty ∧ 0 < significand ∧ significand ≤ greatestNegated then
        .ok (.int (-(significand : Int)), rest)
      else do
        let d ← floating negative significand scale
        .ok (d, rest)

def hexValue? (c : Char) : Option Nat :=
  if c.isDigit then some (c.toNat - '0'.toNat)
  else if 'a' ≤ c ∧ c ≤ 'f' then some (c.toNat - 'a'.toNat + 10)
  else if 'A' ≤ c ∧ c ≤ 'F' then some (c.toNat - 'A'.toNat + 10)
  else none

/-- Four hexadecimal digits; fewer than four remaining bytes are an early end. -/
def hexQuad (cs : List Char) : Except Fault (Nat × List Char) :=
  if Text.Utf8.size (cs.take 4) < 4 then .error .unfinished
  else match cs with
    | a :: b :: c :: d :: rest =>
      match hexValue? a, hexValue? b, hexValue? c, hexValue? d with
      | some a, some b, some c, some d => .ok (((a * 16 + b) * 16 + c) * 16 + d, rest)
      | _, _, _, _ => .error .malformed
    | _ => .error .malformed

def isHighSurrogate (n : Nat) : Bool := 0xD800 ≤ n && n ≤ 0xDBFF

def isLowSurrogate (n : Nat) : Bool := 0xDC00 ≤ n && n ≤ 0xDFFF

/-- The character of a numeric escape; a surrogate has to come in a pair. -/
def numericEscape (cs : List Char) : Except Fault (Char × List Char) := do
  let (n, cs) ← hexQuad cs
  if isLowSurrogate n then .error .malformed
  else if isHighSurrogate n then
    match cs with
    | [] => .error .unfinished
    | '\\' :: [] => .error .unfinished
    | '\\' :: 'u' :: cs =>
      let (m, cs) ← hexQuad cs
      if isLowSurrogate m then
        .ok (Char.ofNat (0x10000 + (n - 0xD800) * 0x400 + (m - 0xDC00)), cs)
      else .error .malformed
    | _ => .error .malformed
  else .ok (Char.ofNat n, cs)

def simpleEscape? : Char → Option Char
  | '"' => some '"'
  | '\\' => some '\\'
  | '/' => some '/'
  | 'b' => some '\x08'
  | 'f' => some '\x0c'
  | 'n' => some '\n'
  | 'r' => some '\r'
  | 't' => some '\t'
  | _ => none

/-- The text after an opening quote, in reverse order of what was read before it. -/
def quoted : Nat → List Char → List Char → Except Fault (String × List Char)
  | 0, _, _ => .error .unfinished
  | _, _, [] => .error .unfinished
  | fuel + 1, seen, c :: cs =>
    if c = '"' then .ok (String.ofList seen.reverse, cs)
    else if c = '\\' then
      match cs with
      | [] => .error .unfinished
      | 'u' :: cs => do
        let (e, cs) ← numericEscape cs
        quoted fuel (e :: seen) cs
      | e :: cs =>
        match simpleEscape? e with
        | some e => quoted fuel (e :: seen) cs
        | none => .error .malformed
    else if c.toNat < 0x20 then .error .malformed
    else quoted fuel (c :: seen) cs

mutual

/-- One value, with the number of containers that may still be opened. -/
def value : Nat → Nat → List Char → Except Fault (Doc × List Char)
  | 0, _, _ => .error .malformed
  | fuel + 1, depth, cs =>
    match skipSpace cs with
    | [] => .error .unfinished
    | 'n' :: cs => do .ok (.null, ← expect ['u', 'l', 'l'] cs)
    | 't' :: cs => do .ok (.bool true, ← expect ['r', 'u', 'e'] cs)
    | 'f' :: cs => do .ok (.bool false, ← expect ['a', 'l', 's', 'e'] cs)
    | '-' :: cs => number true cs
    | '"' :: cs => do
      let (s, cs) ← quoted fuel [] cs
      .ok (.string s, cs)
    | '[' :: cs =>
      if depth = 0 then .error .malformed
      else match skipSpace cs with
        | ']' :: cs => .ok (.array [], cs)
        | cs => items fuel (depth - 1) [] cs
    | '\x7b' :: cs =>
      if depth = 0 then .error .malformed
      else match skipSpace cs with
        | '\x7d' :: cs => .ok (.object [], cs)
        | cs => fields fuel (depth - 1) [] cs
    | c :: cs => if c.isDigit then number false (c :: cs) else .error .malformed

def items : Nat → Nat → List Doc → List Char → Except Fault (Doc × List Char)
  | 0, _, _, _ => .error .malformed
  | fuel + 1, depth, seen, cs => do
    let (d, cs) ← value fuel depth cs
    match skipSpace cs with
    | ']' :: cs => .ok (.array (d :: seen).reverse, cs)
    | ',' :: cs =>
      match skipSpace cs with
      | ']' :: _ => .error .malformed
      | cs => items fuel depth (d :: seen) cs
    | [] => .error .unfinished
    | _ => .error .malformed

def fields : Nat → Nat → List (String × Doc) → List Char → Except Fault (Doc × List Char)
  | 0, _, _, _ => .error .malformed
  | fuel + 1, depth, seen, cs =>
    match skipSpace cs with
    | [] => .error .unfinished
    | '"' :: cs => do
      let (name, cs) ← quoted fuel [] cs
      match skipSpace cs with
      | [] => .error .unfinished
      | ':' :: cs => do
        let (d, cs) ← value fuel depth cs
        match skipSpace cs with
        | '\x7d' :: cs => .ok (Doc.ofFields ((name, d) :: seen).reverse, cs)
        | ',' :: cs => fields fuel depth ((name, d) :: seen) cs
        | [] => .error .unfinished
        | _ => .error .malformed
      | _ => .error .malformed
    | _ => .error .malformed

end

def greatestDepth : Nat := 127

def parse (s : String) : Except Fault Doc := do
  let cs := s.toList
  let (d, rest) ← value (2 * cs.length + 4) greatestDepth cs
  if (skipSpace rest).isEmpty then .ok d else .error .malformed

def escape (c : Char) : List Char :=
  if c = '"' then ['\\', '"']
  else if c = '\\' then ['\\', '\\']
  else if c.toNat < 0x20 then
    let h := Nat.toDigits 16 c.toNat
    ['\\', 'u', '0', '0'] ++ List.replicate (2 - h.length) '0' ++ h
  else [c]

def renderString (s : String) : String :=
  String.ofList ('"' :: s.toList.flatMap escape ++ ['"'])

mutual

def render : Doc → String
  | .null => "null"
  | .bool true => "true"
  | .bool false => "false"
  | .int n => toString n
  | .float x => x.text
  | .string s => renderString s
  | .array [] => "[]"
  | .array (d :: ds) => "[" ++ render d ++ renderItems ds ++ "]"
  | .object [] => "\x7b\x7d"
  | .object (f :: fs) => "\x7b" ++ renderField f ++ renderFields fs ++ "\x7d"

def renderItems : List Doc → String
  | [] => ""
  | d :: ds => "," ++ render d ++ renderItems ds

def renderField : String × Doc → String
  | (name, d) => renderString name ++ ":" ++ render d

def renderFields : List (String × Doc) → String
  | [] => ""
  | f :: fs => "," ++ renderField f ++ renderFields fs

end

end EndpointGen.Json
