/- Reading TOML text made of `key = value` lines, with texts, booleans and arrays as values.
   Other values, dotted keys and tables have no place in a configuration and are refused. -/
import EndpointGen.Document.Json

namespace EndpointGen.Toml

def isSpace (c : Char) : Bool := c == ' ' || c == '\t'

def skipSpace (cs : List Char) : List Char := cs.dropWhile isSpace

/-- A control character other than the tab. -/
def isControl (c : Char) : Bool := (c.toNat < 0x20 && c != '\t') || c == '\x7f'

/-- Past a line break: a line feed, with or without a carriage return. -/
def lineBreak? : List Char → Option (List Char)
  | '\n' :: rest => some rest
  | '\r' :: '\n' :: rest => some rest
  | _ => none

def skipComment : List Char → List Char
  | '#' :: rest => rest.dropWhile fun c => !isControl c
  | cs => cs

def skipLines : Nat → List Char → List Char
  | 0, cs => cs
  | fuel + 1, cs =>
    let cs := skipComment (skipSpace cs)
    match lineBreak? cs with
    | some rest => skipLines fuel rest
    | none => cs

def isBareKeyChar (c : Char) : Bool := c.isAlphanum || c == '_' || c == '-'

def simpleEscape? : Char → Option Char
  | 'b' => some '\x08'
  | 't' => some '\t'
  | 'n' => some '\n'
  | 'f' => some '\x0c'
  | 'r' => some '\r'
  | 'e' => some '\x1b'
  | '"' => some '"'
  | '\\' => some '\\'
  | _ => none

def escapeWidth? : Char → Option Nat
  | 'x' => some 2
  | 'u' => some 4
  | 'U' => some 8
  | _ => none

def hexNumber? (cs : List Char) : Option Nat :=
  cs.foldlM (fun n c => (Json.hexValue? c).map fun d => n * 16 + d) 0

def escape? : List Char → Option (Char × List Char)
  | [] => none
  | c :: rest =>
    match simpleEscape? c, escapeWidth? c with
    | some e, _ => some (e, rest)
    | none, none => none
    | none, some width =>
      if (rest.take width).length < width then none
      else (hexNumber? (rest.take width)).bind fun n =>
        if (0xD800 ≤ n && n ≤ 0xDFFF) || 0x10FFFF < n then none
        else some (Char.ofNat n, rest.drop width)

/-- Past the blanks and line breaks that an escaped line break swallows. -/
def swallow : Nat → List Char → List Char
  | 0, cs => cs
  | fuel + 1, cs =>
    match lineBreak? (skipSpace cs) with
    | some rest => swallow fuel rest
    | none => skipSpace cs

/-- How a text is written: its quote, whether it has escapes, and whether it spans lines. -/
structure Quoting where
  quote : Char
  escapes : Bool
  spansLines : Bool

/-- The end of a text at its closing quotes; up to two quotes in front of three belong to it. -/
def closing? (q : Quoting) (cs : List Char) : Option (List Char × List Char) :=
  let run := (cs.takeWhile (· == q.quote)).length
  if q.spansLines then
    if run < 3 then none
    else some (List.replicate (min run 5 - 3) q.quote, cs.drop (min run 5))
  else if run = 0 then none
  else some ([], cs.drop 1)

/-- The text after its opening quotes, in reverse order of what was read before it; line breaks
    stay as they are written. -/
def quoted (q : Quoting) : Nat → List Char → List Char → Option (String × List Char)
  | 0, _, _ => none
  | fuel + 1, seen, cs =>
    match closing? q cs with
    | some (quotes, rest) => some (String.ofList (seen.reverse ++ quotes), rest)
    | none =>
      match cs with
      | [] => none
      | c :: rest =>
        if q.escapes && c == '\\' then
          match escape? rest with
          | some (e, rest) => quoted q fuel (e :: seen) rest
          | none =>
            if q.spansLines && (lineBreak? (skipSpace rest)).isSome then
              quoted q fuel seen (swallow fuel rest)
            else none
        else match lineBreak? cs with
          | some _ => if q.spansLines then quoted q fuel (c :: seen) rest else none
          | none => if isControl c then none else quoted q fuel (c :: seen) rest

/-- A text that spans lines does not begin with the line break after its quotes. -/
def afterOpening (cs : List Char) : List Char := (lineBreak? cs).getD cs

def text? (fuel : Nat) (cs : List Char) : Option (String × List Char) :=
  match cs with
  | '"' :: '"' :: '"' :: rest => quoted ⟨'"', true, true⟩ fuel [] (afterOpening rest)
  | '\'' :: '\'' :: '\'' :: rest => quoted ⟨'\'', false, true⟩ fuel [] (afterOpening rest)
  | '"' :: rest => quoted ⟨'"', true, false⟩ fuel [] rest
  | '\'' :: rest => quoted ⟨'\'', false, false⟩ fuel [] rest
  | _ => none

mutual

def value? : Nat → List Char → Option (Doc × List Char)
  | 0, _ => none
  | fuel + 1, cs =>
    match cs with
    | 't' :: 'r' :: 'u' :: 'e' :: rest => some (.bool true, rest)
    | 'f' :: 'a' :: 'l' :: 's' :: 'e' :: rest => some (.bool false, rest)
    | '[' :: rest => items? fuel [] rest
    | cs => (text? fuel cs).map fun (s, rest) => (.string s, rest)

def items? : Nat → List Doc → List Char → Option (Doc × List Char)
  | 0, _, _ => none
  | fuel + 1, seen, cs =>
    match skipLines fuel cs with
    | ']' :: rest => some (.array seen.reverse, rest)
    | cs =>
      match value? fuel cs with
      | none => none
      | some (d, rest) =>
        match skipLines fuel rest with
        | ',' :: rest => items? fuel (d :: seen) rest
        | ']' :: rest => some (.array (d :: seen).reverse, rest)
        | _ => none

end

def key? (fuel : Nat) (cs : List Char) : Option (String × List Char) :=
  match cs with
  | '"' :: rest => quoted ⟨'"', true, false⟩ fuel [] rest
  | '\'' :: rest => quoted ⟨'\'', false, false⟩ fuel [] rest
  | cs =>
    let name := cs.takeWhile isBareKeyChar
    if name.isEmpty then none else some (String.ofList name, cs.dropWhile isBareKeyChar)

def field? (fuel : Nat) (cs : List Char) : Option ((String × Doc) × List Char) := do
  let (name, rest) ← key? fuel cs
  match skipSpace rest with
  | '=' :: rest => do
    let (d, rest) ← value? fuel (skipSpace rest)
    some ((name, d), rest)
  | _ => none

/-- The fields of all lines; a name may be given only once. -/
def lines? : Nat → List (String × Doc) → List Char → Option (List (String × Doc))
  | 0, _, _ => none
  | fuel + 1, seen, cs =>
    match skipLines fuel cs with
    | [] => some seen.reverse
    | cs => do
      let (f, rest) ← field? fuel cs
      if (seen.lookup f.1).isSome then none
      else
        let rest := skipComment (skipSpace rest)
        match rest, lineBreak? rest with
        | [], _ => some (f :: seen).reverse
        | _, some rest => lines? fuel (f :: seen) rest
        | _, none => none

def parse? (s : String) : Option Doc :=
  let cs := s.toList
  let cs := if cs.head? == some '\ufeff' then cs.drop 1 else cs
  (lines? (2 * cs.length + 4) [] cs).map Doc.ofFields

end EndpointGen.Toml
