/- The texts of YAML scalars: plain, quoted and block. -/
import EndpointGen.Document.Json
import EndpointGen.Document.Yaml.Cursor

namespace EndpointGen.Yaml

/-- Blanks and breaks between two words: blanks in reverse order on one line, or a first break with
    the breaks after it. -/
structure Gap where
  blanks : List Char := []
  broken : Bool := false
  firstBreak : List Char := []
  laterBreaks : List Char := []

namespace Gap

/-- What a gap inside a scalar stands for: one break is folded into a space, more of them keep all
    but the first. -/
def text (g : Gap) : List Char :=
  if g.broken then
    if g.firstBreak = ['\n'] then
      if g.laterBreaks.isEmpty then [' '] else g.laterBreaks
    else g.firstBreak ++ g.laterBreaks
  else g.blanks.reverse

/-- Past blanks and breaks; a tab left of the indentation is refused. -/
def take (indent : Int) : Nat → Gap → Cursor → Option (Gap × Cursor)
  | 0, g, c => some (g, c)
  | fuel + 1, g, c =>
    match c.rest with
    | [] => some (g, c)
    | b :: _ =>
      if isBlank b then
        if g.broken && (c.column : Int) < indent && b == '\t' then none
        else if g.broken then take indent fuel g (c.skip 1)
        else take indent fuel { g with blanks := b :: g.blanks } (c.skip 1)
      else if isBreak b then
        let (text, c) := c.takeBreak
        if g.broken then take indent fuel { g with laterBreaks := g.laterBreaks ++ text } c
        else take indent fuel { g with blanks := [], broken := true, firstBreak := text } c
      else some (g, c)

end Gap

def flowMarks : List Char := [',', '[', ']', '\x7b', '\x7d']

def plainWord (inFlow : Bool) (seen : List Char) : List Char → Option (List Char)
  | [] => some seen
  | c :: rest =>
    if isBlank c || isBreak c then some seen
    else if inFlow && c == ':' && ((rest.head?.map fun d => d == '?' || flowMarks.contains d)
        == some true) then none
    else if c == ':' && atGap rest then some seen
    else if inFlow && flowMarks.contains c then some seen
    else plainWord inFlow (c :: seen) rest

/-- A plain scalar: its text in reverse order, the cursor after it, and whether a line break was
    passed at its end. -/
def plainScalar (inFlow : Bool) (indent : Int) : Nat → List Char → Gap → Cursor →
    Option (List Char × Cursor × Bool)
  | 0, _, _, _ => none
  | fuel + 1, seen, gap, c =>
    if c.atBoundary || c.rest.head? == some '#' then some (seen, c, gap.broken)
    else do
      let word ← plainWord inFlow [] c.rest
      if word.isEmpty then some (seen, c, gap.broken)
      else
        let seen := word ++ gap.text.reverse ++ seen
        let c := c.skip word.length
        if atGap c.rest && !c.rest.isEmpty then
          let (gap, c) ← Gap.take indent fuel {} c
          if !inFlow && (c.column : Int) < indent then some (seen, c, gap.broken)
          else plainScalar inFlow indent fuel seen gap c
        else some (seen, c, false)

def simpleEscape? : Char → Option Char
  | '0' => some '\x00'
  | 'a' => some '\x07'
  | 'b' => some '\x08'
  | 't' => some '\t'
  | '\t' => some '\t'
  | 'n' => some '\n'
  | 'v' => some '\x0b'
  | 'f' => some '\x0c'
  | 'r' => some '\r'
  | 'e' => some '\x1b'
  | ' ' => some ' '
  | '"' => some '"'
  | '/' => some '/'
  | '\\' => some '\\'
  | 'N' => some '\x85'
  | '_' => some '\xa0'
  | 'L' => some '\u2028'
  | 'P' => some '\u2029'
  | _ => none

def escapeWidth? : Char → Option Nat
  | 'x' => some 2
  | 'u' => some 4
  | 'U' => some 8
  | _ => none

def hexNumber? (cs : List Char) : Option Nat :=
  cs.foldlM (fun n c => (Json.hexValue? c).map fun d => n * 16 + d) 0

def escape? (rest : List Char) : Option (Char × Nat) :=
  match rest with
  | [] => none
  | c :: rest =>
    match simpleEscape? c, escapeWidth? c with
    | some e, _ => some (e, 1)
    | none, none => none
    | none, some width => do
      let digits := rest.take width
      if digits.length < width then none
      else
        let n ← hexNumber? digits
        if (0xD800 ≤ n && n ≤ 0xDFFF) || 0x10FFFF < n then none
        else some (Char.ofNat n, width + 1)

inductive RunEnd where
  | closed
  | gap
  | escapedBreak

def quotedRun (single : Bool) : Nat → List Char → Cursor → Option (List Char × Cursor × RunEnd)
  | 0, _, _ => none
  | fuel + 1, seen, c =>
    match c.rest with
    | [] => some (seen, c, .gap)
    | '\'' :: '\'' :: _ =>
      if single then quotedRun single fuel ('\'' :: seen) (c.skip 2)
      else quotedRun single fuel ('\'' :: seen) (c.skip 1)
    | d :: rest =>
      if isBlank d || isBreak d then some (seen, c, .gap)
      else if d == (if single then '\'' else '"') then some (seen, c, .closed)
      else if !single && d == '\\' then
        match rest with
        | e :: _ =>
          if isBreak e then some (seen, (c.skip 1).takeBreak.2, .escapedBreak)
          else do
            let (e, width) ← escape? rest
            quotedRun single fuel (e :: seen) (c.skip (width + 1))
        | [] => none
      else quotedRun single fuel (d :: seen) (c.skip 1)

/-- A quoted scalar after its opening quote: its text in reverse order and the cursor after it. -/
def quotedScalar (single : Bool) : Nat → List Char → Cursor → Option (List Char × Cursor)
  | 0, _, _ => none
  | fuel + 1, seen, c =>
    if c.atBoundary || c.rest.isEmpty then none
    else do
      let (seen, c, ending) ← quotedRun single fuel seen c
      match ending with
      | .closed => some (seen, c.skip 1)
      | .gap =>
        let (gap, c) ← Gap.take (-1) fuel {} c
        quotedScalar single fuel (gap.text.reverse ++ seen) c
      | .escapedBreak =>
        let (gap, c) ← Gap.take (-1) fuel { broken := true } c
        quotedScalar single fuel (gap.text.reverse ++ seen) c

inductive Chomping where
  | strip
  | clip
  | keep

def chomping? : Char → Option Chomping
  | '+' => some .keep
  | '-' => some .strip
  | _ => none

def indentation? (c : Char) : Option Nat := if c.isDigit then some (c.toNat - '0'.toNat) else none

def blockHeader (c : Cursor) : Option (Chomping × Option Nat × Cursor) :=
  let nonzero (found : Chomping × Option Nat × Cursor) : Option (Chomping × Option Nat × Cursor) :=
    if found.2.1 = some 0 then none else some found
  match c.rest with
  | a :: rest =>
    match chomping? a, indentation? a with
    | some ch, _ =>
      match rest.head?.bind indentation? with
      | some n => nonzero (ch, some n, c.skip 2)
      | none => some (ch, none, c.skip 1)
    | none, some n =>
      match rest.head?.bind chomping? with
      | some ch => nonzero (ch, some n, c.skip 2)
      | none => nonzero (.clip, some n, c.skip 1)
    | none, none => some (.clip, none, c)
  | [] => some (.clip, none, c)

/-- Past indentation and empty lines: the breaks, the greatest column met and the cursor. An
    indentation of zero is still to be found. -/
def blockBreaks (indent : Nat) : Nat → List Char → Nat → Cursor →
    Option (List Char × Nat × Cursor)
  | 0, breaks, widest, c => some (breaks, widest, c)
  | fuel + 1, breaks, widest, c =>
    let spaces := (c.rest.takeWhile (· == ' ')).length
    let c := c.skip (if indent = 0 then spaces else min spaces (indent - c.column))
    let widest := max widest c.column
    if (indent = 0 || c.column < indent) && c.rest.head? == some '\t' then none
    else match c.rest with
      | b :: _ =>
        if isBreak b then
          let (text, c) := c.takeBreak
          blockBreaks indent fuel (breaks ++ text) widest c
        else some (breaks, widest, c)
      | [] => some (breaks, widest, c)

/-- The lines of a block scalar at its indentation: the text in reverse order, the break after it
    and the breaks after that. -/
def blockLines (literal : Bool) (indent : Nat) : Nat → List Char → List Char → List Char → Bool →
    Cursor → Option (List Char × List Char × List Char × Cursor)
  | 0, _, _, _, _, _ => none
  | fuel + 1, seen, lastBreak, breaks, startsBlank, c =>
    if c.column != indent || c.rest.isEmpty then some (seen, lastBreak, breaks, c)
    else do
      let blank := (c.rest.head?.map isBlank) == some true
      let joint : List Char :=
        if !literal && lastBreak == ['\n'] && !startsBlank && !blank then
          if breaks.isEmpty then [' '] else breaks
        else lastBreak ++ breaks
      let line := c.rest.takeWhile fun d => !isBreak d
      let seen := line.reverse ++ joint.reverse ++ seen
      let (lastBreak, c) := (c.skip line.length).takeBreak
      let (breaks, _, c) ← blockBreaks indent fuel [] 0 c
      blockLines literal indent fuel seen lastBreak breaks blank c

def blockScalar (literal : Bool) (parentIndent : Int) (fuel : Nat) (c : Cursor) :
    Option (List Char × Cursor) := do
  let (chomping, increment, c) ← blockHeader c
  let c := c.skipWhile isBlank
  let c := if c.rest.head? == some '#' then c.skipWhile fun d => !isBreak d else c
  if !atLineEnd c.rest then none
  else
    let c := c.takeBreak.2
    let given : Nat := match increment with
      | some n => ((max parentIndent 0) + n).toNat
      | none => 0
    let (breaks, widest, c) ← blockBreaks given fuel [] 0 c
    let indent := if given = 0 then max (max widest (parentIndent + 1).toNat) 1 else given
    let (seen, lastBreak, breaks, c) ← blockLines literal indent fuel [] [] breaks false c
    let tail : List Char := match chomping with
      | .strip => []
      | .clip => lastBreak
      | .keep => lastBreak ++ breaks
    some (seen.reverse ++ tail, c)

end EndpointGen.Yaml
