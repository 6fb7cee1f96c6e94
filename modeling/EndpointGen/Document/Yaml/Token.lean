/- Tokens of a YAML text, with the starts and ends of block collections made explicit. -/
import EndpointGen.Document.Yaml.Scalar
import EndpointGen.Document.Yaml.Tag

namespace EndpointGen.Yaml

inductive Token where
  | version (major minor : Nat)
  | tagHandle (handle : String) (stem : List UInt8)
  | documentStart
  | documentEnd
  | blockSequenceStart
  | blockMappingStart
  | blockEnd
  | flowSequenceStart
  | flowSequenceEnd
  | flowMappingStart
  | flowMappingEnd
  | blockEntry
  | flowEntry
  | key
  | value
  | alias (name : String)
  | anchor (name : String)
  | tag (handle : String) (suffix : List UInt8)
  | scalar (isPlain : Bool) (text : String)
deriving DecidableEq, Repr

/-- A place where a mapping key may have started without a mark of its own. -/
structure KeyStart where
  required : Bool
  position : Nat
  index : Nat
  line : Nat
  column : Nat

/-- What has been read: tokens newest first, the indentations that are open, and for each open flow
    collection and the block around them the key that may be under way. -/
structure Lexing where
  cursor : Cursor
  tokens : List Token := []
  count : Nat := 0
  indent : Int := -1
  indents : List Int := []
  keyAllowed : Bool := true
  key? : Option KeyStart := none
  outerKeys : List (Option KeyStart) := []

namespace Lexing

def inFlow (s : Lexing) : Bool := !s.outerKeys.isEmpty

def emit (s : Lexing) (t : Token) : Lexing :=
  { s with tokens := t :: s.tokens, count := s.count + 1 }

def emitAt (s : Lexing) (position : Nat) (t : Token) : Lexing :=
  let later := s.count - position
  { s with
    tokens := s.tokens.take later ++ t :: s.tokens.drop later
    count := s.count + 1 }

def advance (s : Lexing) (n : Nat) : Lexing := { s with cursor := s.cursor.skip n }

/-- Drops the key that may be under way; one that has to be a key is refused. -/
def dropKey (s : Lexing) : Option Lexing :=
  match s.key? with
  | some k => if k.required then none else some { s with key? := none }
  | none => some s

def startKey (s : Lexing) : Option Lexing :=
  if s.keyAllowed then do
    let s ← s.dropKey
    let k : KeyStart :=
      ⟨!s.inFlow && s.indent == (s.cursor.column : Int), s.count, s.cursor.index, s.cursor.line,
        s.cursor.column⟩
    some { s with key? := some k }
  else some s

/-- The longest distance between the start of an unmarked key and its colon. -/
def keyReach : Nat := 1024

def isStale (c : Cursor) (k : KeyStart) : Bool :=
  k.line < c.line || k.index + keyReach < c.index

def freshKey (c : Cursor) : Option KeyStart → Option (Option KeyStart)
  | some k => if isStale c k then (if k.required then none else some none) else some (some k)
  | none => some none

/-- Gives up keys that are too far back. -/
def dropStale (s : Lexing) : Option Lexing := do
  let key ← freshKey s.cursor s.key?
  let outer ← s.outerKeys.mapM (freshKey s.cursor)
  some { s with key? := key, outerKeys := outer }

def openBlock (s : Lexing) (column : Nat) (position? : Option Nat) (t : Token) : Lexing :=
  if s.inFlow || (column : Int) ≤ s.indent then s
  else
    let s := { s with indents := s.indent :: s.indents, indent := column }
    match position? with
    | some position => s.emitAt position t
    | none => s.emit t

def closeBlocks (column : Int) : List Int → Lexing → Lexing
  | [], s => s
  | outer :: rest, s =>
    if column < s.indent then
      closeBlocks column rest { s.emit .blockEnd with indent := outer, indents := rest }
    else s

def closeTo (s : Lexing) (column : Int) : Lexing :=
  if s.inFlow then s else closeBlocks column s.indents s

/-- Past a byte order mark at the start of a line. -/
def skipMark (c : Cursor) : Cursor :=
  if c.column == 0 && c.rest.head? == some '\ufeff' then c.skip 1 else c

def toNextToken : Nat → Lexing → Lexing
  | 0, s => s
  | fuel + 1, s =>
    let c := (skipMark s.cursor).skipWhile fun d => d == ' ' || ((s.inFlow || !s.keyAllowed) && d == '\t')
    let c := if c.rest.head? == some '#' then c.skipWhile fun d => !isBreak d else c
    match c.rest with
    | b :: _ =>
      if isBreak b then
        toNextToken fuel
          { s with cursor := c.takeBreak.2, keyAllowed := s.keyAllowed || !s.inFlow }
      else { s with cursor := c }
    | [] => { s with cursor := c }

def isNameChar (c : Char) : Bool := c.isAlphanum || c == '_' || c == '-'

def isTagChar (verbatim : Bool) (c : Char) : Bool :=
  isNameChar c ||
    [';', '/', '?', ':', '@', '&', '=', '+', '$', '.', '!', '~', '*', '\'', '(', ')'].contains c ||
    (verbatim && [',', '[', ']'].contains c)

def escapedByte? : List Char → Option UInt8
  | '%' :: a :: b :: _ => (hexNumber? [a, b]).map Nat.toUInt8
  | _ => none

def groupSize? (lead : UInt8) : Option Nat :=
  if lead < 0x80 then some 1
  else if lead < 0xC0 then none
  else if lead < 0xE0 then some 2
  else if lead < 0xF0 then some 3
  else if lead < 0xF8 then some 4
  else none

/-- The escaped bytes of a tag that belong together. They need not make a character. -/
def escapedGroup? (rest : List Char) : Option (List UInt8) := do
  let lead ← escapedByte? rest
  let size ← groupSize? lead
  let tail ← (List.range (size - 1)).mapM fun i => escapedByte? (rest.drop (3 * (i + 1)))
  if tail.all Text.Utf8.isContinuation then some (lead :: tail) else none

/-- The bytes of a tag, in reverse order, and the number of characters it takes. -/
def tagBytes (verbatim : Bool) : Nat → List UInt8 → Nat → List Char → Option (List UInt8 × Nat)
  | 0, seen, n, _ => some (seen, n)
  | fuel + 1, seen, n, rest =>
    match rest with
    | [] => some (seen, n)
    | '%' :: _ => do
      let group ← escapedGroup? rest
      let width := 3 * group.length
      tagBytes verbatim fuel (group.reverse ++ seen) (n + width) (rest.drop width)
    | c :: rest =>
      if isTagChar verbatim c then tagBytes verbatim fuel (c.toNat.toUInt8 :: seen) (n + 1) rest
      else some (seen, n)

def directive (fuel : Nat) (s : Lexing) : Option Lexing := do
  let c := s.cursor.skip 1
  let name := c.rest.takeWhile isNameChar
  let c := c.skip name.length
  if name.isEmpty || !atGap c.rest then none
  else
    let c := c.skipWhile isBlank
    let (token, c) ←
      if name = ['Y', 'A', 'M', 'L'] then do
        let major := c.rest.takeWhile Char.isDigit
        let c := c.skip major.length
        let minor := (c.rest.drop 1).takeWhile Char.isDigit
        if major.isEmpty || 9 < major.length || minor.isEmpty || 9 < minor.length ||
            c.rest.head? != some '.' then none
        else
          let number (ds : List Char) : Nat := ds.foldl (fun n d => n * 10 + Json.digitValue d) 0
          some (Token.version (number major) (number minor), c.skip (1 + minor.length))
      else if name = ['T', 'A', 'G'] then do
        if c.rest.head? != some '!' then none
        else
          let word := (c.rest.drop 1).takeWhile isNameChar
          let closed := (c.rest.drop (1 + word.length)).head? == some '!'
          if !closed && !word.isEmpty then none
          else
            let handle := '!' :: word ++ (if closed then ['!'] else [])
            let c := c.skip handle.length
            if (c.rest.head?.map isBlank) != some true then none
            else
              let c := c.skipWhile isBlank
              let (stem, n) ← tagBytes true fuel [] 0 c.rest
              let c := c.skip n
              if stem.isEmpty || !atGap c.rest then none
              else some (Token.tagHandle (String.ofList handle) (Tag.untilZero stem.reverse), c)
      else none
    let c := c.skipWhile isBlank
    let c := if c.rest.head? == some '#' then c.skipWhile fun d => !isBreak d else c
    if !atLineEnd c.rest then none
    else
      let s := { s with cursor := c.takeBreak.2 }
      some (s.emit token)

def nodeName (c : Cursor) : Option (String × Cursor) :=
  let name := (c.rest.drop 1).takeWhile isNameChar
  let c := c.skip (1 + name.length)
  let ends := atGap c.rest ||
    ((c.rest.head?.map fun d => ['?', ':', ',', ']', '\x7d', '%', '@', '`'].contains d)
      == some true)
  if name.isEmpty || !ends then none else some (String.ofList name, c)

/-- A tag: verbatim in angle brackets, or a handle with a suffix. -/
def tagToken (inFlow : Bool) (fuel : Nat) (c : Cursor) : Option (Token × Cursor) := do
  let (token, c) ← match c.rest with
    | '!' :: '<' :: rest => do
      let (bytes, n) ← tagBytes true fuel [] 0 rest
      let c := c.skip (2 + n)
      if bytes.isEmpty || c.rest.head? != some '>' then none
      else some (Token.tag "" (Tag.untilZero bytes.reverse), c.skip 1)
    | _ => do
      let word := (c.rest.drop 1).takeWhile isNameChar
      let after := c.rest.drop (1 + word.length)
      if after.head? == some '!' then
        let handle := String.ofList ('!' :: word ++ ['!'])
        let c := c.skip (2 + word.length)
        let (bytes, n) ← tagBytes false fuel [] 0 c.rest
        if bytes.isEmpty then none
        else some (Token.tag handle (Tag.untilZero bytes.reverse), c.skip n)
      else
        let (bytes, n) ← tagBytes false fuel [] 0 after
        let suffix := Tag.untilZero (Tag.bytes (String.ofList word) ++ bytes.reverse)
        let c := c.skip (1 + word.length + n)
        if suffix.isEmpty then some (Token.tag "" Tag.ownStem, c)
        else some (Token.tag "!" suffix, c)
  if atGap c.rest || (inFlow && c.rest.head? == some ',') then some (token, c) else none

def openFlow (s : Lexing) (t : Token) : Option Lexing := do
  let s ← s.startKey
  let s := { s with outerKeys := s.key? :: s.outerKeys, key? := none, keyAllowed := true }
  some ((s.emit t).advance 1)

def closeFlow (s : Lexing) (t : Token) : Option Lexing := do
  let s ← s.dropKey
  let s := match s.outerKeys with
    | [] => s
    | k :: rest => { s with key? := k, outerKeys := rest }
  some (({ s with keyAllowed := false }.emit t).advance 1)

def blockMark (s : Lexing) (opens mark : Token) (allowedAfter : Bool) : Option Lexing := do
  if !s.inFlow && !s.keyAllowed then none
  else
    let s := s.openBlock s.cursor.column none opens
    let s ← s.dropKey
    some (({ s with keyAllowed := allowedAfter }.emit mark).advance 1)

/-- A colon after a key, or one that starts a value without a key. -/
def valueMark (s : Lexing) : Option Lexing :=
  match s.key? with
  | some k =>
    let s := s.emitAt k.position .key
    let s := s.openBlock k.column (some k.position) .blockMappingStart
    some (({ s with key? := none, keyAllowed := false }.emit .value).advance 1)
  | none =>
    if !s.inFlow && !s.keyAllowed then none
    else
      let s := s.openBlock s.cursor.column none .blockMappingStart
      some (({ s with keyAllowed := !s.inFlow }.emit .value).advance 1)

def boundary (s : Lexing) (t : Token) : Option Lexing := do
  let s ← (s.closeTo (-1)).dropKey
  some (({ s with keyAllowed := false }.emit t).advance 3)

def quotedToken (fuel : Nat) (s : Lexing) (single : Bool) : Option Lexing := do
  let s ← s.startKey
  let c := s.cursor.skip 1
  let (text, c) ← quotedScalar single fuel [] c
  some ({ s with keyAllowed := false, cursor := c }.emit
    (.scalar false (String.ofList text.reverse)))

def blockToken (fuel : Nat) (s : Lexing) (literal : Bool) : Option Lexing := do
  let s ← s.dropKey
  let (text, c) ← blockScalar literal s.indent fuel (s.cursor.skip 1)
  some ({ s with keyAllowed := true, cursor := c }.emit (.scalar false (String.ofList text)))

def plainToken (fuel : Nat) (s : Lexing) : Option Lexing := do
  let s ← s.startKey
  let c := s.cursor
  let (text, c, broke) ← plainScalar s.inFlow (s.indent + 1) fuel [] {} c
  some ({ s with keyAllowed := broke, cursor := c }.emit
    (.scalar true (String.ofList text.reverse)))

def indicators : List Char :=
  ['-', '?', ':', ',', '[', ']', '\x7b', '\x7d', '#', '&', '*', '!', '|', '>', '\'', '"', '%', '@',
    '`']

def startsPlain (inFlow : Bool) (c : Char) (rest : List Char) : Bool :=
  !(isBlank c || isBreak c || indicators.contains c) ||
    (c == '-' && (rest.head?.map isBlank) != some true) ||
    (!inFlow && (c == '?' || c == ':') && !atGap rest)

/-- Reads one token; the second part says whether the text is at its end. The fuel is more than the
    characters that are left. -/
def next (fuel : Nat) (s : Lexing) : Option (Lexing × Bool) := do
  let s := toNextToken fuel s
  let s ← s.dropStale
  let s := s.closeTo s.cursor.column
  let c := s.cursor
  let more (s : Option Lexing) : Option (Lexing × Bool) := s.map fun s => (s, false)
  match c.rest with
  | [] => do
    let s ← (s.closeTo (-1)).dropKey
    some (s, true)
  | d :: rest =>
    if c.column == 0 && d == '%' then
      more (do
        let s ← (s.closeTo (-1)).dropKey
        { s with keyAllowed := false }.directive fuel)
    else if c.column == 0 && isBoundary '-' c.rest then more (s.boundary .documentStart)
    else if c.column == 0 && isBoundary '.' c.rest then more (s.boundary .documentEnd)
    else if d == '[' then more (s.openFlow .flowSequenceStart)
    else if d == '\x7b' then more (s.openFlow .flowMappingStart)
    else if d == ']' then more (s.closeFlow .flowSequenceEnd)
    else if d == '\x7d' then more (s.closeFlow .flowMappingEnd)
    else if d == ',' then
      more (s.dropKey.map fun s => ({ s with keyAllowed := true }.emit .flowEntry).advance 1)
    else if d == '-' && atGap rest then more (s.blockMark .blockSequenceStart .blockEntry true)
    else if d == '?' && (s.inFlow || atGap rest) then
      more (s.blockMark .blockMappingStart .key (!s.inFlow))
    else if d == ':' && (s.inFlow || atGap rest) then more s.valueMark
    else if d == '*' || d == '&' then
      more (do
        let s ← s.startKey
        let (name, c) ← nodeName s.cursor
        some ({ s with keyAllowed := false, cursor := c }.emit
          (if d == '*' then .alias name else .anchor name)))
    else if d == '!' then
      more (do
        let s ← s.startKey
        let (token, c) ← tagToken s.inFlow fuel s.cursor
        some ({ s with keyAllowed := false, cursor := c }.emit token))
    else if d == '|' && !s.inFlow then more (blockToken fuel s true)
    else if d == '>' && !s.inFlow then more (blockToken fuel s false)
    else if d == '\'' then more (quotedToken fuel s true)
    else if d == '"' then more (quotedToken fuel s false)
    else if startsPlain s.inFlow d rest then more (plainToken fuel s)
    else none

def all : Nat → Lexing → Option (List Token)
  | 0, _ => none
  | fuel + 1, s => do
    let (s, done) ← next fuel s
    if done then some s.tokens.reverse else all fuel s

end Lexing

/-- The tokens of a text in order; none where it is not made of tokens. -/
def Token.ofText? (s : String) : Option (List Token) :=
  let cs := s.toList
  if cs.all isAllowed then Lexing.all (cs.length + 2) { cursor := { rest := cs } } else none

end EndpointGen.Yaml
