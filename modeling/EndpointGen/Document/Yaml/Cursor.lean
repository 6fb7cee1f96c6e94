/- Cursors: places in a YAML text with their line and column. -/
import EndpointGen.Text.Utf8

namespace EndpointGen.Yaml

/-- What is left of the text from a place on, with the number of bytes before it. -/
structure Cursor where
  rest : List Char
  index : Nat := 0
  line : Nat := 0
  column : Nat := 0

def isBreak (c : Char) : Bool :=
  c == '\n' || c == '\r' || c == '\x85' || c == '\u2028' || c == '\u2029'

def isBlank (c : Char) : Bool := c == ' ' || c == '\t'

def atGap : List Char → Bool
  | [] => true
  | c :: _ => isBlank c || isBreak c

def atLineEnd : List Char → Bool
  | [] => true
  | c :: _ => isBreak c

/-- Three equal marks of a document boundary, followed by a gap. -/
def isBoundary (mark : Char) : List Char → Bool
  | a :: b :: c :: rest => a == mark && b == mark && c == mark && atGap rest
  | _ => false

def isAllowed (c : Char) : Bool :=
  c == '\t' || c == '\n' || c == '\r' || (' ' ≤ c && c ≤ '~') || c == '\x85' ||
    ('\xa0' ≤ c && c ≤ '\ud7ff') || ('\ue000' ≤ c && c ≤ '\ufffd') ||
    0x10000 ≤ c.toNat

namespace Cursor

def skip (c : Cursor) (n : Nat) : Cursor :=
  { c with
    rest := c.rest.drop n
    index := c.index + Text.Utf8.size (c.rest.take n)
    column := c.column + n }

def skipWhile (c : Cursor) (p : Char → Bool) : Cursor :=
  c.skip (c.rest.takeWhile p).length

/-- Past a line break; the text of the break, a line feed unless it is a separator of its own. -/
def takeBreak (c : Cursor) : List Char × Cursor :=
  match c.rest with
  | '\r' :: '\n' :: rest => (['\n'], ⟨rest, c.index + 2, c.line + 1, 0⟩)
  | '\u2028' :: rest => (['\u2028'], ⟨rest, c.index + 3, c.line + 1, 0⟩)
  | '\u2029' :: rest => (['\u2029'], ⟨rest, c.index + 3, c.line + 1, 0⟩)
  | b :: rest =>
    if isBreak b then (['\n'], ⟨rest, c.index + b.utf8Size, c.line + 1, 0⟩) else ([], c)
  | [] => ([], c)

def atBoundary (c : Cursor) : Bool :=
  c.column == 0 && (isBoundary '-' c.rest || isBoundary '.' c.rest)

end Cursor

end EndpointGen.Yaml
