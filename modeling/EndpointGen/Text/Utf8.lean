/- UTF-8: the size of a text, and reading bytes as text. -/

namespace EndpointGen.Text.Utf8

def size (cs : List Char) : Nat := cs.foldl (fun n c => n + c.utf8Size) 0

def isContinuation (b : UInt8) : Bool := 0x80 ≤ b && b ≤ 0xBF

/-- The bounds of the byte after a leading byte, with the number of bytes that follow that one. -/
def afterLead? (b : UInt8) : Option (UInt8 × UInt8 × Nat) :=
  if 0xC2 ≤ b && b ≤ 0xDF then some (0x80, 0xBF, 0)
  else if b == 0xE0 then some (0xA0, 0xBF, 1)
  else if b == 0xED then some (0x80, 0x9F, 1)
  else if 0xE1 ≤ b && b ≤ 0xEF then some (0x80, 0xBF, 1)
  else if b == 0xF0 then some (0x90, 0xBF, 2)
  else if 0xF1 ≤ b && b ≤ 0xF3 then some (0x80, 0xBF, 2)
  else if b == 0xF4 then some (0x80, 0x8F, 2)
  else none

def leadBits (b : UInt8) : Nat :=
  if b < 0xE0 then b.toNat - 0xC0 else if b < 0xF0 then b.toNat - 0xE0 else b.toNat - 0xF0

/-- One character with its number of bytes; `none` with the length of the longest part that could
    have started a character. -/
def next (b : UInt8) (rest : List UInt8) : Option Char × Nat :=
  if b < 0x80 then (some (Char.ofNat b.toNat), 1)
  else match afterLead? b with
    | none => (none, 1)
    | some (low, high, more) =>
      match rest with
      | [] => (none, 1)
      | c :: rest =>
        if low ≤ c && c ≤ high then
          let tail := (rest.take more).takeWhile isContinuation
          let n := (c :: tail).foldl (fun n d => n * 64 + (d.toNat - 0x80)) (leadBits b)
          if tail.length = more then (some (Char.ofNat n), 2 + more) else (none, 2 + tail.length)
        else (none, 1)

def decode : Nat → List UInt8 → List (Option Char)
  | 0, _ => []
  | _, [] => []
  | fuel + 1, b :: rest =>
    let (c, n) := next b rest
    c :: decode fuel ((b :: rest).drop n)

def text? (bytes : List UInt8) : Option String :=
  ((decode bytes.length bytes).mapM id).map String.ofList

end EndpointGen.Text.Utf8
