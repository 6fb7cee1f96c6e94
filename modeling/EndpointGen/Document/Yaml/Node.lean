/- Nodes: the trees that the tokens of a YAML text stand for. -/
import EndpointGen.Document.Yaml.Token

namespace EndpointGen.Yaml

/-- Anchors and aliases meet by number. -/
inductive Node where
  | scalar (tag : Tag) (isPlain : Bool) (text : String)
  | sequence (tag : Tag) (items : List Node)
  | mapping (tag : Tag) (pairs : List (Node × Node))
  | anchored (number : Nat) (node : Node)
  | alias (number : Nat)

/-- What is left to read, the handles of tags, the numbers of the anchors met so far, and the number
    of node boundaries met. -/
structure Reader where
  tokens : List Token
  handles : List (String × List UInt8)
  anchors : List (String × Nat)
  boundaries : Nat

namespace Reader

def head? (r : Reader) : Option Token := r.tokens.head?

def drop (r : Reader) : Reader := { r with tokens := r.tokens.tail }

def count (r : Reader) (n : Nat) : Reader := { r with boundaries := r.boundaries + n }

/-- The number of an anchor: how many names have been anchors before it. So a name that was one
    already shares its number with the next new name. -/
def nameAnchor (r : Reader) : Option String → Option Nat × Reader
  | some name =>
    let number := r.anchors.length
    (some number, { r with anchors := (name, number) :: r.anchors.filter fun a => a.1 != name })
  | none => (none, r)

end Reader

structure Properties where
  anchor : Option String := none
  tag : Option (String × List UInt8) := none

def Properties.isEmpty (p : Properties) : Bool := p.anchor.isNone && p.tag.isNone

/-- An anchor and a tag, in either order, each at most once. -/
def properties (r : Reader) : Properties × Reader :=
  match r.tokens with
  | .anchor name :: .tag handle suffix :: rest =>
    (⟨some name, some (handle, suffix)⟩, { r with tokens := rest })
  | .tag handle suffix :: .anchor name :: rest =>
    (⟨some name, some (handle, suffix)⟩, { r with tokens := rest })
  | .anchor name :: rest => (⟨some name, none⟩, { r with tokens := rest })
  | .tag handle suffix :: rest => (⟨none, some (handle, suffix)⟩, { r with tokens := rest })
  | _ => ({}, r)

def resolveTag (r : Reader) : Option (String × List UInt8) → Option Tag
  | none => some .silent
  | some (handle, suffix) =>
    if handle = "" then some (Tag.ofBytes suffix)
    else (r.handles.lookup handle).map fun stem => Tag.ofBytes (stem ++ suffix)

def emptyScalar (tag : Tag) : Node := .scalar tag true ""

def absent (r : Reader) : Node × Reader := (emptyScalar .silent, r.count 1)

def Node.underAnchor (n : Node) : Option Nat → Node
  | some number => .anchored number n
  | none => n

def isOneOf (ts : List Token) (t : Option Token) : Bool :=
  match t with
  | some t => ts.contains t
  | none => true

mutual

/-- A node, in a block or in a flow collection; a sequence that is the value of a key need not be
    indented. -/
def node : Nat → Bool → Bool → Reader → Option (Node × Reader)
  | 0, _, _, _ => none
  | fuel + 1, inBlock, unindented, r =>
    match r.tokens with
    | .alias name :: rest => do
      let number ← r.anchors.lookup name
      some (.alias number, { r with tokens := rest }.count 1)
    | _ => do
      let (p, r) := properties r
      let tag ← resolveTag r p.tag
      let (number, r) := r.nameAnchor p.anchor
      let opened := r.count 2
      let empty : Option (Node × Reader) :=
        if p.isEmpty then none else some (emptyScalar tag, r.count 1)
      let found ← match r.tokens with
        | .blockEntry :: _ => if unindented then unindentedItems fuel tag [] opened else empty
        | .scalar isPlain text :: rest =>
          some (.scalar tag isPlain text, { r with tokens := rest }.count 1)
        | .flowSequenceStart :: _ => flowItems fuel tag [] opened.drop
        | .flowMappingStart :: _ => flowPairs fuel tag [] opened.drop
        | .blockSequenceStart :: _ => if inBlock then blockItems fuel tag [] opened.drop else empty
        | .blockMappingStart :: _ => if inBlock then blockPairs fuel tag [] opened.drop else empty
        | _ => empty
      some (found.1.underAnchor number, found.2)

def blockItems : Nat → Tag → List Node → Reader → Option (Node × Reader)
  | 0, _, _, _ => none
  | fuel + 1, tag, seen, r =>
    match r.tokens with
    | .blockEntry :: _ => do
      let r := r.drop
      let (b, r) ← if isOneOf [.blockEntry, .blockEnd] r.head? then some (absent r)
        else node fuel true false r
      blockItems fuel tag (b :: seen) r
    | .blockEnd :: _ => some (.sequence tag seen.reverse, r.drop)
    | _ => none

/-- The items of a sequence at the column of the key that it belongs to. -/
def unindentedItems : Nat → Tag → List Node → Reader → Option (Node × Reader)
  | 0, _, _, _ => none
  | fuel + 1, tag, seen, r =>
    match r.tokens with
    | .blockEntry :: _ => do
      let r := r.drop
      let (b, r) ← if isOneOf [.blockEntry, .key, .value, .blockEnd] r.head? then some (absent r)
        else node fuel true false r
      unindentedItems fuel tag (b :: seen) r
    | _ => some (.sequence tag seen.reverse, r)

def blockPairs : Nat → Tag → List (Node × Node) → Reader → Option (Node × Reader)
  | 0, _, _, _ => none
  | fuel + 1, tag, seen, r =>
    match r.tokens with
    | .key :: _ => do
      let r := r.drop
      let (k, r) ← if isOneOf [.key, .value, .blockEnd] r.head? then some (absent r)
        else node fuel true true r
      let (v, r) ← blockValue fuel r
      blockPairs fuel tag ((k, v) :: seen) r
    | .value :: _ => none
    | .blockEnd :: _ => some (.mapping tag seen.reverse, r.drop)
    | _ => none

def blockValue : Nat → Reader → Option (Node × Reader)
  | 0, _ => none
  | fuel + 1, r =>
    if r.head? == some .value then
      let r := r.drop
      if isOneOf [.key, .value, .blockEnd] r.head? then some (absent r)
      else node fuel true true r
    else some (absent r)

/-- The items of a flow sequence; a pair among them is a mapping of its own. A key mark without a
    key takes the token after it along. -/
def flowItems : Nat → Tag → List Node → Reader → Option (Node × Reader)
  | 0, _, _, _ => none
  | fuel + 1, tag, seen, r =>
    if r.head? == some .flowSequenceEnd then some (.sequence tag seen.reverse, r.drop)
    else do
      let r ← if seen.isEmpty then some r
        else if r.head? == some .flowEntry then some r.drop
        else none
      match r.tokens with
      | .flowSequenceEnd :: _ => some (.sequence tag seen.reverse, r.drop)
      | .key :: _ => do
        let r := r.drop.count 2
        let (k, r) ←
          if isOneOf [.value, .flowEntry, .flowSequenceEnd] r.head? then some (absent r.drop)
          else node fuel false false r
        let (v, r) ← flowValue fuel [.flowEntry, .flowSequenceEnd] r
        flowItems fuel tag (.mapping .silent [(k, v)] :: seen) r
      | _ => do
        let (b, r) ← node fuel false false r
        flowItems fuel tag (b :: seen) r

/-- The pairs of a flow mapping; a key without a value stands for itself. -/
def flowPairs : Nat → Tag → List (Node × Node) → Reader → Option (Node × Reader)
  | 0, _, _, _ => none
  | fuel + 1, tag, seen, r =>
    if r.head? == some .flowMappingEnd then some (.mapping tag seen.reverse, r.drop)
    else do
      let r ← if seen.isEmpty then some r
        else if r.head? == some .flowEntry then some r.drop
        else none
      match r.tokens with
      | .flowMappingEnd :: _ => some (.mapping tag seen.reverse, r.drop)
      | .key :: _ => do
        let r := r.drop
        let (k, r) ←
          if isOneOf [.value, .flowEntry, .flowMappingEnd] r.head? then some (absent r)
          else node fuel false false r
        let (v, r) ← flowValue fuel [.flowEntry, .flowMappingEnd] r
        flowPairs fuel tag ((k, v) :: seen) r
      | _ => do
        let (k, r) ← node fuel false false r
        let (v, r) := absent r
        flowPairs fuel tag ((k, v) :: seen) r

/-- The value of a flow pair, absent without a mark or before a token that ends the pair. -/
def flowValue : Nat → List Token → Reader → Option (Node × Reader)
  | 0, _, _ => none
  | fuel + 1, ends, r =>
    if r.head? == some .value then
      let r := r.drop
      if isOneOf ends r.head? then some (absent r) else node fuel false false r
    else some (absent r)

end

def standardHandles : List (String × List UInt8) :=
  [("!", Tag.ownStem), ("!!", Tag.standardStem)]

def directives : Bool → List (String × List UInt8) → List Token →
    Option (Bool × List (String × List UInt8) × List Token)
  | versioned, handles, .version major minor :: rest =>
    if versioned || major != 1 || (minor != 1 && minor != 2) then none
    else directives true handles rest
  | versioned, handles, .tagHandle handle stem :: rest =>
    if (handles.lookup handle).isSome then none
    else directives versioned ((handle, stem) :: handles) rest
  | versioned, handles, rest => some (versioned, handles, rest)

def isEnd (ts : List Token) : Bool := ts.all (· == .documentEnd)

/-- The node of a text with at most one document, with the number of node boundaries; the inner none
    stands for a text without a document. -/
def Node.ofTokens? (ts : List Token) : Option (Option (Node × Nat)) := do
  let (versioned, handles, rest) ← directives false [] ts
  let reader (ts : List Token) : Reader := ⟨ts, handles ++ standardHandles, [], 0⟩
  let finish (found : Node × Reader) : Option (Option (Node × Nat)) :=
    if isEnd found.2.tokens then some (some (found.1, found.2.boundaries)) else none
  match rest with
  | [] => if versioned || !handles.isEmpty then none else some none
  | .documentStart :: rest =>
    match rest with
    | [] => finish (absent (reader rest))
    | .documentEnd :: _ => finish (absent (reader rest))
    | .documentStart :: _ => none
    | .version _ _ :: _ => none
    | .tagHandle _ _ :: _ => none
    | _ => (node (2 * rest.length + 4) true false (reader rest)).bind finish
  | _ =>
    if versioned || !handles.isEmpty then none
    else (node (2 * rest.length + 4) true false (reader rest)).bind finish

end EndpointGen.Yaml
