/- Literals where they stand: a verb attribute and a restated annotation are read piece by piece, and each
   literal in them gives its argument and ends where it was closed exactly where it is plain. -/
import EndpointGen.Facade.Controller
import EndpointGen.Proofs.Source.Literals

namespace EndpointGen

/-- A part of a source text: a literal, or text that is taken over as it is. -/
inductive Piece where
  | verbatim (text : String)
  | literal (l : Literal)

namespace Piece

def text : Piece → String
  | .verbatim text => text
  | .literal l => l.text

def literal? : Piece → Option Literal
  | .verbatim _ => none
  | .literal l => some l

def textOf : List Piece → String
  | [] => ""
  | p :: ps => p.text ++ textOf ps

def literalsOf (ps : List Piece) : List Literal := ps.filterMap literal?

/-- Items with a comma and a space between them. -/
def commaSeparated : List (List Piece) → List Piece
  | [] => []
  | [ps] => ps
  | ps :: rest => ps ++ .verbatim ", " :: commaSeparated rest

variable {ps qs : List Piece}

theorem textOf_append (ps qs : List Piece) : textOf (ps ++ qs) = textOf ps ++ textOf qs := by
  induction ps with
  | nil => simp [textOf]
  | cons p ps ih => rw [List.cons_append, textOf, ih, textOf, String.append_assoc]

theorem textOf_verbatim (text : String) : textOf [.verbatim text] = text := String.append_empty

theorem textOf_literal (l : Literal) : textOf [.literal l] = l.text := String.append_empty

theorem literalsOf_append (ps qs : List Piece) :
    literalsOf (ps ++ qs) = literalsOf ps ++ literalsOf qs := List.filterMap_append ..

theorem textOf_commaSeparated (pss : List (List Piece)) :
    textOf (commaSeparated pss) = Text.commaSeparated (pss.map textOf) := by
  induction pss with
  | nil => rfl
  | cons ps rest ih =>
      cases rest with
      | nil => rfl
      | cons qs rest =>
          have hrest : textOf (commaSeparated (ps :: qs :: rest)) =
              textOf ps ++ (", " ++ textOf (commaSeparated (qs :: rest))) := textOf_append ..
          rw [hrest, ih, ← String.append_assoc]
          rfl

theorem literalsOf_commaSeparated (pss : List (List Piece)) :
    literalsOf (commaSeparated pss) = pss.flatMap literalsOf := by
  induction pss with
  | nil => rfl
  | cons ps rest ih =>
      cases rest with
      | nil => simp [commaSeparated]
      | cons qs rest =>
          have hrest : literalsOf (commaSeparated (ps :: qs :: rest)) =
              literalsOf ps ++ literalsOf (commaSeparated (qs :: rest)) := literalsOf_append ..
          rw [hrest, ih, List.flatMap_cons (x := ps)]

/-- Reading at each literal gives its value, with all that comes after it left to read. -/
def ReadInPlace (e : Escapes) (ps : List Piece) : Prop :=
  ∀ before l after, ps = before ++ .literal l :: after →
    e.read? (textOf (.literal l :: after)).toList = some (l, (textOf after).toList)

theorem readInPlace_iff {e : Escapes} : ReadInPlace e ps ↔ ∀ l ∈ literalsOf ps, l.Plain := by
  have hread : ∀ (l : Literal) (after : List Piece),
      (textOf (.literal l :: after)).toList = l.text.toList ++ (textOf after).toList :=
    fun l after => String.toList_append ..
  constructor
  · intro h l hl
    obtain ⟨p, hp, hl⟩ := List.mem_filterMap.mp hl
    obtain ⟨before, after, hsplit⟩ := List.append_of_mem hp
    cases p with
    | verbatim text => cases hl
    | literal l' =>
        obtain rfl : l' = l := Option.some.inj hl
        have hplace := h before l' after hsplit
        rw [hread] at hplace
        exact Decidable.of_not_not fun hplain => Literal.read_ne_of_not_plain hplain _ _ hplace
  · intro h before l after hsplit
    have hl : l ∈ literalsOf ps := by
      rw [hsplit]
      exact List.mem_filterMap.mpr ⟨.literal l, by simp, rfl⟩
    rw [hread]
    exact Literal.read_of_plain (h l hl) _

end Piece

namespace Argument

mutual

def pieces : Argument → List Piece
  | .string s => [.literal (.string s)]
  | .char c => [.literal (.char c)]
  | .array [] => []
  | .array (x :: xs) =>
    .verbatim "new[] \x7b" :: Piece.commaSeparated (piecesOf (x :: xs)) ++ [.verbatim "\x7d"]
  | x => [.verbatim x.literal]

def piecesOf : List Argument → List (List Piece)
  | [] => []
  | x :: xs => pieces x :: piecesOf xs

end

mutual

/-- The strings and characters in an argument, at any depth. -/
def quoted : Argument → List Literal
  | .string s => [.string s]
  | .char c => [.char c]
  | .array xs => quotedOf xs
  | _ => []

def quotedOf : List Argument → List Literal
  | [] => []
  | x :: xs => quoted x ++ quotedOf xs

end

theorem textOf_pieces (x : Argument) : Piece.textOf x.pieces = x.literal := by
  induction x using Argument.rec
    (motive_2 := fun xs => (piecesOf xs).map Piece.textOf = literals xs) with
  | null => exact Piece.textOf_verbatim _
  | string s => exact Piece.textOf_literal _
  | bool b => exact Piece.textOf_verbatim _
  | char c => exact Piece.textOf_literal _
  | primitive text => exact Piece.textOf_verbatim _
  | type t => exact Piece.textOf_verbatim _
  | enum text => exact Piece.textOf_verbatim _
  | array xs ih =>
      cases xs with
      | nil => rfl
      | cons x xs =>
          have hpieces : Piece.textOf (pieces (.array (x :: xs))) = "new[] \x7b" ++
              Piece.textOf (Piece.commaSeparated (piecesOf (x :: xs)) ++ [.verbatim "\x7d"]) := rfl
          rw [hpieces, Piece.textOf_append, Piece.textOf_commaSeparated, ih, Piece.textOf_verbatim,
            ← String.append_assoc]
          rfl
  | nil => rfl
  | cons x xs ihx ihxs => rw [piecesOf, List.map_cons, ihx, ihxs, literals]

theorem literalsOf_pieces (x : Argument) : Piece.literalsOf x.pieces = x.quoted := by
  induction x using Argument.rec
    (motive_2 := fun xs => (piecesOf xs).flatMap Piece.literalsOf = quotedOf xs) with
  | array xs ih =>
      cases xs with
      | nil => rfl
      | cons x xs =>
          have hpieces : Piece.literalsOf (pieces (.array (x :: xs))) = Piece.literalsOf
              (Piece.commaSeparated (piecesOf (x :: xs)) ++ [.verbatim "\x7d"]) := rfl
          rw [hpieces, Piece.literalsOf_append, Piece.literalsOf_commaSeparated, ih]
          exact List.append_nil _
  | cons x xs ihx ihxs => rw [piecesOf, List.flatMap_cons, ihx, ihxs, quotedOf]
  | _ => rfl

/-- An argument that is left out has nothing quoted in it. -/
theorem quoted_of_literal_empty {x : Argument} (h : x.literal = "") : x.quoted = [] := by
  rcases literal_eq_empty_iff.mp h with rfl | rfl | rfl <;> rfl

end Argument

theorem flatMap_filter_of_nil {α β : Type} {keep : α → Bool} {f : α → List β} {xs : List α}
    (h : ∀ x ∈ xs, keep x = false → f x = []) : (xs.filter keep).flatMap f = xs.flatMap f := by
  induction xs with
  | nil => rfl
  | cons x xs ih =>
      have hrest := ih fun y hy => h y (List.mem_cons_of_mem x hy)
      rw [List.flatMap_cons, ← hrest]
      by_cases hkeep : keep x = true
      · rw [List.filter_cons_of_pos hkeep, List.flatMap_cons]
      · rw [List.filter_cons_of_neg hkeep, h x List.mem_cons_self (by simpa using hkeep),
          List.nil_append]

namespace Annotation

/-- The strings and characters among the arguments, positional ones first. -/
def quoted (a : Annotation) : List Literal :=
  a.args.flatMap Argument.quoted ++ a.named.flatMap fun n => n.value.quoted

/-- The pieces of each argument that is not left out. -/
def argumentPieces (a : Annotation) : List (List Piece) :=
  (a.args.filter fun x => x.literal ≠ "").map Argument.pieces ++
    (a.named.filter fun n => n.value.literal ≠ "").map fun n =>
      .verbatim (n.name ++ " = ") :: n.value.pieces

def pieces (a : Annotation) : List Piece :=
  match a.argumentPieces with
  | [] => [.verbatim ("[" ++ a.displayName ++ "]")]
  | pss =>
    .verbatim ("[" ++ a.displayName ++ "(") :: Piece.commaSeparated pss ++ [.verbatim ")]"]

theorem textOf_argumentPieces (a : Annotation) :
    a.argumentPieces.map Piece.textOf = a.argumentTexts := by
  have hargs : ∀ x : Argument, Piece.textOf x.pieces = x.literal := Argument.textOf_pieces
  unfold argumentPieces argumentTexts
  rw [List.map_append, List.map_map, List.map_map, List.filter_map]
  congr 1
  · exact List.map_congr_left fun x _ => hargs x
  · refine List.map_congr_left fun n _ => ?_
    rw [← hargs]
    rfl

theorem literalsOf_argumentPieces (a : Annotation) :
    a.argumentPieces.flatMap Piece.literalsOf = a.quoted := by
  have hargs : ∀ x : Argument, Piece.literalsOf x.pieces = x.quoted := Argument.literalsOf_pieces
  have hnamed : ∀ n : NamedArgument,
      Piece.literalsOf (.verbatim (n.name ++ " = ") :: n.value.pieces) = n.value.quoted :=
    fun n => hargs n.value
  unfold argumentPieces quoted
  rw [List.flatMap_append, List.flatMap_map, List.flatMap_map]
  simp only [hargs, hnamed]
  congr 1
  · apply flatMap_filter_of_nil
    intro x _ hempty
    exact Argument.quoted_of_literal_empty (by simpa using hempty)
  · apply flatMap_filter_of_nil
    intro n _ hempty
    exact Argument.quoted_of_literal_empty (by simpa using hempty)

theorem textOf_pieces (a : Annotation) : Piece.textOf a.pieces = a.render := by
  have htexts := a.textOf_argumentPieces
  unfold pieces render
  cases hpieces : a.argumentPieces with
  | nil =>
      rw [hpieces] at htexts
      rw [← htexts]
      exact Piece.textOf_verbatim _
  | cons ps pss =>
      rw [hpieces] at htexts
      rw [← htexts]
      have hopen : Piece.textOf (.verbatim ("[" ++ a.displayName ++ "(") ::
          Piece.commaSeparated (ps :: pss) ++ [.verbatim ")]"]) =
            "[" ++ a.displayName ++ "(" ++
              Piece.textOf (Piece.commaSeparated (ps :: pss) ++ [.verbatim ")]"]) := rfl
      simp only [List.map_cons]
      rw [hopen, Piece.textOf_append, Piece.textOf_commaSeparated, Piece.textOf_verbatim,
        ← String.append_assoc, List.map_cons]

theorem literalsOf_pieces (a : Annotation) : Piece.literalsOf a.pieces = a.quoted := by
  have hliterals := a.literalsOf_argumentPieces
  unfold pieces
  cases hpieces : a.argumentPieces with
  | nil =>
      rw [hpieces] at hliterals
      exact hliterals
  | cons ps pss =>
      rw [hpieces] at hliterals
      have hopen : Piece.literalsOf (.verbatim ("[" ++ a.displayName ++ "(") ::
          Piece.commaSeparated (ps :: pss) ++ [.verbatim ")]"]) =
            Piece.literalsOf (Piece.commaSeparated (ps :: pss) ++ [.verbatim ")]"]) := rfl
      simp only
      rw [hopen, Piece.literalsOf_append, Piece.literalsOf_commaSeparated, hliterals]
      exact List.append_nil _

end Annotation

/-- The verb attribute with the route template as its only argument. -/
def Operation.verbPieces (op : Operation) : List Piece :=
  [.verbatim ("[" ++ op.verb.attributeName ++ "("), .literal (.string op.route.template),
    .verbatim ")]"]

theorem Operation.textOf_verbPieces (op : Operation) :
    Piece.textOf op.verbPieces = op.verbAttribute := by
  simp [verbPieces, verbAttribute, Piece.textOf, Piece.text, Literal.text, String.append_assoc]

namespace Escapes

/-- A string reads back exactly where it has no backslash, and a character exactly where it is neither an
    apostrophe nor a backslash; otherwise the text never reads as the value, whatever comes after it. So
    a verb attribute gives its template back exactly where that has no backslash, and an annotation its
    strings and characters exactly where all of them are plain. -/
theorem literals_read_back_iff (e : Escapes) :
    (∀ (l : Literal) (after : List Char),
      (l.Plain → e.read? (l.text.toList ++ after) = some (l, after)) ∧
        (¬ l.Plain → ∀ after', e.read? (l.text.toList ++ after) ≠ some (l, after'))) ∧
      (∀ op : Operation, Piece.textOf op.verbPieces = op.verbAttribute ∧
        (Piece.ReadInPlace e op.verbPieces ↔ '\\' ∉ op.route.template.toList)) ∧
      ∀ a : Annotation, Piece.textOf a.pieces = a.render ∧
        Piece.literalsOf a.pieces = a.quoted ∧
          (Piece.ReadInPlace e a.pieces ↔ ∀ l ∈ a.quoted, l.Plain) := by
  refine ⟨?_, ?_, ?_⟩
  · intro l after
    exact ⟨fun h => Literal.read_of_plain h after, fun h => Literal.read_ne_of_not_plain h after⟩
  · intro op
    refine ⟨op.textOf_verbPieces, Piece.readInPlace_iff.trans ?_⟩
    exact List.forall_mem_singleton
  · intro a
    refine ⟨a.textOf_pieces, a.literalsOf_pieces, ?_⟩
    rw [Piece.readInPlace_iff, a.literalsOf_pieces]

/-- A string with quotes reads back. -/
theorem quotes_read_back :
    (Literal.string "say \"hi\"").Plain ∧
      simple.read? (Literal.string "say \"hi\"").text.toList =
        some (.string "say \"hi\"", []) := by
  have hplain : (Literal.string "say \"hi\"").Plain := by decide
  obtain ⟨hliterals, -, -⟩ := literals_read_back_iff simple
  obtain ⟨hread, -⟩ := hliterals (.string "say \"hi\"") []
  have h := hread hplain
  rw [List.append_nil] at h
  exact ⟨hplain, h⟩

/-- A template with a pattern that has a backslash. -/
def digitsTemplate : String := "\x7bid:regex(^\\d+$)\x7d"

/-- What is written without a word about it and not read back: a backslash with the character after it
    stands for another, or for none; at the end it takes the closing quote with it, and an apostrophe is
    taken for the closing one. -/
theorem backslashes_misread :
    simple.read? (Literal.string "a\\b").text.toList = some (.string "a\x08", []) ∧
      simple.read? (Literal.string digitsTemplate).text.toList = none ∧
      simple.read? (Literal.string "\\").text.toList = none ∧
      simple.read? (Literal.char '\\').text.toList = none ∧
      simple.read? (Literal.char '\'').text.toList = none := by
  decide

end Escapes

end EndpointGen
