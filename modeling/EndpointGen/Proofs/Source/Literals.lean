/- String and character literals, read by the rules of the language that they are written for. A literal
   reads back exactly where it is plain: quotes are escaped when it is written, backslashes are not. -/
import EndpointGen.Source.Literal

namespace EndpointGen

open Text

/-- What stands for a character after a backslash, as far as reading back depends on it. -/
structure Escapes where
  meaning : Char → Option Char
  quote : meaning '"' = some '"'
  backslash : ∀ c, meaning c = some '\\' ↔ c = '\\'

namespace Escapes

def simpleMeaning : Char → Option Char
  | '\'' => some '\''
  | '"' => some '"'
  | '\\' => some '\\'
  | '0' => some '\x00'
  | 'a' => some '\x07'
  | 'b' => some '\x08'
  | 'f' => some '\x0c'
  | 'n' => some '\n'
  | 'r' => some '\r'
  | 't' => some '\t'
  | 'v' => some '\x0b'
  | _ => none

theorem simpleMeaning_eq_backslash_iff (c : Char) : simpleMeaning c = some '\\' ↔ c = '\\' := by
  constructor
  · intro h
    unfold simpleMeaning at h
    split at h <;> simp_all
  · rintro rfl
    rfl

/-- The escapes of one character. -/
def simple : Escapes := ⟨simpleMeaning, rfl, simpleMeaning_eq_backslash_iff⟩

end Escapes

/-- The value of a literal. -/
inductive Literal where
  | string (s : String)
  | char (c : Char)
deriving DecidableEq, Repr

namespace Escapes

/-- The characters up to the first quote that is not escaped, and what comes after it. -/
def readBody (e : Escapes) : List Char → Option (List Char × List Char)
  | [] => none
  | '"' :: after => some ([], after)
  | ['\\'] => none
  | '\\' :: x :: cs =>
    (e.meaning x).bind fun v => (e.readBody cs).map fun (s, after) => (v :: s, after)
  | c :: cs => (e.readBody cs).map fun (s, after) => (c :: s, after)

/-- One character or escape, and what comes after the closing apostrophe. -/
def readCharacter (e : Escapes) : List Char → Option (Char × List Char)
  | '\\' :: x :: '\'' :: after => (e.meaning x).map fun v => (v, after)
  | c :: '\'' :: after => if c = '\'' ∨ c = '\\' then none else some (c, after)
  | _ => none

/-- The literal that a text starts with, and what comes after it. -/
def read? (e : Escapes) : List Char → Option (Literal × List Char)
  | '"' :: cs => (e.readBody cs).map fun (s, after) => (.string (String.ofList s), after)
  | '\'' :: cs => (e.readCharacter cs).map fun (c, after) => (.char c, after)
  | _ => none

end Escapes

namespace Argument

/-- A string as it is written after the opening quote, with the text after the literal. -/
def written (s after : List Char) : List Char := s.flatMap escapeQuote ++ '"' :: after

variable {c : Char} {s after : List Char}

theorem written_nil : written [] after = '"' :: after := rfl

theorem written_quote : written ('"' :: s) after = '\\' :: '"' :: written s after := rfl

theorem written_cons (hquote : c ≠ '"') : written (c :: s) after = c :: written s after := by
  simp [written, escapeQuote, hquote]

end Argument

namespace Escapes

open Argument (written written_nil written_quote written_cons)

variable {e : Escapes} {c x : Char} {cs s after after' : List Char} {k : Nat}

theorem readBody_cons (hquote : c ≠ '"') (hbackslash : c ≠ '\\') :
    e.readBody (c :: cs) = (e.readBody cs).map fun (s, after) => (c :: s, after) := by
  rw [readBody]
  · exact hquote
  · exact fun hc _ => hbackslash hc
  · exact fun _ _ hc _ => hbackslash hc

theorem readBody_escape_eq_some {v : List Char} (h : e.readBody ('\\' :: x :: cs) = some (v, after)) :
    ∃ c t, e.meaning x = some c ∧ e.readBody cs = some (t, after) ∧ v = c :: t := by
  obtain ⟨c, hc, h⟩ := Option.bind_eq_some_iff.mp h
  obtain ⟨⟨t, rest⟩, ht, h⟩ := Option.map_eq_some_iff.mp h
  obtain ⟨rfl, rfl⟩ := Prod.mk.inj h
  exact ⟨c, t, hc, ht, rfl⟩

/-- A character other than a backslash is read as it was before it was written. -/
theorem readBody_written_cons (hc : c ≠ '\\') :
    e.readBody (written (c :: s) after) =
      (e.readBody (written s after)).map fun (t, after) => (c :: t, after) := by
  by_cases hquote : c = '"'
  · subst hquote
    rw [written_quote, readBody, e.quote]
    rfl
  · rw [written_cons hquote, readBody_cons hquote hc]

theorem readBody_written (h : '\\' ∉ s) : e.readBody (written s after) = some (s, after) := by
  induction s with
  | nil => rfl
  | cons c s ih =>
      obtain ⟨hc, hs⟩ : '\\' ≠ c ∧ '\\' ∉ s := by simpa using h
      rw [readBody_written_cons hc.symm, ih hs]
      rfl

/-- A backslash is read as one only in front of another, which it takes with it, or in front of a quote,
    which then ends the literal. -/
theorem readBody_written_backslash {v : List Char}
    (h : e.readBody (written ('\\' :: s) after) = some ('\\' :: v, after')) :
    (∃ t, s = '\\' :: t ∧ e.readBody (written t after) = some (v, after')) ∨
      ∃ t, s = '"' :: t ∧ v = [] := by
  rw [written_cons (by decide)] at h
  cases s with
  | nil =>
      obtain ⟨c, t, hmeaning, -, hv⟩ := readBody_escape_eq_some h
      obtain ⟨rfl, rfl⟩ := List.cons.inj hv
      rw [e.backslash] at hmeaning
      exact absurd hmeaning (by decide)
  | cons x t =>
      by_cases hquote : x = '"'
      · subst hquote
        rw [written_quote] at h
        obtain ⟨c, u, -, hu, hv⟩ := readBody_escape_eq_some h
        obtain ⟨rfl, -⟩ := Prod.mk.inj (Option.some.inj hu)
        exact .inr ⟨t, rfl, (List.cons.inj hv).2⟩
      · rw [written_cons hquote] at h
        obtain ⟨c, u, hmeaning, hu, hv⟩ := readBody_escape_eq_some h
        obtain ⟨rfl, rfl⟩ := List.cons.inj hv
        obtain rfl := (e.backslash x).mp hmeaning
        exact .inl ⟨t, rfl, hu⟩

theorem replicate_backslash (k : Nat) (s : List Char) :
    List.replicate k '\\' ++ '\\' :: s = '\\' :: (List.replicate k '\\' ++ s) := by
  induction k with
  | zero => rfl
  | succ k ih => rw [List.replicate_succ, List.cons_append, ih, List.cons_append]

/-- Two backslashes are read as one, so that from the first backslash on what is read falls behind what
    was written; `k` counts by how many characters. -/
theorem readBody_written_ne (h : 0 < k ∨ '\\' ∈ s) :
    e.readBody (written s after) ≠ some (List.replicate k '\\' ++ s, after') := by
  induction hn : s.length using Nat.strongRecOn generalizing s k with
  | ind n ih =>
      intro hread
      cases s with
      | nil =>
          have hk : 0 < k := by simpa using h
          have hvalue : ([] : List Char) = List.replicate k '\\' ++ [] :=
            congrArg Prod.fst (Option.some.inj hread)
          have hlength := congrArg List.length hvalue
          rw [List.append_nil, List.length_replicate] at hlength
          exact absurd hlength (by simp; omega)
      | cons c t =>
          by_cases hc : c = '\\'
          · subst hc
            rw [replicate_backslash] at hread
            rcases readBody_written_backslash hread with ⟨u, rfl, hu⟩ | ⟨u, rfl, hnil⟩
            · rw [replicate_backslash, ← List.cons_append, ← List.replicate_succ] at hu
              exact ih u.length (by simp at hn; omega) (.inl k.succ_pos) rfl hu
            · exact absurd hnil (by simp)
          · rw [readBody_written_cons hc] at hread
            obtain ⟨⟨v, rest⟩, hv, hpair⟩ := Option.map_eq_some_iff.mp hread
            obtain ⟨hvalue, rfl⟩ := Prod.mk.inj hpair
            cases k with
            | zero =>
                rw [(List.cons.inj hvalue).2] at hv
                have ht : '\\' ∈ t := by simpa [Ne.symm hc] using h
                exact ih t.length (by simp at hn; omega) (k := 0) (.inr ht) rfl hv
            | succ k => exact hc (List.cons.inj hvalue).1

end Escapes

namespace Literal

def text : Literal → String
  | .string s => (Argument.string s).literal
  | .char c => (Argument.char c).literal

/-- Nothing in the value needs an escape other than that of a quote in a string. -/
def Plain : Literal → Prop
  | .string s => '\\' ∉ s.toList
  | .char c => c ≠ '\'' ∧ c ≠ '\\'

instance : DecidablePred Plain
  | .string s => inferInstanceAs (Decidable ('\\' ∉ s.toList))
  | .char c => inferInstanceAs (Decidable (c ≠ '\'' ∧ c ≠ '\\'))

variable {e : Escapes} {after : List Char}

theorem text_string (s : String) (after : List Char) :
    (string s).text.toList ++ after = '"' :: Argument.written s.toList after := by
  simp [text, Argument.literal, Argument.stringLiteral, Argument.written]

theorem text_char (c : Char) (after : List Char) :
    (char c).text.toList ++ after = '\'' :: c :: '\'' :: after := by
  simp [text, Argument.literal]

theorem read_string (s : String) (after : List Char) :
    e.read? ((string s).text.toList ++ after) =
      (e.readBody (Argument.written s.toList after)).map fun (t, after) =>
        (.string (String.ofList t), after) := by
  rw [text_string]
  rfl

theorem read_char (c : Char) (after : List Char) :
    e.read? ((char c).text.toList ++ after) =
      (e.readCharacter (c :: '\'' :: after)).map fun (v, after) => (.char v, after) := by
  rw [text_char]
  rfl

theorem read_of_plain {l : Literal} (h : l.Plain) (after : List Char) :
    e.read? (l.text.toList ++ after) = some (l, after) := by
  cases l with
  | string s =>
      rw [read_string, Escapes.readBody_written h]
      simp
  | char c =>
      obtain ⟨hquote, hbackslash⟩ : c ≠ '\'' ∧ c ≠ '\\' := h
      rw [read_char]
      simp [Escapes.readCharacter, hquote, hbackslash]

/-- An apostrophe closes the literal it should stand in; a backslash takes the closing one with it. -/
theorem readCharacter_ne {c : Char} (h : c = '\'' ∨ c = '\\') (after after' : List Char) :
    e.readCharacter (c :: '\'' :: after) ≠ some (c, after') := by
  intro hread
  rcases h with rfl | rfl
  · simp [Escapes.readCharacter] at hread
  · cases after with
    | nil => simp [Escapes.readCharacter] at hread
    | cons x rest =>
        by_cases hx : x = '\''
        · subst hx
          obtain ⟨v, hv, hpair⟩ := Option.map_eq_some_iff.mp hread
          obtain ⟨rfl, rfl⟩ := Prod.mk.inj hpair
          rw [e.backslash] at hv
          exact absurd hv (by decide)
        · simp [Escapes.readCharacter, hx] at hread

/-- What is not plain reads as something else or as no literal, whatever comes after it. -/
theorem read_ne_of_not_plain {l : Literal} (h : ¬ l.Plain) (after after' : List Char) :
    e.read? (l.text.toList ++ after) ≠ some (l, after') := by
  intro hread
  cases l with
  | string s =>
      have hbackslash : '\\' ∈ s.toList := Decidable.not_not.mp h
      rw [read_string] at hread
      obtain ⟨⟨t, rest⟩, ht, hpair⟩ := Option.map_eq_some_iff.mp hread
      obtain ⟨hvalue, rfl⟩ := Prod.mk.inj hpair
      obtain rfl : t = s.toList := by rw [← string.inj hvalue, String.toList_ofList]
      exact Escapes.readBody_written_ne (k := 0) (.inr hbackslash) ht
  | char c =>
      have hspecial : c = '\'' ∨ c = '\\' :=
        Decidable.byContradiction fun hnone => h (not_or.mp hnone)
      rw [read_char] at hread
      obtain ⟨⟨v, rest⟩, hv, hpair⟩ := Option.map_eq_some_iff.mp hread
      obtain ⟨hvalue, rfl⟩ := Prod.mk.inj hpair
      obtain rfl := char.inj hvalue
      exact readCharacter_ne hspecial after rest hv

end Literal

end EndpointGen
