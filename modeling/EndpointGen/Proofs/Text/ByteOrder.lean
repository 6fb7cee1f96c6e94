/- The order of texts is the order of their bytes: a code point with fewer bytes has the smaller first byte,
   and of two with as many bytes the groups of six bits decide from the highest on. -/
import Mathlib.Algebra.Order.Ring.Nat

namespace EndpointGen.Text

/-- The bytes of a text in UTF-8. -/
def bytes (s : String) : List UInt8 := s.toUTF8.data.toList

theorem bytes_eq (s : String) : bytes s = s.toList.flatMap String.utf8EncodeChar := by
  have h : s.toUTF8 = s.toList.utf8Encode := by rw [String.toUTF8, String.utf8Encode_toList]
  rw [bytes, h, List.utf8Encode, List.toList_data_toByteArray]

/-- How many bytes follow the first one of a code point. -/
def following (v : Nat) : Nat :=
  if v ≤ 0x7f then 0 else if v ≤ 0x7ff then 1 else if v ≤ 0xffff then 2 else 3

/-- What a first byte has on top of its bits where so many bytes follow. -/
def leadMark : Nat → Nat
  | 0 => 0
  | 1 => 0xc0
  | 2 => 0xe0
  | 3 => 0xf0
  | _ => 0xf8

def lead (v : Nat) : Nat := v / 64 ^ following v + leadMark (following v)

/-- The lowest groups of six bits, each in a byte of its own, the highest first. -/
def followers (v : Nat) : Nat → List UInt8
  | 0 => []
  | k + 1 => UInt8.ofNat (v / 64 ^ k % 64 + 0x80) :: followers v k

section CodePoint

variable {m n v k : Nat}

theorem following_cases (v : Nat) :
    (v ≤ 0x7f ∧ following v = 0) ∨ (0x7f < v ∧ v ≤ 0x7ff ∧ following v = 1) ∨
      (0x7ff < v ∧ v ≤ 0xffff ∧ following v = 2) ∨ (0xffff < v ∧ following v = 3) := by
  unfold following
  split_ifs <;> omega

theorem following_mono (h : m ≤ n) : following m ≤ following n := by
  have hm := following_cases m
  have hn := following_cases n
  omega

theorem leadMark_mono : Monotone leadMark := by
  apply monotone_nat_of_le_succ
  intro k
  match k with
  | 0 | 1 | 2 | 3 => decide
  | k + 4 => exact Nat.le_refl _

/-- A first byte stays below those of code points with more bytes. -/
theorem lead_lt (h : v < 0x110000) : lead v < leadMark (following v + 1) := by
  unfold lead
  rcases following_cases v with ⟨hv, hk⟩ | ⟨-, hv, hk⟩ | ⟨-, hv, hk⟩ | ⟨-, hk⟩
  · simp only [hk, leadMark]
    omega
  · simp only [hk, leadMark]
    omega
  · simp only [hk, leadMark]
    omega
  · simp only [hk, leadMark]
    omega

theorem lead_lt_lead (h : m < n) (hmax : n < 0x110000)
    (htop : following m = following n → m / 64 ^ following m ≠ n / 64 ^ following n) :
    lead m < lead n := by
  rcases Nat.lt_or_eq_of_le (following_mono (Nat.le_of_lt h)) with hk | hk
  · calc lead m < leadMark (following m + 1) := lead_lt (Nat.lt_trans h hmax)
      _ ≤ leadMark (following n) := leadMark_mono hk
      _ ≤ lead n := Nat.le_add_left ..
  · have hle : m / 64 ^ following n ≤ n / 64 ^ following n := Nat.div_le_div_right (Nat.le_of_lt h)
    have hne := htop hk
    rw [hk] at hne
    rw [lead, lead, hk]
    omega

theorem ofNat_lt_ofNat (hn : n < 256) (h : m < n) : UInt8.ofNat m < UInt8.ofNat n := by
  rw [UInt8.ofNat_lt_iff_lt (by simpa using Nat.lt_trans h hn) (by simpa using hn)]
  exact h

theorem followers_lt (htop : m / 64 ^ k = n / 64 ^ k) (h : m < n) (xs ys : List UInt8) :
    followers m k ++ xs < followers n k ++ ys := by
  induction k with
  | zero =>
      rw [Nat.pow_zero, Nat.div_one, Nat.div_one] at htop
      omega
  | succ k ih =>
      rw [Nat.pow_succ, ← Nat.div_div_eq_div_mul, ← Nat.div_div_eq_div_mul] at htop
      rw [followers, followers, List.cons_append, List.cons_append, List.cons_lt_cons_iff]
      by_cases heq : m / 64 ^ k = n / 64 ^ k
      · exact .inr ⟨by rw [heq], ih heq⟩
      · have hle : m / 64 ^ k ≤ n / 64 ^ k := Nat.div_le_div_right (Nat.le_of_lt h)
        exact .inl (ofNat_lt_ofNat (by omega) (by omega))

end CodePoint

theorem toNat_lt (c : Char) : c.toNat < 0x110000 := by
  rcases c.valid with h | h
  · exact Nat.lt_trans h (by decide)
  · exact h.2

theorem utf8EncodeChar_eq (c : Char) :
    String.utf8EncodeChar c =
      UInt8.ofNat (lead c.toNat) :: followers c.toNat (following c.toNat) := by
  have hmax := toNat_lt c
  simp only [String.utf8EncodeChar, Char.toNat_val]
  generalize c.toNat = v at hmax
  rcases following_cases v with ⟨hv, hk⟩ | ⟨hv, hv', hk⟩ | ⟨hv, hv', hk⟩ | ⟨hv, hk⟩
  · rw [if_pos hv, lead, hk]
    simp [leadMark, followers]
  · rw [if_neg (by omega), if_pos hv', lead, hk, Nat.mod_eq_of_lt (by omega)]
    simp [leadMark, followers]
  · rw [if_neg (by omega), if_neg (by omega), if_pos hv', lead, hk, Nat.mod_eq_of_lt (by omega)]
    simp [leadMark, followers]
  · rw [if_neg (by omega), if_neg (by omega), if_neg (by omega), lead, hk,
      Nat.mod_eq_of_lt (by omega)]
    simp [leadMark, followers]

/-- Of two characters the bytes decide, whatever comes after them. -/
theorem utf8EncodeChar_lt {c d : Char} (h : c < d) (xs ys : List UInt8) :
    String.utf8EncodeChar c ++ xs < String.utf8EncodeChar d ++ ys := by
  have hlt : c.toNat < d.toNat := h
  have hmax := toNat_lt d
  have hbyte : lead d.toNat < 256 := by
    have hmark : leadMark (following d.toNat + 1) ≤ 0xf8 := by
      have hk := following_cases d.toNat
      exact leadMark_mono (show following d.toNat + 1 ≤ 4 by omega)
    have hlead := lead_lt hmax
    omega
  rw [utf8EncodeChar_eq, utf8EncodeChar_eq, List.cons_append, List.cons_append, List.cons_lt_cons_iff]
  by_cases hsame : following c.toNat = following d.toNat ∧
      c.toNat / 64 ^ following c.toNat = d.toNat / 64 ^ following d.toNat
  · obtain ⟨hk, htop⟩ := hsame
    refine .inr ⟨by rw [lead, lead, htop, hk], ?_⟩
    rw [hk] at htop ⊢
    exact followers_lt htop hlt xs ys
  · exact .inl (ofNat_lt_ofNat hbyte (lead_lt_lead hlt hmax fun hk htop => hsame ⟨hk, htop⟩))

theorem flatMap_utf8EncodeChar_lt {cs ds : List Char} (h : cs < ds) :
    cs.flatMap String.utf8EncodeChar < ds.flatMap String.utf8EncodeChar := by
  induction cs generalizing ds with
  | nil =>
      cases ds with
      | nil => cases h
      | cons d ds =>
          rw [List.flatMap_cons, utf8EncodeChar_eq]
          exact List.nil_lt_cons ..
  | cons c cs ih =>
      cases ds with
      | nil => cases h
      | cons d ds =>
          rw [List.flatMap_cons, List.flatMap_cons]
          rcases List.cons_lt_cons_iff.mp h with hfirst | ⟨rfl, hrest⟩
          · exact utf8EncodeChar_lt hfirst ..
          · exact List.append_left_lt (ih hrest)

/-- What comes first by its characters comes first by its bytes. -/
theorem bytes_lt_of_compare {s t : String} (h : compare s t = .lt) : bytes s < bytes t := by
  have hlt : s < t := compareOfLessAndEq_eq_lt.mp h
  rw [bytes_eq, bytes_eq]
  exact flatMap_utf8EncodeChar_lt hlt

end EndpointGen.Text
