/- Finite binary64 numbers: exact rounding of ratios, and the shortest decimal that reads back. -/

namespace EndpointGen.Decimal

/-- The number `± mantissa * 2 ^ exponent`, with `mantissa < 2 ^ 53`. -/
structure Binary64 where
  negative : Bool
  mantissa : Nat
  exponent : Int
deriving DecidableEq, Repr, Inhabited

namespace Binary64

def zero (negative : Bool) : Binary64 := ⟨negative, 0, -1074⟩

def isZero (x : Binary64) : Bool := x.mantissa == 0

def mantissaEnd : Nat := 0x20000000000000

def mantissaTop : Nat := 0x10000000000000

def power (base : Nat) (e : Int) : Nat × Nat :=
  if 0 ≤ e then (base.pow e.toNat, 1) else (1, base.pow (-e).toNat)

def ratio (x : Binary64) : Nat × Nat :=
  let (up, down) := power 2 x.exponent
  (x.mantissa * up, down)

/-- The integer nearest to `num / den`; a half goes to the even neighbour. -/
def nearest (num den : Nat) : Nat :=
  let q := num / den
  let r := num % den
  if 2 * r < den then q
  else if den < 2 * r then q + 1
  else q + q % 2

def inUnits (num den : Nat) (e : Int) : Nat :=
  let (up, down) := power 2 e
  nearest (num * down) (den * up)

/-- The binary64 number nearest to `num / den`, `none` beyond the greatest finite one. -/
def ofRatio? (negative : Bool) (num den : Nat) : Option Binary64 :=
  if num = 0 then some (zero negative)
  else
    let guess : Int := max ((num.log2 : Int) - den.log2 - 53) (-1074)
    -- In units of the guess the mantissa is at most one bit too wide.
    let e := if mantissaEnd ≤ inUnits num den guess then guess + 1 else guess
    let m := inUnits num den e
    -- Rounding up can reach the next power of two.
    let (m, e) := if m = mantissaEnd then (mantissaTop, e + 1) else (m, e)
    if 971 < e then none else some ⟨negative, m, e⟩

def ofDecimal? (negative : Bool) (digits : Nat) (scale : Int) : Option Binary64 :=
  let (up, down) := power 10 scale
  ofRatio? negative (digits * up) down

def mul? (x y : Binary64) : Option Binary64 :=
  ofRatio? (x.negative != y.negative) (x.ratio.1 * y.ratio.1) (x.ratio.2 * y.ratio.2)

def div? (x y : Binary64) : Option Binary64 :=
  ofRatio? (x.negative != y.negative) (x.ratio.1 * y.ratio.2) (x.ratio.2 * y.ratio.1)

def neg (x : Binary64) : Binary64 := { x with negative := !x.negative }

/-- The greatest `p` with `10 ^ p ≤ num / den`, for a ratio above zero. -/
def magnitude (num den : Nat) : Int :=
  let guess : Int := (Nat.toDigits 10 num).length - (Nat.toDigits 10 den).length
  let (up, down) := power 10 guess
  if den * up ≤ num * down then guess else guess - 1

/-- The bounds of the reals that round to the number, with the number between them, in quarters
    of the last place: below a power of two the spacing halves. -/
def bounds (x : Binary64) : Nat × Nat × Nat :=
  let m := x.mantissa
  if m = mantissaTop ∧ -1074 < x.exponent then (4 * m - 1, 4 * m, 4 * m + 2)
  else (4 * m - 2, 4 * m, 4 * m + 2)

/-- On the decimal grid `10 ^ k`: the neighbour of the number that reads back, the nearer of two. -/
def onGrid (x : Binary64) (k : Int) : Option Nat :=
  let (low, mid, high) := x.bounds
  let (up, down) := power 2 (x.exponent - 2)
  let (gridUp, gridDown) := power 10 k
  let scale := up * gridDown
  let unit := down * gridUp
  let readsBack (d : Nat) : Bool :=
    if x.mantissa % 2 = 0 then low * scale ≤ d * unit && d * unit ≤ high * scale
    else low * scale < d * unit && d * unit < high * scale
  let d := mid * scale / unit
  match readsBack d, readsBack (d + 1) with
  | false, false => none
  | true, false => some d
  | false, true => some (d + 1)
  | true, true =>
    let below := mid * scale - d * unit
    let above := (d + 1) * unit - mid * scale
    if below < above then some d
    else if above < below then some (d + 1)
    else some (d + d % 2)

def trimZeros : Nat → Nat → Int → Nat × Int
  | 0, d, k => (d, k)
  | fuel + 1, d, k => if d ≠ 0 ∧ d % 10 = 0 then trimZeros fuel (d / 10) (k + 1) else (d, k)

/-- The fewest digits that read back, with the power of ten of the last of them. -/
def shortest (x : Binary64) : Nat × Int :=
  let p := magnitude x.ratio.1 x.ratio.2
  let found := (List.range 17).findSome? fun (i : Nat) =>
    (x.onGrid (p - (i : Int))).map fun d => (d, p - (i : Int))
  match found with
  | some (d, k) => trimZeros 20 d k
  | none => (x.mantissa, x.exponent)

/-- Positional from `1e-5` up to `1e16`, with at least one digit on either side of the point;
    beyond that one digit before the point and an exponent. -/
def text (x : Binary64) : String :=
  let sign := if x.negative then "-" else ""
  if x.isZero then sign ++ "0.0"
  else
    let (d, k) := x.shortest
    let digits := Nat.toDigits 10 d
    let point : Int := digits.length + k
    let body : List Char :=
      if 0 ≤ k ∧ point ≤ 16 then digits ++ List.replicate k.toNat '0' ++ ['.', '0']
      else if 0 < point ∧ point ≤ 16 then
        digits.take point.toNat ++ '.' :: digits.drop point.toNat
      else if -5 < point ∧ point ≤ 0 then
        '0' :: '.' :: List.replicate (-point).toNat '0' ++ digits
      else
        let mantissa := match digits with
          | [] => []
          | [c] => [c]
          | c :: cs => c :: '.' :: cs
        let e := point - 1
        mantissa ++ 'e' :: (if e < 0 then '-' else '+') :: Nat.toDigits 10 e.natAbs
    sign ++ String.ofList body

end Binary64

end EndpointGen.Decimal
