/-!
# Shortest decimal text of a double

A finite double is written with the fewest significant digits that read back as the
same double; of two such decimals the nearer one wins, and an exact tie goes to the even
digit. The digits are then laid out positionally when the decimal point falls within
sixteen places, and as `d.ddde±x` otherwise.

What this module delivers:

* `Decimal.Binary`, a finite double as an exact binary fraction, read from its bits.
* `Decimal.shortest`, the digits and power of ten of the shortest decimal, found by exact
  integer comparisons against the interval of reals that round to the double.
* `Decimal.layout` and `Decimal.floatText`, the text of a double.
-/

namespace ImportPath

namespace Decimal

/-- A finite double as `significand * 2 ^ exponent`, with its sign. `narrowBelow` holds
when the double below is nearer than the one above (the significand starts a binade). -/
structure Binary where
  negative : Bool
  significand : Nat
  exponent : Int
  narrowBelow : Bool
  deriving Repr

/-- The binary fraction of a finite double, read from its bits. -/
def Binary.ofBits (b : UInt64) : Binary :=
  let n : Nat := b.toNat
  let mant : Nat := n % Nat.pow 2 52
  let ex : Nat := (n / Nat.pow 2 52) % Nat.pow 2 11
  if ex = 0 then ⟨decide (n ≥ Nat.pow 2 63), mant, -1074, false⟩
  else ⟨decide (n ≥ Nat.pow 2 63), mant + Nat.pow 2 52, (ex : Int) - 1075, decide (mant = 0 ∧ ex > 1)⟩

/-- `a * 2 ^ e` as a pair of natural numbers to compare: the factor moves to the other
side when its exponent is negative. -/
def scaleTwo (a : Nat) (e : Int) : Nat × Nat :=
  if e ≥ 0 then (a * Nat.pow 2 e.toNat, 1) else (a, Nat.pow 2 (-e).toNat)

/-- `a * 10 ^ e` as a pair (numerator, denominator). -/
def scaleTen (a : Nat) (e : Int) : Nat × Nat :=
  if e ≥ 0 then (a * Nat.pow 10 e.toNat, 1) else (a, Nat.pow 10 (-e).toNat)

/-- Compares `d * 10 ^ k` with `x * 2 ^ f` exactly. -/
def compareTenTwo (d : Nat) (k : Int) (x : Nat) (f : Int) : Ordering :=
  let (ln, ld) := scaleTen d k
  let (rn, rd) := scaleTwo x f
  compare (ln * rd) (rn * ld)

/-- The exponent of the leading decimal digit of `m * 2 ^ e` (for `m > 0`): the `t` with
`10 ^ t ≤ m * 2 ^ e < 10 ^ (t + 1)`. An estimate from the bit length is corrected by at
most a few steps. -/
def leadingPower (m : Nat) (e : Int) : Int :=
  let est : Int := ((Nat.log2 m : Int) + e) * 30103 / 100000
  let up (t : Int) : Int := if compareTenTwo 1 (t + 1) m e != .gt then t + 1 else t
  let down (t : Int) : Int := if compareTenTwo 1 t m e == .gt then t - 1 else t
  up (up (down (down est)))

/-- Drops trailing zero digits, raising the power of ten. -/
def stripZeros : Nat → Nat → Int → Nat × Int
  | 0, d, k => (d, k)
  | fuel + 1, d, k => if d ≠ 0 ∧ d % 10 = 0 then stripZeros fuel (d / 10) (k + 1) else (d, k)

/-- The shortest decimal `d * 10 ^ k` in the rounding interval of a positive binary
fraction, searching one digit count after another. -/
def shortestOf (b : Binary) : Nat × Int :=
  let m := b.significand
  let f := b.exponent - 2
  let low := 4 * m - (if b.narrowBelow then 1 else 2)
  let high := 4 * m + 2
  let inclusive := m % 2 = 0
  let inside (d : Nat) (k : Int) : Bool :=
    let lo := compareTenTwo d k low f
    let hi := compareTenTwo d k high f
    (lo == .gt || (inclusive && lo == .eq)) && (hi == .lt || (inclusive && hi == .eq))
  let t := leadingPower m b.exponent
  let rec search : Nat → Nat → Nat × Int
    | 0, _ => (m, b.exponent)
    | fuel + 1, n =>
      let k : Int := t - n + 1
      let (num, den) := scaleTwo m b.exponent
      let (tn, td) := scaleTen 1 k
      -- m * 2^e / 10^k, rounded down
      let dLo := (num * td) / (den * tn)
      let dHi := dLo + 1
      match inside dLo k, inside dHi k with
      | true, true =>
        -- nearer one, ties to even: compare 2v with (2 dLo + 1) 10^k
        match compareTenTwo (2 * dLo + 1) k (2 * m) b.exponent with
        | .gt => (dLo, k)
        | .lt => (dHi, k)
        | .eq => if dLo % 2 = 0 then (dLo, k) else (dHi, k)
      | true, false => (dLo, k)
      | false, true => (dHi, k)
      | false, false => search fuel (n + 1)
  let (d, k) := search 17 1
  stripZeros 20 d k

/-- The shortest decimal of a positive binary fraction, without trailing zeros. -/
def shortest (b : Binary) : Nat × Int := shortestOf b

/-- `n` zero characters. -/
def zeros (n : Nat) : String := String.ofList (List.replicate n '0')

/-- The exponent of the scientific form: its sign is always written. -/
def exponentText (e : Int) : String :=
  if e ≥ 0 then "+" ++ toString e else toString e

/-- Lays out digits `ds` times `10 ^ k`: positionally when the point falls within sixteen
places (with `.0` after an integer), as `0.000ddd` down to four leading zeros, and as
`d.ddde±x` otherwise. -/
def layout (ds : String) (k : Int) : String :=
  let len : Int := ds.length
  let kk := len + k
  if 0 ≤ k ∧ kk ≤ 16 then ds ++ zeros k.toNat ++ ".0"
  else if 0 < kk ∧ kk ≤ 16 then
    String.ofList (ds.toList.take kk.toNat) ++ "." ++ String.ofList (ds.toList.drop kk.toNat)
  else if -5 < kk ∧ kk ≤ 0 then "0." ++ zeros (-kk).toNat ++ ds
  else if len = 1 then ds ++ "e" ++ exponentText (kk - 1)
  else
    String.ofList (ds.toList.take 1) ++ "." ++ String.ofList (ds.toList.drop 1) ++ "e" ++
      exponentText (kk - 1)

/-- The text of a finite double: its sign, then `0.0` for zero or the layout of its
shortest decimal. -/
def floatText (x : Float) : String :=
  let b := Binary.ofBits x.toBits
  let sign := if b.negative then "-" else ""
  if b.significand = 0 then sign ++ "0.0"
  else
    let (d, k) := shortest b
    sign ++ layout (toString d) k

end Decimal

end ImportPath
