import ScriptStyle.Text.Basic

/-!
# The shortest digits of a floating-point number

A positive finite number is `m · 2 ^ q`. The reals that round to it form an interval, ends included
if `m` is even. Of the decimal numbers in this interval those with the fewest digits are taken, and
of these the nearest one. Whether a decimal lies in the interval is decided in whole numbers.

The digits are written with a decimal point if the exponent is small, and otherwise with an exponent
that always has a sign.
-/

namespace ScriptStyle.Json

/-- A positive binary fraction `m · 2 ^ q`, and whether the next smaller one is nearer than the next
greater one. -/
structure Binary where
  /-- The mantissa `m`. -/
  mantissa : Nat
  /-- The exponent `q`. -/
  exponent : Int
  /-- The mantissa is the smallest with its number of bits. -/
  atPower : Bool

namespace Binary

/-- The binary fraction behind the bits of a finite positive number. -/
def ofBits (bits : UInt64) : Binary :=
  let one : Nat := 1 <<< 52
  let fraction := bits.toNat % one
  let exponent : Nat := bits.toNat / one % 2048
  if exponent = 0 then ⟨fraction, -1074, false⟩
  else ⟨one + fraction, (exponent : Int) - 1075, fraction = 0 && exponent ≠ 1⟩

/-- Numerators over a common denominator: of the number itself and of the ends of its interval. -/
def scaled (b : Binary) : Nat × Nat × Nat × Nat :=
  let up : Nat := 1 <<< b.exponent.toNat
  let value := 4 * b.mantissa * up
  (value, value - (if b.atPower then 1 else 2) * up, value + 2 * up, 4 <<< (-b.exponent).toNat)

/-- The power of ten just below or at the fraction `n / den · 10 ^ e`, of which the whole part is at
most nine. -/
def exponentBelow (den : Nat) : Nat → Nat → Int → Int
  | 0, _, e => e
  | fuel + 1, n, e => if den ≤ n then e else exponentBelow den fuel (10 * n) (e - 1)

/-- The power of ten just below or at the number. -/
def decimalExponent (b : Binary) : Int :=
  let (value, _, _, den) := b.scaled
  let whole := value / den
  if whole ≠ 0 then (Nat.toDigits 10 whole).length - 1 else exponentBelow den 400 (10 * value) (-1)

/-- The decimal `c · 10 ^ k` compared with the number: whether it lies in the interval, and how far
it is from the number. -/
def distance? (b : Binary) (c : Nat) (k : Int) : Option Nat :=
  let (value, low, high, den) := b.scaled
  let scale := Nat.pow 10 (-k).toNat
  let x := c * Nat.pow 10 k.toNat * den
  let even := b.mantissa % 2 = 0
  let inside :=
    if even then low * scale ≤ x && x ≤ high * scale else low * scale < x && x < high * scale
  if inside then some (if x ≤ value * scale then value * scale - x else x - value * scale) else none

/-- The nearest decimal of the interval with `n` digits, as its digits and the power of ten of the
last one. -/
def nearest? (b : Binary) (e : Int) (n : Nat) : Option (Nat × Int) :=
  let k := e - n + 1
  let (value, _, _, den) := b.scaled
  let c := value * Nat.pow 10 (-k).toNat / (den * Nat.pow 10 k.toNat)
  match b.distance? c k, b.distance? (c + 1) k with
  | some d, some d' => some (if d < d' || (d = d' && c % 2 = 0) then c else c + 1, k)
  | some _, none => some (c, k)
  | none, some _ => some (c + 1, k)
  | none, none => none

/-- The shortest decimal of the interval. -/
def shortest (b : Binary) : Nat × Int :=
  let e := b.decimalExponent
  ((List.range 17).findSome? fun n => b.nearest? e (n + 1)).getD (b.mantissa, 0)

end Binary

/-- The exponents of ten for which a number is written without one. -/
def isPlainExponent (e : Int) : Bool := -5 ≤ e && e ≤ 15

/-- Digits `c` times the power `k` of ten. -/
def scientific (c : Nat) (k : Int) : Text :=
  let digits := Nat.toDigits 10 c
  let zeros := (digits.reverse.takeWhile (· = '0')).length
  let k := k + zeros
  let digits := digits.take (digits.length - zeros)
  let e := k + digits.length - 1
  if isPlainExponent e then
    if 0 ≤ k then digits ++ List.replicate k.toNat '0' ++ ['.', '0']
    else if 0 ≤ e then digits.take (e.toNat + 1) ++ '.' :: digits.drop (e.toNat + 1)
    else '0' :: '.' :: List.replicate (-e - 1).toNat '0' ++ digits
  else
    let mantissa := match digits with
      | [] => []
      | [d] => [d]
      | d :: ds => d :: '.' :: ds
    mantissa ++ ['e', if 0 ≤ e then '+' else '-'] ++ Nat.toDigits 10 e.natAbs

/-- A finite number. -/
def floatText (f : Float) : Text :=
  let bits := f.toBits
  let signBit : Nat := 1 <<< 63
  let sign := if bits.toNat / signBit = 1 then ['-'] else []
  let size := (bits.toNat % signBit).toUInt64
  if size = 0 then sign ++ ['0', '.', '0']
  else
    let (c, k) := (Binary.ofBits size).shortest
    sign ++ scientific c k

end ScriptStyle.Json
