/-!
Binary floating point numbers of double precision: the nearest one to a decimal, and the shortest
decimal that reads back as a given one. All arithmetic is exact, on natural numbers.
-/

namespace TaintGrep.Number

/-- A finite number is `mantissa * 2 ^ exponent` with its sign. -/
inductive Double where
  | nan
  | infinity (negative : Bool)
  | finite (negative : Bool) (mantissa : Nat) (exponent : Int)
  deriving DecidableEq, Repr

def scale (base : Nat) (e : Int) (num den : Nat) : Nat × Nat :=
  if 0 ≤ e then (num * base.pow e.toNat, den) else (num, den * base.pow (-e).toNat)

/-- The nearest integer to a quotient, a half going to the even one. -/
def roundDiv (num den : Nat) : Nat :=
  let q := num / den
  let r := num % den
  if 2 * r < den ∨ (2 * r = den ∧ q % 2 = 0) then q else q + 1

def digitCount (n : Nat) : Nat :=
  if n = 0 then 0 else (Nat.toDigits 10 n).length

namespace Double

def minExponent : Int := -1074

def maxExponent : Int := 971

def leastFull : Nat := Nat.pow 2 52

def ofFraction (negative : Bool) (num den : Nat) : Double :=
  let guess : Int := (num.log2 : Int) - (den.log2 : Int) - 52
  let (n, d) := scale 2 (-guess) num den
  let least := if n / d < leastFull then guess - 1 else guess
  let e := if least < minExponent then minExponent else least
  let (n, d) := scale 2 (-e) num den
  let m := roundDiv n d
  let (m, e) := if m = 2 * leastFull then (leastFull, e + 1) else (m, e)
  if e > maxExponent then .infinity negative else .finite negative m e

/-- The nearest number to `digits * 10 ^ exponent`. Exponents far outside the range are not
computed with. -/
def ofDecimal (negative : Bool) (digits : Nat) (exponent : Int) : Double :=
  let top := (digitCount digits : Int) + exponent
  if digits = 0 ∨ top < -400 then .finite negative 0 minExponent
  else if top > 400 then .infinity negative
  else
    let (n, d) := scale 10 exponent digits 1
    ofFraction negative n d

/-- The decimals that read back as `mantissa * 2 ^ exponent`, as bounds in units of
`2 ^ (exponent - 2)`; both belong to the interval if the mantissa is even. -/
def interval (mantissa : Nat) (exponent : Int) : Nat × Nat :=
  let low := if mantissa = leastFull ∧ exponent > minExponent then 4 * mantissa - 1
    else 4 * mantissa - 2
  (low, 4 * mantissa + 2)

def readsBack (mantissa : Nat) (exponent : Int) (n : Nat) (g : Int) : Bool :=
  let (low, high) := interval mantissa exponent
  let (a, b) := scale 10 g n 1
  let (c, d) := scale 2 (exponent - 2) 1 1
  if mantissa % 2 = 0 then low * c * b ≤ a * d && a * d ≤ high * c * b
  else low * c * b < a * d && a * d < high * c * b

/-- The power of ten that a positive fraction reaches, from `10 ^ -j` down. -/
def belowOne (num den : Nat) : Nat → Nat → Int
  | 0, j => -(j : Int)
  | fuel + 1, j => if den ≤ num * Nat.pow 10 j then -(j : Int) else belowOne num den fuel (j + 1)

def leading (num den : Nat) : Int :=
  if den ≤ num then (digitCount (num / den) : Int) - 1 else belowOne num den 400 1

/-- The first of the digit counts `k`, `k + 1`, … on whose grid a neighbour of the number reads
back; of two such neighbours the nearer one, and of two equally near the larger. Seventeen digits
always suffice. -/
def shortestFrom (m : Nat) (exponent p : Int) : Nat → Nat → Nat × Int
  | 0, _ => (m, 0)
  | fuel + 1, k =>
    let g := p + 1 - k
    let (n, d) := scale 2 exponent m 1
    let (n, d) := scale 10 (-g) n d
    let below := n / d
    let near := if 2 * (n % d) < d then [below, below + 1] else [below + 1, below]
    match near.find? fun c => c ≠ 0 && readsBack m exponent c g with
    | some c => (c, g)
    | none => shortestFrom m exponent p fuel (k + 1)

def shortest (mantissa : Nat) (exponent : Int) : Nat × Int :=
  let (n, d) := scale 2 exponent mantissa 1
  shortestFrom mantissa exponent (leading n d) 17 1

def zeros (n : Nat) : String :=
  String.ofList (List.replicate n '0')

def positional (n : Nat) (g : Int) : String :=
  let all := Nat.toDigits 10 n
  let ds := (all.reverse.dropWhile (· == '0')).reverse
  let point : Int := (all.length : Int) + g
  let g := point - ds.length
  if 0 ≤ g then String.ofList ds ++ zeros g.toNat ++ ".0"
  else if 0 < point then
    String.ofList (ds.take point.toNat) ++ "." ++ String.ofList (ds.drop point.toNat)
  else
    "0." ++ zeros (-point).toNat ++ String.ofList ds

def text : Double → String
  | .nan => "NaN"
  | .infinity negative => if negative then "-inf" else "inf"
  | .finite negative m e =>
    (if negative then "-" else "") ++
      if m = 0 then "0.0" else
        let (n, g) := shortest m e
        positional n g

end Double

end TaintGrep.Number
