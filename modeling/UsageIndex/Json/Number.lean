/-!
# Written numbers

A number is written as an integer without leading zeros, with a sign before it if it is negative,
and behind it a fraction and an exponent, both of which may be missing.

* **`decimal?`**: the digits of a written number and its exponent.
* **`Decimal.scaled`**: the number as a significand of 64 bits and the power of ten that it counts.
* **`Decimal.fitsDouble`**: the significand times the power, both rounded to doubles, is finite.
-/

namespace UsageIndex.Json

/-- A written number without its sign. -/
structure Decimal where
  /-- The digits before the point. -/
  int : List Char
  /-- The digits behind the point. -/
  frac : List Char
  /-- The exponent as it is written, zero if it is missing. -/
  exponent : Int
  deriving DecidableEq

/-- Reads a fraction, if there is one. The answer is its digits and the rest. -/
def readFraction : List Char → Option (List Char × List Char)
  | '.' :: cs =>
    if cs.takeWhile Char.isDigit = [] then none
    else some (cs.takeWhile Char.isDigit, cs.dropWhile Char.isDigit)
  | cs => some ([], cs)

/-- A number with one more digit behind it. -/
def pushDigit (n : Nat) (d : Char) : Nat := n * 10 + (d.toNat - 0x30)

/-- The number that digits write. -/
def natOfDigits (ds : List Char) : Nat := ds.foldl pushDigit 0

/-- The exponent without its sign. -/
def exponentOfDigits? (ds : List Char) : Option Nat :=
  if ds ≠ [] ∧ ds.all Char.isDigit = true then some (natOfDigits ds) else none

/-- The exponent behind the letter. -/
def signedExponent? : List Char → Option Int
  | '-' :: ds => (exponentOfDigits? ds).map fun n => -Int.ofNat n
  | '+' :: ds => (exponentOfDigits? ds).map Int.ofNat
  | ds => (exponentOfDigits? ds).map Int.ofNat

/-- The exponent, if there is one, that the rest of a number writes. -/
def exponent? : List Char → Option Int
  | [] => some 0
  | 'e' :: cs => signedExponent? cs
  | 'E' :: cs => signedExponent? cs
  | _ => none

/-- Whether digits write an integer: there is one, and no zero leads. -/
def isInteger : List Char → Bool
  | [] => false
  | ['0'] => true
  | c :: _ => c != '0'

/-- A written number without its sign. -/
def unsigned? (cs : List Char) : Option Decimal :=
  let int := cs.takeWhile Char.isDigit
  if isInteger int then
    match readFraction (cs.dropWhile Char.isDigit) with
    | some (frac, rest) => (exponent? rest).map fun e => ⟨int, frac, e⟩
    | none => none
  else none

/-- A written number. -/
def decimal? : List Char → Option Decimal
  | '-' :: cs => unsigned? cs
  | cs => unsigned? cs

/-! ## Size -/

/-- Puts digits behind a number as long as it keeps to 64 bits. The answer has the digits that are
left over. -/
def absorb : Nat → List Char → Nat × List Char
  | n, [] => (n, [])
  | n, d :: ds => if pushDigit n d < UInt64.size then absorb (pushDigit n d) ds else (n, d :: ds)

/-- The significand of a number, and the power of ten that it counts. A digit before the point that
is left over makes the power greater by one; a digit behind the point that is not makes it less by
one. -/
def Decimal.scaled (d : Decimal) : Nat × Int :=
  let whole := absorb 0 d.int
  let all := absorb whole.1 d.frac
  (all.1, whole.2.length - (d.frac.length - all.2.length : Nat) + d.exponent)

/-- The nearest number of 53 significant bits, and of two that are equally near the one whose last
significant bit is zero. -/
def toDouble (n : Nat) : Nat :=
  let k := n.log2 + 1 - 53
  let q := n >>> k
  let unit := 1 <<< k
  let rest := 2 * (n % unit)
  let up := unit < rest || (unit == rest && q % 2 == 1)
  (if up then q + 1 else q) <<< k

/-- The least number to which no double of finite size is nearest. -/
def doubleLimit : Nat := (1 <<< 1024) - (1 <<< 970)

/-- Whether a number is kept as a double of finite size. The power of ten has to be one, and so has
the product of its double with that of the significand. -/
def Decimal.fitsDouble (d : Decimal) : Bool :=
  let (n, e) := d.scaled
  n == 0 || decide (e < 0)
    || (decide (e ≤ 308) && decide (toDouble n * toDouble (Nat.pow 10 e.toNat) < doubleLimit))

end UsageIndex.Json
