import RecordQuery.Number.Power

/-!
# Binary floating point

A binary number is not a number, an infinity, or a sign with a significand times a power
of two. A format bounds the significand and the exponent. Every operation is the exact
rational result, rounded once to the nearest number of the format, a tie going to the
even significand.
-/

namespace RecordQuery

/-- The size of a floating-point format: significands below `2 ^ precision`, and powers of
    two from `2 ^ least` up to `2 ^ greatest`. -/
structure Format where
  precision : Nat
  least : Int
  greatest : Int
  deriving DecidableEq, Repr

/-- The interchange format of 32 bits. -/
def Format.single : Format := ⟨24, -149, 104⟩

/-- The interchange format of 64 bits. -/
def Format.double : Format := ⟨53, -1074, 971⟩

/-- A floating-point number. Finite numbers that come from rounding use all bits of the
    significand unless the exponent is the least of the format. -/
inductive Binary where
  | nan
  | infinite (negative : Bool)
  | finite (negative : Bool) (significand : Nat) (exponent : Int)
  deriving DecidableEq, Repr

namespace Binary

/-- The fraction `numerator / denominator` times a power of two, again as a fraction. -/
def shifted (numerator denominator : Nat) : Int → Nat × Nat
  | .ofNat places => (numerator * twoTo places, denominator)
  | .negSucc places => (numerator, denominator * twoTo (places + 1))

/-- The integer nearest to a fraction; a tie goes to the even one. -/
def nearest (numerator denominator : Nat) : Nat :=
  let quotient := numerator / denominator
  let twice := 2 * (numerator % denominator)
  if denominator < twice ∨ (denominator = twice ∧ quotient % 2 = 1) then quotient + 1
  else quotient

/-- The exponent at which a positive fraction fills the significand, or the least exponent
    of the format when the fraction is too small for that. -/
def fillingExponent (format : Format) (numerator denominator : Nat) : Int :=
  let guess : Int := (numerator.log2 : Int) - denominator.log2 - format.precision
  let (top, bottom) := shifted numerator denominator (-guess)
  max format.least (if top / bottom < twoTo format.precision then guess else guess + 1)

/-- The number of the format nearest to a fraction. -/
def round (format : Format) (negative : Bool) (numerator denominator : Nat) : Binary :=
  if numerator = 0 then finite negative 0 format.least
  else
    let exponent := fillingExponent format numerator denominator
    let (top, bottom) := shifted numerator denominator (-exponent)
    let significand := nearest top bottom
    let (significand, exponent) :=
      if significand = twoTo format.precision then (twoTo (format.precision - 1), exponent + 1)
      else (significand, exponent)
    if format.greatest < exponent then infinite negative
    else finite negative significand exponent

/-- An integer in a format; zero has no sign. -/
def ofInt (format : Format) (value : Int) : Binary :=
  round format (decide (value < 0)) value.natAbs 1

/-- The positive fraction of a significand and an exponent. -/
def magnitude (significand : Nat) (exponent : Int) : Nat × Nat :=
  shifted significand 1 exponent

/-- A number rounded to a format. -/
def convert (format : Format) : Binary → Binary
  | finite negative significand exponent =>
      let (top, bottom) := magnitude significand exponent
      round format negative top bottom
  | other => other

/-- Whether a number is not a number. -/
def isNan : Binary → Bool
  | nan => true
  | _ => false

/-- Whether a number is neither infinite nor not a number. -/
def isFinite : Binary → Bool
  | finite .. => true
  | _ => false

/-- Whether the number is a zero of either sign. -/
def isZero : Binary → Bool
  | finite _ significand _ => significand == 0
  | _ => false

/-- The opposite number. -/
def negate : Binary → Binary
  | nan => nan
  | infinite negative => infinite !negative
  | finite negative significand exponent => finite (!negative) significand exponent

/-- A significand with its sign. -/
def signed (negative : Bool) (significand : Nat) : Int :=
  if negative then -significand else significand

/-- The exact order of two signed significands with their powers of two. -/
def compareFinite (left : Int) (leftExponent : Int) (right : Int) (rightExponent : Int) :
    Ordering :=
  let common := min leftExponent rightExponent
  compare (left * twoTo (leftExponent - common).toNat)
    (right * twoTo (rightExponent - common).toNat)

/-- The order of two numbers: undefined exactly when one is not a number. Zeros of both
    signs are equal. -/
def compare? : Binary → Binary → Option Ordering
  | nan, _ | _, nan => none
  | infinite left, infinite right => some (compare right.toNat left.toNat)
  | infinite negative, finite .. => some (if negative then .lt else .gt)
  | finite .., infinite negative => some (if negative then .gt else .lt)
  | finite leftNegative left leftExponent, finite rightNegative right rightExponent =>
      some (compareFinite (signed leftNegative left) leftExponent
        (signed rightNegative right) rightExponent)

/-- The product. -/
def mul (format : Format) : Binary → Binary → Binary
  | nan, _ | _, nan => nan
  | infinite left, infinite right => infinite (left != right)
  | infinite left, finite right significand _ | finite right significand _, infinite left =>
      if significand = 0 then nan else infinite (left != right)
  | finite left a p, finite right b q =>
      let (top, bottom) := magnitude (a * b) (p + q)
      round format (left != right) top bottom

/-- The quotient. -/
def div (format : Format) : Binary → Binary → Binary
  | nan, _ | _, nan | infinite _, infinite _ => nan
  | infinite left, finite right .. => infinite (left != right)
  | finite left .., infinite right => finite (left != right) 0 format.least
  | finite left a p, finite right b q =>
      if b = 0 then if a = 0 then nan else infinite (left != right)
      else
        let (top, bottom) := shifted a b (p - q)
        round format (left != right) top bottom

/-- The sum. A sum of zero is negative only if both terms are negative. -/
def add (format : Format) : Binary → Binary → Binary
  | nan, _ | _, nan => nan
  | infinite left, infinite right => if left = right then infinite left else nan
  | infinite negative, finite .. | finite .., infinite negative => infinite negative
  | finite left a p, finite right b q =>
      let common := min p q
      let sum := signed left a * twoTo (p - common).toNat + signed right b * twoTo (q - common).toNat
      let (top, bottom) := magnitude sum.natAbs common
      round format (if sum = 0 then left && right else decide (sum < 0)) top bottom

/-- The nearest integer, a tie going away from zero. -/
def roundAway (format : Format) : Binary → Binary
  | finite negative significand exponent =>
      let (top, bottom) := magnitude significand exponent
      round format negative ((2 * top + bottom) / (2 * bottom)) 1
  | other => other

end Binary

end RecordQuery
