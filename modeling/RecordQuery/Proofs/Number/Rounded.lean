import RecordQuery.Number.Basic

/-!
# Numbers rounded to 64 bits

Every number stands for one of 64 bits. Rounding a fraction gives a number with the sign that it
is given, and the steps by which a decimal is rounded keep to numbers: the whole part and the
fraction are not negative, so no infinities of both signs are added, and the unit that is
multiplied and divided by is finite and not zero. Integers and decimals therefore never turn into
an undefined number.
-/

namespace RecordQuery

namespace Binary

/-- The sign of a number; what is not a number has none. -/
def sign? : Binary → Option Bool
  | nan => none
  | infinite negative => some negative
  | finite negative .. => some negative

/-- What has a sign is a number. -/
theorem isNan_of_sign {value : Binary} {negative : Bool} (signed : value.sign? = some negative) :
    value.isNan = false := by
  cases value with
  | nan => cases signed
  | infinite _ => rfl
  | finite _ _ _ => rfl

/-- Rounding gives the sign that it is given. Even a number that is rounded to zero or to infinity
    keeps it. -/
@[simp]
theorem sign_round (format : Format) (negative : Bool) (numerator denominator : Nat) :
    (round format negative numerator denominator).sign? = some negative := by
  unfold round
  split
  · rfl
  · dsimp only
    split <;> split <;> rfl

/-- A natural number is not negative in any format. -/
theorem sign_ofNat (format : Format) (value : Nat) :
    (ofInt format (value : Int)).sign? = some false := by
  rw [ofInt, sign_round, decide_eq_false (by omega)]

/-- A number divided by a finite one that is not zero has the sign of the quotient. The exponents do
    not matter for it. -/
theorem sign_div {format : Format} {value : Binary} {negative other : Bool} {significand : Nat}
    {exponent : Int} (signed : value.sign? = some negative) (nonzero : significand ≠ 0) :
    (div format value (finite other significand exponent)).sign? = some (negative != other) := by
  cases value with
  | nan => cases signed
  | infinite sign =>
    cases signed
    rfl
  | finite sign _ _ =>
    cases signed
    simp [div, nonzero]

/-- The sum of numbers of one sign is a number. Only infinities of opposite signs have no sum. -/
theorem isNan_add {format : Format} {left right : Binary} {negative : Bool}
    (leftSign : left.sign? = some negative) (rightSign : right.sign? = some negative) :
    (add format left right).isNan = false := by
  cases left with
  | nan => cases leftSign
  | infinite sign =>
    cases right with
    | nan => cases rightSign
    | infinite other =>
      cases leftSign
      cases rightSign
      simp [add, isNan]
    | finite _ _ _ => rfl
  | finite sign _ _ =>
    cases right with
    | nan => cases rightSign
    | infinite other => rfl
    | finite _ _ _ => exact isNan_of_sign (sign_round ..)

/-- The product of a number with a finite one that is not zero is a number. Only zero times infinity
    is undefined. -/
theorem isNan_mul {format : Format} {value : Binary} {other : Bool} {significand : Nat}
    {exponent : Int} (number : value.isNan = false) (nonzero : significand ≠ 0) :
    (mul format value (finite other significand exponent)).isNan = false := by
  cases value with
  | nan => cases number
  | infinite sign => simp [mul, nonzero, isNan]
  | finite sign _ _ => exact isNan_of_sign (sign_round ..)

/-- Rounding a number to an integer gives a number. -/
theorem isNan_roundAway {format : Format} {value : Binary} (number : value.isNan = false) :
    (roundAway format value).isNan = false := by
  cases value with
  | nan => cases number
  | infinite sign => rfl
  | finite sign _ _ => exact isNan_of_sign (sign_round ..)

/-- What is a number has a sign. -/
theorem sign_of_isNan {value : Binary} (number : value.isNan = false) :
    ∃ negative, value.sign? = some negative := by
  cases value with
  | nan => cases number
  | infinite sign => exact ⟨sign, rfl⟩
  | finite sign _ _ => exact ⟨sign, rfl⟩

/-- The opposite of a number is a number. -/
theorem isNan_negate (value : Binary) : value.negate.isNan = value.isNan := by
  cases value <;> rfl

end Binary

namespace Decimal

open Binary (div add mul roundAway)

/-- The units of decimals are finite and not zero. There are 29 of them, so they are looked at one
    after the other. -/
theorem unit_nonzero {scale : Nat} (le : scale ≤ 28) :
    ∃ negative significand exponent, significand ≠ 0 ∧
      doubleOfNat (tenTo scale) = .finite negative significand exponent := by
  have checked : ∀ scale < 29, ((doubleOfNat (tenTo scale)).isFinite &&
      !(doubleOfNat (tenTo scale)).isZero) = true := by decide
  have unit := checked scale (by omega)
  cases value : doubleOfNat (tenTo scale) with
  | nan => simp [value, Binary.isFinite] at unit
  | infinite _ => simp [value, Binary.isFinite] at unit
  | finite negative significand exponent =>
    refine ⟨negative, significand, exponent, ?_, rfl⟩
    simpa [value, Binary.isFinite, Binary.isZero] using unit

/-- The number of 64 bits that a decimal stands for is never undefined.

    Proof: the units are finite and positive, so dividing, adding, multiplying and rounding numbers
    with a positive sign never meets a case without a result. -/
theorem isNan_toDouble (decimal : Decimal) : decimal.toDouble.isNan = false := by
  unfold toDouble
  split
  · exact Binary.isNan_of_sign (Binary.sign_round ..)
  · obtain ⟨negative, significand, exponent, nonzero, unitValue⟩ := unit_nonzero decimal.scale_le
    have positive : negative = false := by
      have signed := Binary.sign_ofNat .double (tenTo decimal.scale)
      rw [← doubleOfNat, unitValue] at signed
      exact Option.some.inj signed
    subst positive
    let unit : Binary := .finite false significand exponent
    let part := div .double (doubleOfNat decimal.fractionPart) unit
    let sum := add .double (doubleOfNat decimal.wholePart) part
    have whole : (doubleOfNat decimal.wholePart).sign? = some false :=
      Binary.sign_ofNat .double decimal.wholePart
    have fraction : part.sign? = some false :=
      Binary.sign_div (Binary.sign_ofNat .double decimal.fractionPart) nonzero
    have product : (roundAway .double (mul .double sum unit)).isNan = false :=
      Binary.isNan_roundAway (Binary.isNan_mul (Binary.isNan_add whole fraction) nonzero)
    obtain ⟨sign, signed⟩ := Binary.sign_of_isNan product
    have rounded : (div .double (roundAway .double (mul .double sum unit)) unit).isNan = false :=
      Binary.isNan_of_sign (Binary.sign_div signed nonzero)
    have signs (magnitude : Binary) (number : magnitude.isNan = false) :
        (if decimal.negative then magnitude.negate else magnitude).isNan = false := by
      split
      · rw [Binary.isNan_negate, number]
      · exact number
    apply signs
    rw [unitValue]
    split
    · exact Binary.isNan_of_sign whole
    · exact rounded

end Decimal

end RecordQuery
