import RecordQuery.Number.Coercion
import RecordQuery.Proofs.Number.Mixed

/-!
# Exact numbers

Integers and decimals are exact: each stands for a rational number, and each is a decimal that
stands for the same one and is written the same way. Two of them compare as these rational numbers
do, of whatever kinds they are. Coercion to an exact kind goes by the decimal, and the kind that a
number already has is no exception.
-/

namespace RecordQuery

/-- The kinds of exact numbers: integers and decimals. -/
def NumberKind.IsExact : NumberKind → Prop
  | integer _ | decimal => True
  | single | double => False

/-- Every integer kind is exact. -/
theorem NumberKind.isExact_integer (kind : IntegerKind) : (integer kind).IsExact :=
  trivial

/-- Exact kinds are the integer kinds and that of decimals. It spares proofs the binary kinds. -/
theorem NumberKind.exact_cases (kind : NumberKind) (exact : kind.IsExact) :
    (∃ integerKind, kind = integer integerKind) ∨ kind = decimal := by
  cases kind with
  | integer integerKind => exact .inl ⟨integerKind, rfl⟩
  | decimal => exact .inr rfl
  | single => exact exact.elim
  | double => exact exact.elim

/-- An integer is its absolute value behind its sign. Decimals keep sign and digits apart. -/
theorem signed_natAbs (value : Int) :
    (if decide (value < 0) then -(value.natAbs : Int) else value.natAbs) = value := by
  by_cases negative : value < 0
  · rw [decide_eq_true negative, if_pos rfl]
    omega
  · rw [decide_eq_false negative, if_neg Bool.false_ne_true]
    omega

/-- The integers of every kind have fewer bits than a decimal has for its digits. -/
theorem IntegerKind.natAbs_lt {kind : IntegerKind} {value : Int} (fits : kind.Holds value) :
    value.natAbs < twoTo 96 := by
  obtain ⟨lower, upper⟩ := fits
  have wide : twoTo 96 = 79228162514264337593543950336 := by decide
  cases kind <;> simp [IntegerKind.lower, IntegerKind.upper, signed, bits, twoTo] at lower upper <;>
    omega

namespace Decimal

variable {value : Int} {decimal : Decimal}

/-- The integers of every kind are decimals. -/
theorem exists_ofInt {kind : IntegerKind} (fits : kind.Holds value) :
    ∃ decimal, ofInt? value = some decimal := by
  rw [ofInt?, make?, dif_pos ⟨IntegerKind.natAbs_lt fits, Nat.zero_le 28⟩]
  exact ⟨_, rfl⟩

/-- The decimal of an integer has its sign, and no places. -/
theorem fields_ofInt (made : ofInt? value = some decimal) :
    decimal.negative = decide (value < 0) ∧ decimal.mantissa = value.natAbs ∧ decimal.scale = 0 :=
  make_eq_some made

/-- The digits of the decimal of an integer all stand before the point. -/
theorem wholePart_ofInt (made : ofInt? value = some decimal) :
    decimal.wholePart = value.natAbs := by
  obtain ⟨-, mantissa, scale⟩ := fields_ofInt made
  rw [wholePart, mantissa, scale]
  exact Nat.div_one _

/-- Nothing is dropped from the decimal of an integer. -/
theorem truncated_ofInt (made : ofInt? value = some decimal) : decimal.truncated = value := by
  rw [truncated, wholePart_ofInt made, (fields_ofInt made).1]
  exact signed_natAbs value

/-- The decimal of an integer stands for it. It has no places, so its digits are those of the
    integer. -/
theorem toRat_ofInt (made : ofInt? value = some decimal) : decimal.toRat = value := by
  obtain ⟨negative, mantissa, scale⟩ := fields_ofInt made
  have signed : decimal.signedMantissa = value := by
    rw [signedMantissa, negative, mantissa]
    exact signed_natAbs value
  rw [toRat, signed, scale]
  simp [tenTo]

/-- The decimal of an integer is written as the integer. -/
theorem text_ofInt (made : ofInt? value = some decimal) : decimal.text = Text.ofInt value := by
  obtain ⟨negative, -, scale⟩ := fields_ofInt made
  simp [text, Text.ofInt, Text.intDigits, wholePart_ofInt made, negative, scale]

end Decimal

namespace Number

/-- Whether an exact number is written behind a minus sign. -/
def hasMinus : Number → Bool
  | integer _ value _ => decide (value < 0)
  | decimal value => value.negative
  | _ => false

variable {number left right : Number} {decimal leftDecimal rightDecimal : Decimal}

/-- Exact numbers are integers or decimals. It is the same for numbers as for their kinds. -/
theorem exact_cases (exact : number.kind.IsExact) :
    (∃ kind value fits, number = .integer kind value fits) ∨
      ∃ value, number = .decimal value := by
  cases number with
  | integer kind value fits => exact .inl ⟨kind, value, fits, rfl⟩
  | decimal value => exact .inr ⟨value, rfl⟩
  | single _ => exact exact.elim
  | double _ => exact exact.elim

/-- Exact numbers are not binary. -/
theorem isBinary_of_exact (exact : number.kind.IsExact) : number.isBinary = false := by
  rcases exact_cases exact with ⟨kind, value, fits, rfl⟩ | ⟨value, rfl⟩
  · rfl
  · rfl

/-- Exact numbers are decimals. -/
theorem exists_toDecimal (exact : number.kind.IsExact) :
    ∃ decimal, number.toDecimal? = some decimal := by
  rcases exact_cases exact with ⟨kind, value, fits, rfl⟩ | ⟨value, rfl⟩
  · exact Decimal.exists_ofInt fits
  · exact ⟨value, rfl⟩

/-- The decimal of an exact number stands for the same rational number. -/
theorem toRat_toDecimal (exact : number.kind.IsExact) (made : number.toDecimal? = some decimal) :
    decimal.toRat = number.toRat := by
  rcases exact_cases exact with ⟨kind, value, fits, rfl⟩ | ⟨value, rfl⟩
  · exact Decimal.toRat_ofInt made
  · rw [← Option.some.inj made]
    rfl

/-- The decimal of an exact number is written as the number. -/
theorem text_toDecimal (exact : number.kind.IsExact) (made : number.toDecimal? = some decimal) :
    decimal.text = number.text := by
  rcases exact_cases exact with ⟨kind, value, fits, rfl⟩ | ⟨value, rfl⟩
  · exact Decimal.text_ofInt made
  · rw [← Option.some.inj made]
    rfl

/-- The decimal of an exact number has its sign. -/
theorem negative_toDecimal (exact : number.kind.IsExact)
    (made : number.toDecimal? = some decimal) : decimal.negative = number.hasMinus := by
  rcases exact_cases exact with ⟨kind, value, fits, rfl⟩ | ⟨value, rfl⟩
  · exact (Decimal.fields_ofInt made).1
  · rw [← Option.some.inj made]
    rfl

/-- An integer that its kind holds is what the decimal of it is narrowed to. So an integer survives
    the way by its decimal. -/
theorem ofDecimal_ofInt {kind : IntegerKind} {value : Int} (fits : kind.Holds value)
    (made : Decimal.ofInt? value = some decimal) :
    ofDecimal? decimal (.integer kind) = some (integer kind value fits) := by
  have unsigned : (kind.signed || !decimal.negative) = true := by
    rw [(Decimal.fields_ofInt made).1]
    cases signed : kind.signed with
    | true => rfl
    | false =>
      have positive : 0 ≤ value := by simpa [IntegerKind.lower, signed] using fits.1
      simpa using positive
  rw [ofDecimal?, if_pos unsigned, Decimal.truncated_ofInt made, ofInt?, dif_pos fits]

/-- Coercion of an exact number to an exact kind goes by its decimal, to its own kind as well. The
    program treats a number that is of the target's kind apart, and this makes no difference. -/
theorem coerce_exact {kind : NumberKind} (exact : number.kind.IsExact) (target : kind.IsExact)
    (made : number.toDecimal? = some decimal) : number.coerce? kind = ofDecimal? decimal kind := by
  unfold coerce?
  split
  · rename_i own
    subst own
    rcases exact_cases exact with ⟨kind, value, fits, rfl⟩ | ⟨value, rfl⟩
    · exact (ofDecimal_ofInt fits made).symm
    · rw [← Option.some.inj made]
      rfl
  · rcases kind.exact_cases target with ⟨kind, rfl⟩ | rfl
    · rw [made]
      rfl
    · rw [made]
      rfl

/-- Exact numbers of any kinds compare as rational numbers. -/
theorem compare_exact (leftExact : left.kind.IsExact) (rightExact : right.kind.IsExact) :
    left.compare? right = some (compare left.toRat right.toRat) :=
  compare_of_exact (isBinary_of_exact leftExact) (isBinary_of_exact rightExact)

/-- Exact numbers compare as their decimals do. -/
theorem compare_toDecimal (leftExact : left.kind.IsExact) (rightExact : right.kind.IsExact)
    (leftMade : left.toDecimal? = some leftDecimal)
    (rightMade : right.toDecimal? = some rightDecimal) :
    left.compare? right = some (leftDecimal.compare rightDecimal) := by
  rw [compare_exact leftExact rightExact, Decimal.compare_toRat, toRat_toDecimal leftExact leftMade,
    toRat_toDecimal rightExact rightMade]

/-- An exact number compares with a bare integer as a rational number. -/
theorem compareInt_exact (exact : number.kind.IsExact) (item : Int) :
    number.compareInt? item = some (compare number.toRat item) := by
  rcases exact_cases exact with ⟨kind, value, fits, rfl⟩ | ⟨value, rfl⟩
  · exact congrArg some (compare_intCast value item)
  · rw [compareInt?, compareIntDecimal_toRat]
    exact congrArg some Std.OrientedOrd.eq_swap.symm

end Number

end RecordQuery
