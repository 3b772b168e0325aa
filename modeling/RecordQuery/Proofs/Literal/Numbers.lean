import RecordQuery.Literal.Read
import RecordQuery.Proofs.Number.Narrowing

/-!
# Numbers in literals

A number of an exact kind and its text come to the same decimal, and from there to the same number
of another exact kind or to the same error; only a zero has no sign in text. An integer kind takes
of them what it holds once all behind the point is dropped, and an unsigned one nothing that has a
minus sign.
-/

namespace RecordQuery.Literal

variable {number : Number} {kind : NumberKind} {literal : String} {decimal : Decimal}

/-- What can be read is the value that there is. -/
theorem orUnreadable_eq_ok {α : Type} {target : LiteralTarget} {outcome : Option α} {value : α} :
    orUnreadable literal target outcome = .ok value ↔ outcome = some value := by
  cases outcome <;> simp [orUnreadable]

/-- A decimal is read from its own text, without the sign of a zero. -/
theorem readDecimal_text (decimal : Decimal) :
    readDecimal decimal.text = .ok decimal.unsignedZero := by
  rw [readDecimal, Decimal.trimChars_text, Decimal.read_text]
  rfl

/-- A text is read as an exact kind in two steps: as a decimal, which is then narrowed. The error of
    the second step quotes the text as it was given. -/
theorem readNumber_eq_bind (target : kind.IsExact) (literal : String) :
    readNumber literal kind = (do
      let value ← readDecimal literal
      orUnreadable literal (.number kind) (Number.ofDecimal? value kind)) := by
  rcases kind.exact_cases target with ⟨integerKind, rfl⟩ | rfl
  · rfl
  · rfl

/-- A text that is a decimal is read as an exact kind by way of this decimal. -/
theorem readNumber_exact (target : kind.IsExact) (read : readDecimal literal = .ok decimal) :
    readNumber literal kind =
      orUnreadable literal (.number kind) (Number.ofDecimal? decimal kind) := by
  rw [readNumber_eq_bind target, read]
  rfl

/-- An exact number is coerced to an exact kind by way of its decimal. -/
theorem coerceNumber_exact (exact : number.kind.IsExact) (target : kind.IsExact)
    (made : number.toDecimal? = some decimal) :
    coerceNumber number kind =
      orUnreadable number.text (.number kind) (Number.ofDecimal? decimal kind) := by
  rw [coerceNumber, Number.coerce_exact exact target made]

/-- The text of an exact number is read as the number is coerced, except for a zero with a sign.
    That one loses its sign when the text is read, while coercion keeps it. -/
theorem readNumber_text (exact : number.kind.IsExact) (target : kind.IsExact)
    (signed : number.hasMinus = true → number.toRat ≠ 0) :
    readNumber number.text kind = coerceNumber number kind := by
  obtain ⟨decimal, made⟩ := Number.exists_toDecimal exact
  have kept : decimal.unsignedZero = decimal := by
    refine Decimal.unsignedZero_eq_self fun negative => ?_
    rw [Number.negative_toDecimal exact made] at negative
    rw [ne_eq, ← decimal.toRat_eq_zero, Number.toRat_toDecimal exact made]
    exact signed negative
  have read : readDecimal number.text = .ok decimal := by
    rw [← Number.text_toDecimal exact made, readDecimal_text, kept]
  rw [readNumber_exact target read, coerceNumber_exact exact target made]

/-- An exact number, or a text with a decimal, is taken by an integer kind exactly if the kind holds
    what is left of it when it is cut off towards zero, and is then this integer; but an unsigned
    kind takes it only without a minus sign. A decimal in its own text has one exactly if it is
    below zero.

    Proof: numbers and texts both become decimals, and an integer kind takes a decimal exactly if it
    is signed or the decimal has no minus, and if it holds what is left after cutting off. The
    decimal that is read from a decimal's own text has lost the sign of a zero only, so its minus
    says that it is below zero. -/
theorem narrowed_iff_holds (kind : IntegerKind) :
    (∀ number result : Number, number.kind.IsExact →
      (coerceNumber number (.integer kind) = .ok result ↔
        (kind.signed = true ∨ number.hasMinus = false) ∧
          ∃ fits, result = .integer kind (towardZero number.toRat) fits)) ∧
    (∀ (literal : String) (decimal : Decimal) (result : Number),
      readDecimal literal = .ok decimal →
      (readNumber literal (.integer kind) = .ok result ↔
        (kind.signed = true ∨ decimal.negative = false) ∧
          ∃ fits, result = .integer kind (towardZero decimal.toRat) fits)) ∧
    ∀ (decimal : Decimal) (result : Number),
      readNumber decimal.text (.integer kind) = .ok result ↔
        (kind.signed = true ∨ 0 ≤ decimal.toRat) ∧
          ∃ fits, result = .integer kind (towardZero decimal.toRat) fits := by
  have target : (NumberKind.integer kind).IsExact := NumberKind.isExact_integer kind
  have written (literal : String) (decimal : Decimal) (result : Number)
      (read : readDecimal literal = .ok decimal) :
      readNumber literal (.integer kind) = .ok result ↔
        (kind.signed = true ∨ decimal.negative = false) ∧
          ∃ fits, result = .integer kind (towardZero decimal.toRat) fits := by
    rw [readNumber_exact target read, orUnreadable_eq_ok, Number.ofDecimal_integer_eq_some]
  refine ⟨fun number result exact => ?_, written, fun decimal result => ?_⟩
  · obtain ⟨decimal, made⟩ := Number.exists_toDecimal exact
    rw [coerceNumber_exact exact target made, orUnreadable_eq_ok,
      Number.ofDecimal_integer_eq_some, Number.negative_toDecimal exact made,
      Number.toRat_toDecimal exact made]
  · have unsigned : decimal.unsignedZero.negative = false ↔ 0 ≤ decimal.toRat := by
      rw [← not_lt, ← decimal.negative_unsignedZero, Bool.not_eq_true]
    rw [written _ _ _ (readDecimal_text decimal), unsigned, decimal.toRat_unsignedZero]

/-- Fractions beyond the last integer of a kind are dropped, whether they stand in a number or in a
    text, and a signed kind is left with zero of a fraction below it. Blanks and exponents make no
    difference to what is read. -/
theorem narrowed_at_bounds :
    let above : Number := .decimal ⟨false, 25599, 2, by decide, by decide⟩
    let half : Decimal := ⟨true, 5, 1, by decide, by decide⟩
    above.kind.IsExact ∧
      coerceNumber above (.integer .u8) = .ok (.integer .u8 255 (by decide)) ∧
      readDecimal " -1.2899e2 " = .ok ⟨true, 12899, 2, by decide, by decide⟩ ∧
      readNumber " -1.2899e2 " (.integer .i8) = .ok (.integer .i8 (-128) (by decide)) ∧
      readNumber half.text (.integer .i8) = .ok (.integer .i8 0 (by decide)) := by
  intro above half
  obtain ⟨coerced, -, -⟩ := narrowed_iff_holds .u8
  obtain ⟨-, taken, written⟩ := narrowed_iff_holds .i8
  have below : readDecimal " -1.2899e2 " = .ok ⟨true, 12899, 2, by decide, by decide⟩ := by
    decide +kernel
  -- What a rational number is cut off to is found by cutting off the decimal that stands for it.
  have left (decimal : Decimal) {integer : Int} (truncated : decimal.truncated = integer)
      {kind : IntegerKind} (fits : kind.Holds integer) :
      ∃ known, Number.integer kind integer fits =
        .integer kind (towardZero decimal.toRat) known := by
    rw [Decimal.truncated_eq] at truncated
    subst truncated
    exact ⟨fits, rfl⟩
  refine ⟨trivial, (coerced above _ trivial).mpr ⟨.inr rfl, ?_⟩, below,
    (taken _ _ _ below).mpr ⟨.inl rfl, ?_⟩, (written half _).mpr ⟨.inl rfl, ?_⟩⟩
  · exact left ⟨false, 25599, 2, by decide, by decide⟩ (by decide) _
  · exact left ⟨true, 12899, 2, by decide, by decide⟩ (by decide) _
  · exact left half (by decide) _

/-- What is left of a decimal between minus one and zero is zero, which an unsigned kind holds, and
    the kind refuses the decimal and its text. The sign is looked at before it is known that nothing
    else is left. -/
theorem negative_half_refused :
    let half : Decimal := ⟨true, 5, 1, by decide, by decide⟩
    towardZero (Number.toRat (.decimal half)) = 0 ∧ IntegerKind.u8.Holds 0 ∧
      coerceNumber (.decimal half) (.integer .u8) = .error ⟨"-0.5", .number (.integer .u8)⟩ ∧
      half.text = "-0.5" ∧
      readNumber half.text (.integer .u8) = .error ⟨"-0.5", .number (.integer .u8)⟩ := by
  intro half
  refine ⟨?_, by decide, by decide +kernel, by decide +kernel, by decide +kernel⟩
  exact half.truncated_eq.symm.trans (by decide)

end RecordQuery.Literal
