import RecordQuery.Proofs.Compiled.Meaning
import RecordQuery.Proofs.Literal.Numbers

/-!
# Filters on exact numbers

Values that are integers or decimals are equal when they stand for the same rational number, and are
in the order of these. A membership filter on a property of an exact kind therefore holds of the
values that are one of the listed integers. A number may be given as it is or in text: what the
filter comes to is the same.
-/

namespace RecordQuery

/-- An integer or a decimal. -/
def ExactNumber :=
  {number : Number // number.kind.IsExact}

namespace ExactNumber

/-- An exact number as a value. -/
def toValue (number : ExactNumber) : Value :=
  .number number.val

/-- The rational number that an exact number stands for. -/
def toRat (number : ExactNumber) : ℚ :=
  number.val.toRat

/-- Exact numbers compare as rational numbers. -/
theorem compare_toValue (left right : ExactNumber) :
    left.toValue.compare? right.toValue = some (compare left.toRat right.toRat) :=
  Number.compare_exact left.property right.property

/-- Exact numbers are equal when they stand for the same rational number. -/
theorem equals_toValue (left right : ExactNumber) :
    left.toValue.equals right.toValue = true ↔ left.toRat = right.toRat := by
  have equality : left.toValue.equals right.toValue =
      (left.toValue.compare? right.toValue == some .eq) := rfl
  rw [equality, compare_toValue, beq_iff_eq, Option.some.injEq, compare_eq_iff_eq]

/-- Exact numbers are in the order of their rational numbers. -/
theorem compare_ne_gt (left right : ExactNumber) :
    left.toValue.compare? right.toValue ≠ some .gt ↔ left.toRat ≤ right.toRat := by
  rw [compare_toValue, ne_eq, Option.some.injEq, compare_gt_iff_gt, not_lt]

/-- Equality is an equivalence of exact numbers. -/
theorem equivalence_equals :
    Equivalence fun left right : ExactNumber => left.toValue.equals right.toValue = true where
  refl number := (equals_toValue number number).mpr rfl
  symm same := by
    rw [equals_toValue] at same ⊢
    exact same.symm
  trans forth back := by
    rw [equals_toValue] at forth back ⊢
    exact forth.trans back

/-- An exact number is not after another. -/
def AtMost (left right : ExactNumber) : Prop :=
  left.toValue.compare? right.toValue ≠ some .gt

/-- The order of exact numbers carries on. -/
theorem isPreorder_atMost : IsPreorder ExactNumber AtMost where
  refl number := (compare_ne_gt number number).mpr le_rfl
  trans _ _ _ forth back := by
    rw [AtMost, compare_ne_gt] at forth back ⊢
    exact forth.trans back

/-- Of any two exact numbers one is not after the other. -/
theorem total_atMost : Std.Total AtMost where
  total left right := by
    rw [AtMost, AtMost, compare_ne_gt, compare_ne_gt]
    exact le_total left.toRat right.toRat

end ExactNumber

namespace Compiled

variable {type : RecordType} {id : Nat} {projections : Projections} {projection : Projection}
  {property : Option String} {kind : NumberKind}

/-- A value is an item of a list of integers when it is a number that compares as equal with one of
    them. -/
theorem accepts_ints {items : List Int} {value : Value} :
    Comparison.isIn.Accepts (.ints items) value ↔ ∃ number, value = .number number ∧
      ∃ item ∈ items, number.compareInt? item = some .eq := by
  cases value <;> simp [Comparison.Accepts, Value.IsItem]

/-- Of the values of an exact kind those are items that are an integer of the list as rational
    numbers. Binary numbers are left out, since an integer is rounded before it is compared with
    one. -/
theorem accepts_ints_of_exact {items : List Int} {value : Value} (exact : kind.IsExact)
    (typed : value.type? = some (.number kind) ∨ value = .null) :
    Comparison.isIn.Accepts (.ints items) value ↔ ∃ number, value = .number number ∧
      ∃ item ∈ items, number.toRat = item := by
  rw [accepts_ints]
  refine exists_congr fun number => and_congr_right fun same => ?_
  subst same
  have own : number.kind = kind := by simpa [Value.type?] using typed
  have equal (item : Int) : number.compareInt? item = some .eq ↔ number.toRat = item := by
    rw [Number.compareInt_exact (own ▸ exact), Option.some.injEq, compare_eq_iff_eq]
  simp only [equal]

/-- A membership filter with integers on a property of an exact kind is compiled, and holds of the
    values that are one of the integers as rational numbers. No scale is asked for: a decimal with
    zeros behind its point is one of the integers if it equals it. -/
theorem membership_iff_listed
    (resolved : (Projections.ofType type id).resolve? property = some projection)
    (isNumber : projection.type.base = .number kind) (exact : kind.IsExact) (items : List Int) :
    ∃ predicate, ofParts (.ofType type id) property .isIn (.ints items) = .ok (ready predicate) ∧
      ∀ record value, projection.Reads record value →
        ∃ holds, predicate.evaluate record = .ok holds ∧
          (holds = true ↔
            ∃ number, value = .number number ∧ ∃ item ∈ items, number.toRat = item) := by
  have compiled : ofParts (.ofType type id) property .isIn (.ints items) =
      .ok (ready ⟨projection.parameter,
        .call .inSet [.ofValue (.ints items), projection.body]⟩) := by
    rw [ofParts, resolved]
    exact ofProjection_list (by rw [isNumber]; rfl) (.inl ⟨items, rfl⟩) (by simp [isNumber])
  refine ⟨_, compiled, fun record value reads => ?_⟩
  obtain ⟨located, constant, found, read, decides⟩ := decides_of_ready compiled
  obtain rfl : projection = located := Option.some.inj (resolved.symm.trans found)
  obtain rfl : constant = .ints items := by
    simpa [isNumber, Literal.constantFor?, eq_comm] using read
  obtain ⟨holds, evaluated, same⟩ := decides record value reads
  have typed : value.type? = some (.number kind) ∨ value = .null := isNumber ▸ reads.2
  exact ⟨holds, evaluated, same.trans (accepts_ints_of_exact exact typed)⟩

/-- Exact numbers compare as the rational numbers that they stand for, whatever their kinds, and as
    the decimals of the same value that they are converted to. Equality is therefore an equivalence
    of them, their order is a total preorder, and a membership filter with integers on a property of
    an exact kind holds of the values that are one of the integers.

    Proof: each exact number has a decimal of its value, and all comparisons are brought to that of
    rational numbers, which is an order. A membership filter compares the value with one integer
    after the other, and so by value too. -/
theorem exact_numbers_compare_by_value :
    (∀ left right : ExactNumber,
      left.val.compare? right.val = some (compare left.toRat right.toRat) ∧
      ∃ first second, left.val.toDecimal? = some first ∧ right.val.toDecimal? = some second ∧
        first.toRat = left.toRat ∧ second.toRat = right.toRat ∧
        left.val.compare? right.val = some (first.compare second)) ∧
    (Equivalence fun left right : ExactNumber => left.toValue.equals right.toValue = true) ∧
    (IsPreorder ExactNumber ExactNumber.AtMost ∧ Std.Total ExactNumber.AtMost) ∧
    ∀ (type : RecordType) (id : Nat) (property : Option String) (projection : Projection)
      (kind : NumberKind) (items : List Int),
      (Projections.ofType type id).resolve? property = some projection →
      projection.type.base = .number kind → kind.IsExact →
      ∃ predicate, ofParts (.ofType type id) property .isIn (.ints items) = .ok (ready predicate) ∧
        ∀ record value, projection.Reads record value →
          ∃ holds, predicate.evaluate record = .ok holds ∧
            (holds = true ↔ ∃ number, value = .number number ∧
              ∃ item ∈ items, number.toRat = item) := by
  refine ⟨fun left right => ⟨left.compare_toValue right, ?_⟩, ExactNumber.equivalence_equals,
    ⟨ExactNumber.isPreorder_atMost, ExactNumber.total_atMost⟩,
    fun type id property projection kind items resolved isNumber exact =>
      membership_iff_listed resolved isNumber exact items⟩
  obtain ⟨first, firstMade⟩ := Number.exists_toDecimal left.property
  obtain ⟨second, secondMade⟩ := Number.exists_toDecimal right.property
  exact ⟨first, second, firstMade, secondMade, Number.toRat_toDecimal left.property firstMade,
    Number.toRat_toDecimal right.property secondMade,
    Number.compare_toDecimal left.property right.property firstMade secondMade⟩

/-- Records with a price that may be missing. -/
def priced : RecordType :=
  ⟨"Priced", .ok [⟨"price", .nullable (.number .decimal)⟩], none⟩

/-- The greatest integer of 64 bits equals itself with a place behind the point, and a price is one
    of the listed integers whatever its scale. In both cases the sides are of other kinds or
    scales. -/
theorem exact_numbers_of_other_scales :
    let projection : Projection :=
      .ofMember (Projections.sharedParameter priced 0)
        ⟨"Priced", "price", .nullable (.number .decimal), .position 0⟩
    let greatest : ExactNumber := ⟨.integer .u64 18446744073709551615 (by decide), trivial⟩
    let placed : ExactNumber :=
      ⟨.decimal ⟨false, 184467440737095516150, 1, by decide, by decide⟩, trivial⟩
    let price (mantissa : Nat) (fits : mantissa < twoTo 96) : Record :=
      ⟨"Priced", [.number (.decimal ⟨false, mantissa, 2, fits, by decide⟩)], none⟩
    greatest.val.compare? placed.val = some .eq ∧
      (Projections.ofType priced 0).resolve? (some "price") = some projection ∧
      projection.type.base = .number .decimal ∧ NumberKind.decimal.IsExact ∧
      ∃ predicate, ofParts (.ofType priced 0) (some "price") .isIn (.ints [7, 3]) =
          .ok (ready predicate) ∧
        predicate.evaluate (price 300 (by decide)) = .ok true ∧
        predicate.evaluate (price 350 (by decide)) = .ok false ∧
        predicate.evaluate ⟨"Priced", [.null], none⟩ = .ok false := by
  intro projection greatest placed price
  obtain ⟨compares, -, -, members⟩ := exact_numbers_compare_by_value
  have resolved : (Projections.ofType priced 0).resolve? (some "price") = some projection := rfl
  obtain ⟨predicate, compiled, decides⟩ :=
    members priced 0 (some "price") projection .decimal [7, 3] resolved rfl trivial
  have outcome (value : Value) (typed : value.type? = some (.number .decimal) ∨ value = .null)
      (holds : Bool) (listed : holds = true ↔ ∃ number, value = .number number ∧
        ∃ item ∈ [(7 : Int), 3], number.toRat = item) :
      predicate.evaluate ⟨"Priced", [value], none⟩ = .ok holds := by
    obtain ⟨found, evaluated, same⟩ := decides ⟨"Priced", [value], none⟩ value ⟨rfl, typed⟩
    rw [evaluated, Bool.eq_iff_iff.mpr (same.trans listed.symm)]
  have same : greatest.toRat = placed.toRat := by
    show ((18446744073709551615 : Int) : ℚ) = ((184467440737095516150 : Int) : ℚ) / (tenTo 1 : ℕ)
    norm_num [tenTo]
  have priceValue (mantissa : Nat) (fits : mantissa < twoTo 96) :
      Number.toRat (.decimal ⟨false, mantissa, 2, fits, by decide⟩) = mantissa / 100 := by
    show ((mantissa : Int) : ℚ) / (tenTo 2 : ℕ) = mantissa / 100
    norm_num [tenTo]
  refine ⟨?_, resolved, rfl, trivial, predicate, compiled, ?_, ?_, ?_⟩
  · rw [(compares greatest placed).1, same, compare_eq_iff_eq.mpr rfl]
  · refine outcome _ (.inl rfl) true ⟨fun _ => ⟨_, rfl, 3, by simp, ?_⟩, fun _ => rfl⟩
    rw [priceValue]
    norm_num
  · refine outcome _ (.inl rfl) false ⟨fun holds => absurd holds Bool.false_ne_true, ?_⟩
    rintro ⟨number, ⟨⟩, item, member, equal⟩
    rw [priceValue] at equal
    rcases List.mem_pair.mp member with rfl | rfl <;> norm_num at equal
  · exact outcome .null (.inr rfl) false (by simp)

/-- Literals that stand for the same constant, or for the same error, are compiled alike. The second
    hypothesis is needed since a mismatch names the form of the literal. -/
theorem ofProjection_congr {literal other : Literal}
    (same : literal.constantFor? projection.type.base = other.constantFor? projection.type.base)
    (compared : literal.constantFor? projection.type.base ≠ .ok none) (comparison : Comparison) :
    ofProjection projection comparison literal = ofProjection projection comparison other := by
  unfold ofProjection
  rw [← same]
  cases outcome : literal.constantFor? projection.type.base with
  | error cause => rfl
  | ok constant =>
    cases constant with
    | none => exact absurd outcome compared
    | some value => rfl

/-- A literal and its text are compiled alike beside a property of an exact kind. Negative zero is
    left out, since the decimal that is read from a text loses the sign of a zero. -/
theorem ofProjection_text {number : Number} (exact : number.kind.IsExact)
    (signed : number.hasMinus = true → number.toRat ≠ 0)
    (isNumber : projection.type.base = .number kind) (target : kind.IsExact)
    (comparison : Comparison) :
    ofProjection projection comparison (.text number.text) =
      ofProjection projection comparison (.number number) := by
  have read := Literal.readNumber_text exact target signed
  refine ofProjection_congr ?_ ?_ comparison
  · rw [isNumber, Literal.constantFor?, Literal.constantFor?, read]
  · rw [isNumber, Literal.constantFor?, ne_eq, change_eq_ok]
    rintro ⟨_, _, ⟨⟩⟩

/-- An exact number that is no negative zero is read from its text as any exact kind as it is
    coerced to this kind: to the same number, or to the same error. A filter on a property of an
    exact kind is therefore compiled to the same predicate, the same reason for being dropped or the
    same error, whether the number is given as it is or in text.

    Proof: reading the text of an exact number gives its decimal, unless that is a zero with a sign,
    and coercion of the number goes by the same decimal. The rest of compiling sees the constant
    only. -/
theorem typed_and_written_agree {number : Number} (exact : number.kind.IsExact)
    (signed : number.hasMinus = true → number.toRat ≠ 0) :
    (∀ kind : NumberKind, kind.IsExact →
      Literal.readNumber number.text kind = Literal.coerceNumber number kind) ∧
    ∀ (projections : Projections) (property : Option String) (projection : Projection)
      (kind : NumberKind) (comparison : Comparison),
      projections.resolve? property = some projection → projection.type.base = .number kind →
      kind.IsExact →
      ofParts projections property comparison (.text number.text) =
        ofParts projections property comparison (.number number) := by
  refine ⟨fun kind target => Literal.readNumber_text exact target signed, ?_⟩
  intro projections property projection kind comparison resolved isNumber target
  rw [ofParts, ofParts, resolved]
  exact ofProjection_text exact signed isNumber target comparison

/-- The text of a number out of the range of 8 bits is refused as one of 8 bits, and beside a price
    it comes to the same condition as the number. The same text is thus an error for one property
    and a constant for another. -/
theorem typed_and_written_out_of_range :
    let number : Number := .decimal ⟨true, 12900, 2, by decide, by decide⟩
    number.kind.IsExact ∧ (number.hasMinus = true → number.toRat ≠ 0) ∧
      Literal.readNumber number.text (.integer .i8) =
        .error ⟨"-129.00", .number (.integer .i8)⟩ ∧
      ofParts (.ofType priced 0) (some "price") .lessThan (.text number.text) =
        ofParts (.ofType priced 0) (some "price") .lessThan (.number number) := by
  intro number
  have signed : number.hasMinus = true → number.toRat ≠ 0 := by
    intro _ zero
    exact absurd ((Decimal.toRat_eq_zero _).mp zero) (by decide)
  obtain ⟨reads, compiles⟩ := @typed_and_written_agree number trivial signed
  refine ⟨trivial, signed, ?_, compiles _ _ _ _ _ rfl rfl trivial⟩
  rw [reads (.integer .i8) trivial]
  decide +kernel

end Compiled

end RecordQuery
