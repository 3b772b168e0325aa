import RecordQuery.Proofs.Expr.Parameters

/-!
# Narrower types

A type accepts itself and, if it is nullable, every type of its base, so acceptance can be chained.
After replacement a type is worked out anew, and an operand that admitted null before may not do so
any more. Where every parameter accepts what takes its place, the type of the whole expression
accepts the type of what it becomes.
-/

namespace RecordQuery

namespace DataType

variable {expected between actual : DataType}

/-- A type accepts itself and, if it is nullable, all types of its base. -/
theorem accepts_iff : expected.accepts actual = true ↔
    expected = actual ∨ expected.isNullable = true ∧ expected.base = actual.base := by
  rw [accepts, Bool.or_eq_true, Bool.and_eq_true, beq_iff_eq, beq_iff_eq]

/-- A type accepts itself. -/
theorem accepts_refl (type : DataType) : type.accepts type = true :=
  accepts_iff.mpr (.inl rfl)

/-- What fits where a type is expected is of the same base type. -/
theorem base_eq_of_accepts (accepted : expected.accepts actual = true) :
    actual.base = expected.base := by
  rcases accepts_iff.mp accepted with rfl | ⟨-, same⟩
  · rfl
  · exact same.symm

/-- What fits where a type is expected admits null only if the type does. -/
theorem isNullable_of_accepts (accepted : expected.accepts actual = true)
    (nullable : actual.isNullable = true) : expected.isNullable = true := by
  rcases accepts_iff.mp accepted with rfl | ⟨admits, -⟩
  · exact nullable
  · exact admits

/-- What fits a type fits wherever the type does. -/
theorem accepts_trans (outer : expected.accepts between = true)
    (inner : between.accepts actual = true) : expected.accepts actual = true := by
  rcases accepts_iff.mp outer with rfl | ⟨admits, same⟩
  · exact inner
  · exact accepts_iff.mpr (.inr ⟨admits, same.trans (base_eq_of_accepts inner).symm⟩)

/-- What fits still fits when both types are made nullable. -/
theorem accepts_toNullable (accepted : expected.accepts actual = true) :
    expected.toNullable.accepts actual.toNullable = true := by
  refine accepts_iff.mpr (.inr ⟨isNullable_toNullable expected, ?_⟩)
  rw [base_toNullable, base_toNullable, base_eq_of_accepts accepted]

end DataType

namespace Expr

variable {substitution : Substitution}

/-- The months of dates that fit are numbers that fit. The flags say whether dates may be null, and
    with them their months. -/
theorem accepts_monthType {expected actual : Bool} (narrower : actual = true → expected = true) :
    (monthType expected).accepts (monthType actual) = true := by
  cases expected with
  | true => exact DataType.accepts_iff.mpr (.inr ⟨rfl, by rw [base_monthType, base_monthType]⟩)
  | false =>
    cases actual with
    | true => cases narrower rfl
    | false => exact DataType.accepts_refl _

/-- An expression accepts what it becomes if every parameter accepts what takes its place. Of all
    operators only lifting and taking the month have a type that depends on their operand's, so
    nothing else is to be shown. -/
theorem accepts_substitute (expr : Expr)
    (fits : ∀ p, parameter p ∈ expr.parts →
      p.type.accepts ((substitution p.id).getD (parameter p)).type = true) :
    expr.type.accepts (expr.substitute substitution).type = true := by
  induction expr with
  | parameter p => exact fits p (self_mem_parts _)
  | lift operand inductionHypothesis =>
    rw [substitute, type, type]
    exact DataType.accepts_toNullable
      (inductionHypothesis fun p occurs => fits p (by simp [parts, occurs]))
  | call method arguments inductionHypothesis =>
    cases method with
    | month =>
      cases arguments with
      | nil => exact DataType.accepts_refl _
      | cons date rest =>
        have first := inductionHypothesis date List.mem_cons_self fun p occurs => fits p
          (List.mem_cons_of_mem _ (parts_subset_partsOfAll List.mem_cons_self occurs))
        rw [substitute, substituteAll, type, type, headNullable, headNullable]
        exact accepts_monthType (DataType.isNullable_of_accepts first)
    | _ => exact DataType.accepts_refl _
  | _ => exact DataType.accepts_refl _

end Expr

end RecordQuery
