import RecordQuery.Proofs.Expr.Renaming
import RecordQuery.Proofs.Sql.Translation

/-!
# Translation of renamed expressions

A condition names columns and no parameters. An expression with renamed parameters therefore comes
to the same condition, or to an error of the same wording.
-/

namespace RecordQuery

namespace Expr

variable {substitution : Substitution} {expr left right : Expr}

/-- A property of arguments that renaming keeps holds of one of them after it if before. Whether a
    call may be unknown depends on its arguments in this way. -/
theorem any_renamed {property : Expr → Bool} {arguments : List Expr}
    (kept : ∀ argument ∈ arguments,
      property (argument.substitute substitution) = property argument) :
    (arguments.map (substitute substitution)).any property = arguments.any property := by
  induction arguments with
  | nil => rfl
  | cons argument rest inductionHypothesis =>
    obtain ⟨first, others⟩ := List.forall_mem_cons.mp kept
    rw [List.map_cons, List.any_cons, List.any_cons, first, inductionHypothesis others]

/-- A renamed expression is a nullable column if it was one. Members keep their names and types. -/
theorem isNullableColumn_renamed (renames : substitution.Renames expr) :
    (expr.substitute substitution).isNullableColumn = expr.isNullableColumn := by
  induction expr with
  | parameter p =>
    obtain ⟨q, replaced, -, -⟩ := renames p (self_mem_parts _)
    rw [substitute, replaced]
    rfl
  | lift operand inductionHypothesis =>
    rw [substitute, isNullableColumn, isNullableColumn,
      inductionHypothesis (renames_of_lift renames)]
  | call method arguments inductionHypothesis =>
    cases method with
    | month =>
      rw [substitute, isNullableColumn, isNullableColumn, anyNullableColumn_eq,
        anyNullableColumn_eq, substituteAll_eq_map]
      exact any_renamed fun argument member =>
        inductionHypothesis argument member (renames_of_call renames argument member)
    | _ => rfl
  | _ => rfl

/-- A renamed expression may be unknown if it might before. Parameters keep their types, and nothing
    else of them counts. -/
theorem mayBeUnknown_renamed (renames : substitution.Renames expr) :
    (expr.substitute substitution).mayBeUnknown = expr.mayBeUnknown := by
  induction expr with
  | parameter p =>
    obtain ⟨q, replaced, -, typed⟩ := renames p (self_mem_parts _)
    rw [substitute, replaced, mayBeUnknown, mayBeUnknown, typed]
  | member target m => rfl
  | constant value type => rfl
  | not operand inductionHypothesis =>
    rw [substitute, mayBeUnknown, mayBeUnknown, inductionHypothesis (renames_of_not renames)]
  | lift operand inductionHypothesis =>
    rw [substitute, mayBeUnknown, mayBeUnknown, inductionHypothesis (renames_of_lift renames)]
  | binary operator left right leftHypothesis rightHypothesis =>
    obtain ⟨leftRenames, rightRenames⟩ := renames_of_binary renames
    rw [substitute, mayBeUnknown, mayBeUnknown, leftHypothesis leftRenames,
      rightHypothesis rightRenames]
  | call method arguments inductionHypothesis =>
    rw [substitute, mayBeUnknown, mayBeUnknown, anyMayBeUnknown_eq, anyMayBeUnknown_eq,
      substituteAll_eq_map]
    exact any_renamed fun argument member =>
      inductionHypothesis argument member (renames_of_call renames argument member)

/-- A renamed expression is the constant null if it was. A parameter is no constant before or
    after. -/
theorem isNullConstant_renamed (renames : substitution.Renames expr) :
    (expr.substitute substitution).isNullConstant = expr.isNullConstant := by
  induction expr with
  | parameter p =>
    obtain ⟨q, replaced, -, -⟩ := renames p (self_mem_parts _)
    rw [substitute, replaced]
    rfl
  | lift operand inductionHypothesis =>
    rw [substitute, isNullConstant, isNullConstant, inductionHypothesis (renames_of_lift renames)]
  | _ => rfl

end Expr

namespace Sql

variable {substitution : Substitution} {expr left right : Expr} {α : Type}

/-- What translation gives: a result, or the wording of an error. -/
def report (translated : Except SqlError α) : Except String α :=
  translated.mapError SqlError.message

/-- Of an error its wording is reported. -/
theorem report_error (error : SqlError) :
    report (.error error : Except SqlError α) = .error error.message := rfl

/-- Steps of translation in a row are reported one by one. -/
theorem report_bind {β : Type} {step : Except SqlError α} {next : α → Except SqlError β} :
    report (step >>= next) = report step >>= fun value => report (next value) :=
  mapError_bind

/-- The errors about an expression quote its text and nothing else of it. So identities of
    parameters never show in an error. -/
theorem message_of_toText {other : Expr} (same : expr.toText = other.toText) :
    (SqlError.openPattern expr).message = (SqlError.openPattern other).message ∧
      (SqlError.openSet expr).message = (SqlError.openSet other).message ∧
      (SqlError.notColumn expr).message = (SqlError.notColumn other).message := by
  refine ⟨?_, ?_, ?_⟩
  · exact congrArg (fun text => "cannot translate expression: " ++
      ("pattern " ++ ticked text ++ " is not a string constant")) same
  · exact congrArg (fun text => "cannot translate expression: " ++
      ("set " ++ ticked text ++ " is not a constant")) same
  · exact congrArg (fun text => "cannot translate expression: " ++
      ("member access " ++ ticked text)) same

/-- An expression that is no constant is no pattern. -/
theorem patternText_of_not_constant (varies : expr.isConstant = false) :
    patternText expr = .error (.openPattern expr) := by
  cases expr with
  | constant value type => cases varies
  | _ => rfl

/-- An expression that is no constant is no set. -/
theorem membersOf_of_not_constant (varies : expr.isConstant = false) :
    membersOf expr = .error (.openSet expr) := by
  cases expr with
  | constant value type => cases varies
  | _ => rfl

/-- A constant has no parameters to rename. -/
theorem substitute_of_constant (constant : expr.isConstant = true) :
    expr.substitute substitution = expr := by
  cases expr with
  | constant value type => rfl
  | _ => cases constant

/-- A renamed pattern has the same text, or is none as before. A pattern is a constant, which
    renaming leaves as it is, and the error about another one quotes its text. -/
theorem patternText_renamed (renames : substitution.Renames expr) :
    report (patternText (expr.substitute substitution)) = report (patternText expr) := by
  cases kind : expr.isConstant with
  | true => rw [substitute_of_constant kind]
  | false =>
    have renamedKind := (Expr.isConstant_renamed renames).trans kind
    rw [patternText_of_not_constant kind, patternText_of_not_constant renamedKind, report_error,
      report_error, (message_of_toText (Expr.toText_renamed renames)).1]

/-- A renamed set has the same members, or is none as before. A set is a constant, which renaming
    leaves as it is, and the error about another one quotes its text. -/
theorem membersOf_renamed (renames : substitution.Renames expr) :
    report (membersOf (expr.substitute substitution)) = report (membersOf expr) := by
  cases kind : expr.isConstant with
  | true => rw [substitute_of_constant kind]
  | false =>
    have renamedKind := (Expr.isConstant_renamed renames).trans kind
    rw [membersOf_of_not_constant kind, membersOf_of_not_constant renamedKind, report_error,
      report_error, (message_of_toText (Expr.toText_renamed renames)).2.1]

/-- Renaming changes nothing about how two sides are joined. It only asks which sides are nullable
    columns. -/
theorem binaryCondition_renamed (operator : Operator) (leftRenames : substitution.Renames left)
    (rightRenames : substitution.Renames right) :
    binaryCondition operator (left.substitute substitution) (right.substitute substitution) =
      binaryCondition operator left right := by
  funext leftSql rightSql
  unfold binaryCondition
  rw [Expr.isNullableColumn_renamed leftRenames, Expr.isNullableColumn_renamed rightRenames]

/-- A renamed column is the same column, or is none as before. Its target has to be a parameter,
    which it is before exactly if it is after. -/
theorem ofExpr_member_renamed {target : Expr} {m : Member}
    (renames : substitution.Renames (.member target m)) :
    report (ofExpr ((Expr.member target m).substitute substitution)) =
      report (ofExpr (.member target m)) := by
  have message := (message_of_toText (Expr.toText_renamed renames)).2.2
  cases target with
  | parameter p =>
    obtain ⟨q, replaced, -, -⟩ := Expr.renames_of_member renames p (Expr.self_mem_parts _)
    rw [Expr.substitute, Expr.substitute, replaced] at message ⊢
    rw [ofExpr, ofExpr]
    cases m.isSelf with
    | true => exact congrArg Except.error message
    | false => rfl
  | _ => exact congrArg Except.error message

section Arguments

variable {arguments : List Expr} (each : ∀ argument ∈ arguments, substitution.Renames argument ∧
  report (ofExpr (argument.substitute substitution)) = report (ofExpr argument))

include each

/-- The month of a renamed date is the same month. With another number of arguments both are the
    same error. -/
theorem ofMonth_renamed :
    report (ofMonth (arguments.map (Expr.substitute substitution))) =
      report (ofMonth arguments) := by
  rcases arguments with _ | ⟨subject, _ | ⟨second, rest⟩⟩
  · rfl
  · have same := (each subject List.mem_cons_self).2
    rw [List.map_cons, List.map_nil, ofMonth, ofMonth, report_bind, report_bind, same]
  · simp [ofMonth]

/-- Membership in a renamed set is membership in the same set. With another number of arguments both
    are the same error. -/
theorem ofInSet_renamed :
    report (ofInSet (arguments.map (Expr.substitute substitution))) =
      report (ofInSet arguments) := by
  rcases arguments with _ | ⟨set, _ | ⟨item, _ | ⟨third, rest⟩⟩⟩
  · rfl
  · rfl
  · have sets := membersOf_renamed (each set List.mem_cons_self).1
    have items := (each item (List.mem_cons_of_mem _ List.mem_cons_self)).2
    simp only [List.map_cons, List.map_nil, ofInSet, report_bind, sets]
    refine congrArg _ (funext fun members => ?_)
    split
    · rfl
    · rw [report_bind, report_bind, items]
  · simp [ofInSet]

/-- A text test of a renamed subject is the same test. With another number of arguments both are the
    same error. -/
theorem ofTextTest_renamed (method : Method) :
    report (ofTextTest method (arguments.map (Expr.substitute substitution))) =
      report (ofTextTest method arguments) := by
  rcases arguments with _ | ⟨subject, _ | ⟨constant, _ | ⟨third, rest⟩⟩⟩
  · rfl
  · rfl
  · have subjects := (each subject List.mem_cons_self).2
    have patterns :=
      patternText_renamed (each constant (List.mem_cons_of_mem _ List.mem_cons_self)).1
    simp only [List.map_cons, List.map_nil, ofTextTest, report_bind, patterns, subjects]
  · simp [ofTextTest]

end Arguments

/-- A renamed expression has the same form, or an error of the same wording.

    Proof: induction on the expression, through the reports of errors, since the errors themselves
    hold the renamed expressions. -/
theorem ofExpr_renamed (renames : substitution.Renames expr) :
    report (ofExpr (expr.substitute substitution)) = report (ofExpr expr) := by
  induction expr with
  | parameter p =>
    obtain ⟨q, replaced, named, -⟩ := renames p (Expr.self_mem_parts _)
    rw [Expr.substitute, replaced, ofExpr, ofExpr]
    exact congrArg (fun name => Except.error (SqlError.bareParameter name).message) named
  | member target m => exact ofExpr_member_renamed renames
  | constant value type => rfl
  | not operand inductionHypothesis =>
    have operandRenames := Expr.renames_of_not renames
    rw [Expr.substitute, ofExpr, ofExpr, report_bind, report_bind,
      inductionHypothesis operandRenames, Expr.mayBeUnknown_renamed operandRenames]
  | lift operand inductionHypothesis => exact inductionHypothesis (Expr.renames_of_lift renames)
  | binary operator left right leftHypothesis rightHypothesis =>
    obtain ⟨leftRenames, rightRenames⟩ := Expr.renames_of_binary renames
    have leftSame := leftHypothesis leftRenames
    have rightSame := rightHypothesis rightRenames
    have joined : report (do
        let leftSql ← ofExpr (left.substitute substitution)
        return binaryCondition operator (left.substitute substitution)
          (right.substitute substitution) leftSql (← ofExpr (right.substitute substitution))) =
        report (do
          let leftSql ← ofExpr left
          return binaryCondition operator left right leftSql (← ofExpr right)) := by
      simp only [report_bind, leftSame, rightSame,
        binaryCondition_renamed operator leftRenames rightRenames]
    rw [Expr.substitute, ofExpr, ofExpr, Expr.isNullConstant_renamed leftRenames,
      Expr.isNullConstant_renamed rightRenames]
    cases nullTest? operator with
    | none => exact joined
    | some test =>
      simp only
      split
      · rw [report_bind, report_bind, leftSame]
      · split
        · rw [report_bind, report_bind, rightSame]
        · exact joined
  | call method arguments inductionHypothesis =>
    have renamesEach := Expr.renames_of_call renames
    have each : ∀ argument ∈ arguments, substitution.Renames argument ∧
        report (ofExpr (argument.substitute substitution)) = report (ofExpr argument) := by
      intro argument member
      have renamesArgument := renamesEach argument member
      exact ⟨renamesArgument, inductionHypothesis argument member renamesArgument⟩
    rw [Expr.substitute, Expr.substituteAll_eq_map]
    cases method with
    | month => exact ofMonth_renamed each
    | inSet => exact ofInSet_renamed each
    | contains | startsWith | endsWith => exact ofTextTest_renamed each _

end Sql

end RecordQuery
