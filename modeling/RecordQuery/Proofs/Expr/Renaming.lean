import RecordQuery.Expr.Text
import RecordQuery.Proofs.Expr.Parameters

/-!
# Renamed parameters

Parameters are told apart by their identity, which no one sees. Where others of the same names and
types take their places, an expression keeps its type and its text. Replacing twice is replacing
once by what the second replacement makes of the first, so a parameter that was renamed may be
replaced as if it had not been.
-/

namespace RecordQuery

/-- Whether every parameter of an expression is replaced by one of the same name and type. -/
def Substitution.Renames (substitution : Substitution) (expr : Expr) : Prop :=
  ∀ p, .parameter p ∈ expr.parts → ∃ q : Parameter,
    (substitution p.id).getD (.parameter p) = .parameter q ∧ q.name = p.name ∧ q.type = p.type

namespace Expr

variable {substitution : Substitution} {target operand left right expr : Expr} {m : Member}
  {operator : Operator} {method : Method} {arguments : List Expr}

section Operands

/-- What renames the parameters of a member renames those of its target. -/
theorem renames_of_member (renames : substitution.Renames (.member target m)) :
    substitution.Renames target :=
  fun p occurs => renames p (by simp [parts, occurs])

/-- What renames the parameters of a negation renames those of its operand. -/
theorem renames_of_not (renames : substitution.Renames (.not operand)) :
    substitution.Renames operand :=
  fun p occurs => renames p (by simp [parts, occurs])

/-- What renames the parameters of a lifted expression renames those of its operand. -/
theorem renames_of_lift (renames : substitution.Renames (.lift operand)) :
    substitution.Renames operand :=
  fun p occurs => renames p (by simp [parts, occurs])

/-- What renames the parameters of a binary expression renames those of both sides. -/
theorem renames_of_binary (renames : substitution.Renames (.binary operator left right)) :
    substitution.Renames left ∧ substitution.Renames right :=
  ⟨fun p occurs => renames p (by simp [parts, occurs]),
    fun p occurs => renames p (by simp [parts, occurs])⟩

/-- What renames the parameters of a call renames those of each argument. -/
theorem renames_of_call (renames : substitution.Renames (.call method arguments)) :
    ∀ argument ∈ arguments, substitution.Renames argument :=
  fun _ member p occurs => renames p
    (List.mem_cons_of_mem _ (parts_subset_partsOfAll member occurs))

end Operands

/-- A renamed expression is of the same type. The new parameters are of the types of the old ones,
    and all other types follow from these. -/
theorem type_renamed (renames : substitution.Renames expr) :
    (expr.substitute substitution).type = expr.type := by
  induction expr with
  | parameter p =>
    obtain ⟨q, replaced, -, typed⟩ := renames p (self_mem_parts _)
    rw [substitute, replaced, type, type, typed]
  | lift operand inductionHypothesis =>
    rw [substitute, type, type, inductionHypothesis (renames_of_lift renames)]
  | call method arguments inductionHypothesis =>
    cases method with
    | month =>
      cases arguments with
      | nil => rfl
      | cons argument rest =>
        have first := inductionHypothesis argument List.mem_cons_self
          (renames_of_call renames argument List.mem_cons_self)
        rw [substitute, substituteAll, type, type, headNullable, headNullable, first]
    | _ => rfl
  | _ => rfl

/-- A renamed expression is a constant if it was one. A parameter only becomes another one. -/
theorem isConstant_renamed (renames : substitution.Renames expr) :
    (expr.substitute substitution).isConstant = expr.isConstant := by
  cases expr with
  | parameter p =>
    obtain ⟨q, replaced, -, -⟩ := renames p (self_mem_parts _)
    rw [substitute, replaced]
    rfl
  | _ => rfl

/-- The texts of a list are those of its expressions. -/
theorem textAll_eq_map (arguments : List Expr) : textAll arguments = arguments.map toText := by
  induction arguments with
  | nil => rfl
  | cons argument rest inductionHypothesis => rw [textAll, inductionHypothesis, List.map_cons]

/-- A renamed expression has the same text. Texts have the names of parameters, which stay, but not
    their identities. -/
theorem toText_renamed (renames : substitution.Renames expr) :
    (expr.substitute substitution).toText = expr.toText := by
  induction expr with
  | parameter p =>
    obtain ⟨q, replaced, named, -⟩ := renames p (self_mem_parts _)
    rw [substitute, replaced, toText, toText, named]
  | member target m inductionHypothesis =>
    rw [substitute, toText, toText, inductionHypothesis (renames_of_member renames)]
  | constant value type => rfl
  | not operand inductionHypothesis =>
    rw [substitute, toText, toText, inductionHypothesis (renames_of_not renames)]
  | lift operand inductionHypothesis =>
    rw [substitute, toText, toText, inductionHypothesis (renames_of_lift renames)]
  | binary operator left right leftHypothesis rightHypothesis =>
    obtain ⟨leftRenames, rightRenames⟩ := renames_of_binary renames
    rw [substitute, toText, toText, leftHypothesis leftRenames, rightHypothesis rightRenames]
  | call method arguments inductionHypothesis =>
    have each := renames_of_call renames
    have texts : (arguments.map (substitute substitution)).map toText = arguments.map toText := by
      rw [List.map_map]
      exact List.map_congr_left fun argument member =>
        inductionHypothesis argument member (each argument member)
    have first : (arguments.map (substitute substitution)).head?.any isConstant =
        arguments.head?.any isConstant := by
      cases arguments with
      | nil => rfl
      | cons argument rest => exact isConstant_renamed (each argument List.mem_cons_self)
    rw [substitute, toText, toText, substituteAll_eq_map, textAll_eq_map, textAll_eq_map, texts,
      first]

/-- Replacing twice is replacing once, if this makes of each parameter what both make of it. Only
    the parameters that occur count, so the two may differ on others. -/
theorem substitute_substitute {inner outer once : Substitution} (expr : Expr)
    (agree : ∀ p, parameter p ∈ expr.parts →
      ((inner p.id).getD (parameter p)).substitute outer = (once p.id).getD (parameter p)) :
    (expr.substitute inner).substitute outer = expr.substitute once := by
  induction expr with
  | parameter p => exact agree p (self_mem_parts _)
  | member target m inductionHypothesis =>
    have same := inductionHypothesis fun p occurs => agree p (by simp [parts, occurs])
    rw [substitute, substitute, same, substitute]
  | constant value type => rfl
  | not operand inductionHypothesis =>
    have same := inductionHypothesis fun p occurs => agree p (by simp [parts, occurs])
    rw [substitute, substitute, same, substitute]
  | lift operand inductionHypothesis =>
    have same := inductionHypothesis fun p occurs => agree p (by simp [parts, occurs])
    rw [substitute, substitute, same, substitute]
  | binary operator left right leftHypothesis rightHypothesis =>
    have first := leftHypothesis fun p occurs => agree p (by simp [parts, occurs])
    have second := rightHypothesis fun p occurs => agree p (by simp [parts, occurs])
    rw [substitute, substitute, first, second, substitute]
  | call method arguments inductionHypothesis =>
    have same : (arguments.map (substitute inner)).map (substitute outer) =
        arguments.map (substitute once) := by
      rw [List.map_map]
      exact List.map_congr_left fun argument member =>
        inductionHypothesis argument member fun p occurs => agree p
          (List.mem_cons_of_mem _ (parts_subset_partsOfAll member occurs))
    rw [substitute, substitute, substitute, substituteAll_eq_map, substituteAll_eq_map,
      substituteAll_eq_map, same]

end Expr

end RecordQuery
