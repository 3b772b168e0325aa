import RecordQuery.Proofs.Compiled.Body
import RecordQuery.Proofs.Predicate.Connectives
import RecordQuery.Proofs.Projection.History
import RecordQuery.Proofs.Sql.Renaming

/-!
# Predicates of different catalogs

Two catalogs give the projections of a record type different parameters, so the predicates of a
filter differ in the identity of their parameter, at every place where they read it. No one can tell
them apart by this: their texts, conditions and truths are the same, and what is joined to another
predicate is read from the parameter of that one anyway.
-/

namespace RecordQuery

/-- The projection over another parameter. -/
def Projection.rebound (projection : Projection) (q : Parameter) : Projection :=
  ⟨q, projection.body.substitute (.single projection.parameter.id (.parameter q))⟩

namespace Predicate

/-- The predicate over another parameter. -/
def rebound (predicate : Predicate) (q : Parameter) : Predicate :=
  ⟨q, predicate.body.substitute (.single predicate.parameter.id (.parameter q))⟩

/-- The text of the condition that a predicate comes to, or of the error. -/
def sqlText (quote : Char) (predicate : Predicate) : Except String String :=
  Sql.report do return (← predicate.toLambda.toCondition).toText quote

/-- Whether two predicates show no difference: they have the same text, come to the same condition
    and hold of the same records. -/
structure Indistinguishable (first second : Predicate) : Prop where
  text : first.toText = second.toText
  condition : ∀ quote, first.sqlText quote = second.sqlText quote
  truth : ∀ record, first.evaluate record = second.evaluate record

variable {predicate : Predicate} {q : Parameter}

/-- Over another parameter of this name and type, the body of a closed predicate is renamed. -/
theorem Closed.renames (closed : predicate.Closed) (named : q.name = predicate.parameter.name)
    (typed : q.type = predicate.parameter.type) :
    (Substitution.single predicate.parameter.id (.parameter q)).Renames predicate.body := by
  intro p occurs
  obtain rfl := closed p occurs
  exact ⟨q, by simp [Substitution.single_apply], named, typed⟩

/-- The condition of a predicate is that of its body. The error of a body that is no condition
    quotes the predicate, parameter included, and is the only place where this shows. -/
theorem sqlText_eq (quote : Char) (predicate : Predicate) : predicate.sqlText quote =
    if predicate.body.isBool then
      Sql.report (Sql.ofExpr predicate.body) >>= fun sql => .ok (sql.toText quote)
    else .error (SqlError.notPredicate predicate.toLambda).message := by
  have condition : predicate.toLambda.toCondition = if predicate.body.isBool then
      Sql.ofExpr predicate.body else .error (.notPredicate predicate.toLambda) := rfl
  rw [sqlText, condition, Sql.report_bind]
  split <;> rfl

/-- A closed predicate cannot be told apart from itself over another parameter of the same name and
    type. The name must be the same because texts and errors show it, and the type because the kind
    of the body depends on it. -/
theorem Closed.indistinguishable_rebound (closed : predicate.Closed)
    (named : q.name = predicate.parameter.name) (typed : q.type = predicate.parameter.type) :
    (predicate.rebound q).Indistinguishable predicate := by
  have renames := closed.renames named typed
  have sameText : (predicate.rebound q).toText = predicate.toText := by
    simp only [toText, Lambda.toText, toLambda, rebound, List.map_cons, List.map_nil, named,
      Expr.toText_renamed renames]
  refine ⟨sameText, fun quote => ?_, fun record => ?_⟩
  · have sameKind : (predicate.rebound q).body.isBool = predicate.body.isBool := by
      rw [Expr.isBool, Expr.isBool, rebound, Expr.type_renamed renames]
    have sameForm : Sql.report (Sql.ofExpr (predicate.rebound q).body) =
        Sql.report (Sql.ofExpr predicate.body) := Sql.ofExpr_renamed renames
    have sameError : (SqlError.notPredicate (predicate.rebound q).toLambda).message =
        (SqlError.notPredicate predicate.toLambda).message :=
      congrArg (fun text =>
        "cannot translate expression: " ++ (ticked text ++ " is not a predicate")) sameText
    rw [sqlText_eq, sqlText_eq, sameKind, sameForm, sameError]
  · rw [evaluate_eq_truthIn]
    exact truthIn_rebound closed q record

/-- Joined to another predicate, a closed predicate comes to the same over any parameter. The
    parameter of the second part is replaced when it is joined, so it is gone in the result. -/
theorem Closed.merge_rebound (closed : predicate.Closed) (q : Parameter) (connective : Operator)
    (first : Predicate) :
    first.merge connective (predicate.rebound q) = first.merge connective predicate := by
  have same : (predicate.rebound q).body.substitute (.single q.id (.parameter first.parameter)) =
      predicate.body.substitute (.single predicate.parameter.id (.parameter first.parameter)) := by
    refine Expr.substitute_substitute predicate.body fun p occurs => ?_
    obtain rfl := closed p occurs
    simp [Substitution.single_apply, Expr.substitute]
  rw [merge, merge, ← same]
  rfl

end Predicate

/-- What a filter comes to, with the predicate over another parameter. -/
def Compiled.rebound (q : Parameter) : Compiled → Compiled
  | ready predicate => ready (predicate.rebound q)
  | dropped reason => dropped reason

/-- A comparison with a replaced subject of unchanged type comes to the replaced condition. In
    particular a comparison that does not apply stays one that does not. -/
theorem Comparison.condition_substitute {substitution : Substitution} {subject : Expr}
    (typed : (subject.substitute substitution).type = subject.type) (comparison : Comparison)
    (constant : Value) :
    comparison.condition? (subject.substitute substitution) constant =
      (comparison.condition? subject constant).map (Expr.substitute substitution) := by
  have constantTyped : ((Expr.ofValue constant).substitute substitution).type =
      (Expr.ofValue constant).type := rfl
  have relates (relation : Relation) :
      Expr.relate relation (subject.substitute substitution) (.ofValue constant) =
        (Expr.relate relation subject (.ofValue constant)).substitute substitution :=
    Expr.relate_substitute typed constantTyped relation
  cases constant with
  | null => rfl
  | text content | bool truth =>
    cases comparison <;> first | exact congrArg some (relates _) | rfl
  | number number | date d =>
    simp only [condition?, orderedCondition?, relates, Option.map_map]
    rfl
  | ints values | texts values =>
    simp only [condition?, setCondition?, typed]
    split
    · split <;> rfl
    · split <;> rfl

/-- The projection to a member reads it from the other parameter. -/
theorem Projection.ofMember_rebound (p q : Parameter) (m : Member) :
    (Projection.ofMember p m).rebound q = .ofMember q m := by
  rw [Projection.rebound, Projection.ofMember, Expr.substitute_read]
  rfl

namespace Projections

variable {type : RecordType}

/-- The record itself is read from the other parameter, as a part of the same type. It is a value of
    its own or the bare parameter, depending on the record type. -/
theorem self_rebound (type : RecordType) (id other : Nat) :
    (ofType type other).self = (ofType type id).self.rebound (sharedParameter type other) ∧
      (ofType type other).self.type = (ofType type id).self.type := by
  simp only [ofType, selfOf]
  cases type.selfType with
  | none => exact ⟨by simp [Projection.rebound, Expr.substitute, Substitution.single_apply], rfl⟩
  | some valueType => exact ⟨(Projection.ofMember_rebound _ _ _).symm, rfl⟩

/-- A property is found under a name and read from the other parameter. -/
theorem get_rebound (type : RecordType) (id other : Nat) (name : String) :
    (ofType type other).get? name =
      ((ofType type id).get? name).map (Projection.rebound · (sharedParameter type other)) := by
  simp only [get?, ofType, lookup_mapIdx, Option.map_bind]
  refine congrArg _ (funext fun index => ?_)
  simp only [Function.comp_apply, Option.map_map, Projection.ofMember_rebound, Function.comp_def]

/-- A name leads to the same part whatever the shared parameter is. A name that leads nowhere does
    so over every parameter. -/
theorem resolve_rebound (type : RecordType) (id other : Nat) (name : Option String) :
    (ofType type other).resolve? name =
      ((ofType type id).resolve? name).map (Projection.rebound · (sharedParameter type other)) := by
  rw [resolve?, resolve?]
  split
  · exact get_rebound type id other _
  · exact congrArg some (self_rebound type id other).1

/-- The part that a name leads to is of the same type over the other parameter. A parameter shared
    by records has their type, whatever its identity is. -/
theorem type_rebound {id : Nat} {name : Option String} {projection : Projection}
    (resolved : (ofType type id).resolve? name = some projection) (other : Nat) :
    (projection.rebound (sharedParameter type other)).type = projection.type := by
  unfold resolve? at resolved
  split at resolved
  · obtain ⟨m, -, -, rfl⟩ := get?_eq_some resolved
    rfl
  · cases resolved
    rw [← (self_rebound type id other).1, (self_rebound type id other).2]

end Projections

namespace Compiled

/-- A comparison of the same part over another parameter comes to the same over that parameter.
    Errors and reasons to drop a filter do not mention the parameter, so they are the same ones. -/
theorem ofProjection_rebound {projection : Projection} {q : Parameter}
    (typed : (projection.rebound q).type = projection.type) (comparison : Comparison)
    (literal : Literal) : ofProjection (projection.rebound q) comparison literal =
      (ofProjection projection comparison literal).map (rebound q) := by
  rw [ofProjection, ofProjection, typed]
  cases literal.constantFor? projection.type.base with
  | error error => rfl
  | ok found =>
    cases found with
    | none => rfl
    | some constant =>
      have conditions := Comparison.condition_substitute typed comparison constant
      simp only [bind, Except.bind]
      rw [Projection.rebound, conditions]
      cases comparison.condition? projection.body constant <;> rfl

/-- A filter comes to the same over the parameter of another identity. This is an equation between
    outcomes, errors and dropped filters included. -/
theorem ofFilter_rebound (type : RecordType) (id other : Nat) (filter : Filter) :
    ofFilter (.ofType type other) filter =
      (ofFilter (.ofType type id) filter).map
        (rebound (Projections.sharedParameter type other)) := by
  rw [ofFilter, ofFilter, ofParts, ofParts, Projections.resolve_rebound type id other]
  cases resolved : (Projections.ofType type id).resolve? filter.property? with
  | none => rfl
  | some projection => exact ofProjection_rebound (Projections.type_rebound resolved other) _ _

/-- Whether a filter comes to the same in two ways: the same error, dropped for the same reason, or
    predicates that cannot be told apart. -/
def Agree : Except LiteralError Compiled → Except LiteralError Compiled → Prop
  | .error error, .error other => error = other
  | .ok (.dropped reason), .ok (.dropped other) => reason = other
  | .ok (.ready predicate), .ok (.ready other) => predicate.Indistinguishable other
  | _, _ => False

/-- The predicate of a filter that is not dropped is closed. -/
theorem closed_of_ready {type : RecordType} {id : Nat} {filter : Filter} {predicate : Predicate}
    (compiled : ofFilter (.ofType type id) filter = .ok (ready predicate)) : predicate.Closed :=
  fun _ occurs => (body_of_ready compiled).2.parameters occurs

/-- A filter comes to the same for all identities of the shared parameter. The predicates themselves
    differ by the identity of their parameter, so they are not equal but only indistinguishable. -/
theorem agree_of_ids (type : RecordType) (id other : Nat) (filter : Filter) :
    Agree (ofFilter (.ofType type id) filter) (ofFilter (.ofType type other) filter) := by
  rw [ofFilter_rebound type other id]
  cases compiled : ofFilter (.ofType type other) filter with
  | error error => exact rfl
  | ok outcome =>
    cases outcome with
    | dropped reason => exact rfl
    | ready predicate =>
      have own := (body_of_ready compiled).1
      apply (closed_of_ready compiled).indistinguishable_rebound
      · rw [own]
        rfl
      · rw [own]
        rfl

/-- Joined to another predicate, those of a filter come to the same for all identities of the shared
    parameter. Here the predicates are equal and not only indistinguishable. -/
theorem merge_of_ids {type : RecordType} {id other : Nat} {filter : Filter}
    {predicate otherPredicate : Predicate}
    (compiled : ofFilter (.ofType type id) filter = .ok (ready predicate))
    (otherCompiled : ofFilter (.ofType type other) filter = .ok (ready otherPredicate))
    (connective : Operator) (first : Predicate) :
    first.merge connective otherPredicate = first.merge connective predicate := by
  rw [ofFilter_rebound type id other, compiled] at otherCompiled
  obtain rfl : predicate.rebound (Projections.sharedParameter type other) = otherPredicate := by
    simpa [Except.map, rebound] using otherCompiled
  exact (closed_of_ready compiled).merge_rebound _ connective first

end Compiled

/-- What a catalog compiles a filter on a record type into, after a history that begins without
    tables. -/
def Schema.compile (schema : Schema) (next : Nat) (events : List Event) (type : String)
    (filter : Filter) : Except LiteralError Compiled :=
  Compiled.ofFilter
    (((Catalog.startingAt next).after schema events).lookup (schema.type type)).1 filter

namespace Schema

variable (schema : Schema) (next : Nat) (events : List Event) (type : String)

/-- A catalog compiles filters for some identity of the shared parameter. -/
theorem compile_eq : ∃ id, ∀ filter, schema.compile next events type filter =
    Compiled.ofFilter (.ofType (schema.type type) id) filter := by
  have sound := (Catalog.sound_startingAt schema next).after events
  obtain ⟨id, found, -⟩ := sound.exists_table type
  exact ⟨id, fun filter => by rw [compile, found]⟩

/-- Predicates do not depend on the catalog that they were compiled with, nor on when. Any two
    catalogs with any histories compile a filter into the same error, drop it for the same reason,
    or give predicates with the same text, the same condition or error of translation, and the same
    outcome on every record. If a predicate of one catalog is joined to one of another, the result
    is the one of the first catalog alone, with whatever history this compiled the second filter.

    Proof: a filter compiled over another parameter is the same one with the parameter renamed. Its
    text, its condition and its truth do not show the identity, and joining replaces the parameter
    of the second part anyway. -/
theorem compile_independent (otherNext : Nat) (otherEvents : List Event) (first second : Filter) :
    Compiled.Agree (schema.compile next events type first)
        (schema.compile otherNext otherEvents type first) ∧
      ∀ ownEvents predicate own foreign,
        schema.compile next events type first = .ok (.ready predicate) →
        schema.compile next ownEvents type second = .ok (.ready own) →
        schema.compile otherNext otherEvents type second = .ok (.ready foreign) →
        predicate.and foreign = predicate.and own ∧ predicate.or foreign = predicate.or own := by
  obtain ⟨id, compiled⟩ := schema.compile_eq next events type
  obtain ⟨otherId, otherCompiled⟩ := schema.compile_eq otherNext otherEvents type
  constructor
  · rw [compiled, otherCompiled]
    exact Compiled.agree_of_ids (schema.type type) id otherId first
  · intro ownEvents predicate own foreign _ ownCompiled foreignCompiled
    obtain ⟨ownId, ownIdCompiled⟩ := schema.compile_eq next ownEvents type
    rw [ownIdCompiled] at ownCompiled
    rw [otherCompiled] at foreignCompiled
    have joined := fun connective =>
      Compiled.merge_of_ids ownCompiled foreignCompiled connective predicate
    exact ⟨joined .and, joined .or⟩

/-- The predicates of one filter in two catalogs differ, but not once they are joined to another.
    The second catalog has dealt an identity before it is asked for the type, so its predicates have
    another parameter. -/
theorem compile_independent_range :
    let schema : Schema := ⟨fun name => ⟨name, .ok [⟨"n", .number (.integer .i32)⟩], none⟩,
      fun _ => rfl⟩
    let above : Filter := ⟨some "n", .greaterThan, .number (.integer .i32 1 (by decide))⟩
    let below : Filter := ⟨some "n", .lessThan, .number (.integer .i32 5 (by decide))⟩
    ∃ predicate own foreign,
      schema.compile 0 [] "R" above = .ok (.ready predicate) ∧
      schema.compile 0 [.ask "R" .names] "R" below = .ok (.ready own) ∧
      schema.compile 0 [.deal] "R" below = .ok (.ready foreign) ∧
      own ≠ foreign ∧ predicate.and foreign = predicate.and own := by
  intro schema above below
  refine ⟨_, _, _, rfl, rfl, rfl, fun same => ?_, ?_⟩
  · cases congrArg (fun predicate => predicate.parameter.id) same
  · have joined := (schema.compile_independent 0 [] "R" 0 [.deal] above below).2
    exact (joined [.ask "R" .names] _ _ _ rfl rfl rfl).1

end Schema

end RecordQuery
