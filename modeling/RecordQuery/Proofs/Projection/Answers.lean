import RecordQuery.Proofs.Expr.Evaluation
import RecordQuery.Proofs.Projection.Names

/-!
# What the projections of a record type answer

The projections of a record type are found by the names of its properties, and the first property
of a name is read from every record. Their names are those that are found, in ascending order. No
name, or a blank one, leads to the record itself, also in a type that cannot list its properties.
-/

namespace RecordQuery

/-- What is asked about a record type: the projection to a property, to the record itself or to
    what an optional name leads to, or the names of the properties. -/
inductive Question where
  | get (name : String)
  | self
  | resolve (name : Option String)
  | names

namespace Question

/-- What answers a question. -/
def Answer : Question → Type
  | get _ | resolve _ => Option Projection
  | self => Projection
  | names => List String

/-- The projections that an answer gives. -/
def given : (question : Question) → question.Answer → List Projection
  | get _, found | resolve _, found => Option.toList found
  | self, projection => [projection]
  | names, _ => []

end Question

/-- The answer of the projections of a record type. -/
def Projections.answer (projections : Projections) : (question : Question) → question.Answer
  | .get name => projections.get? name
  | .self => projections.self
  | .resolve name => projections.resolve? name
  | .names => projections.names

namespace RecordType

/-- Whether a record type lists its properties and has one of a name among them. -/
def Declares (type : RecordType) (name : String) : Prop :=
  ∃ properties, type.declared = .ok properties ∧ ∃ property ∈ properties, property.name = name

/-- Whether a projection reads the first property declared under a name, from every record with
    one value for each property. -/
def ReadsFirst (type : RecordType) (name : String) (projection : Projection) : Prop :=
  ∃ before property rest, type.declared = .ok (before ++ property :: rest) ∧
    property.name = name ∧ (∀ earlier ∈ before, earlier.name ≠ name) ∧
    projection.type = property.type ∧
    ∀ record, type.Shapes record → ∃ value, record.values[before.length]? = some value ∧
      projection.toLambda.callValue [.record record] = .ok value

/-- What a record stands for as a whole: its own value, if its type has one, or else itself. -/
def whole? (type : RecordType) (record : Record) : Option Operand :=
  match type.selfType with
  | some _ => record.self.map .value
  | none => some (.record record)

/-- Whether a projection reads what the records of a type stand for. -/
def ReadsWhole (type : RecordType) (projection : Projection) : Prop :=
  ∀ record operand, record.typeName = type.name → type.whole? record = some operand →
    projection.toLambda.call [.record record] = .ok operand

/-- A name is declared when a property has it. -/
theorem declares_iff {type : RecordType} {name : String} :
    type.Declares name ↔ ∃ property ∈ type.properties, property.name = name := by
  rw [Declares, properties]
  cases type.declared with
  | error error => simp
  | ok properties => simp

end RecordType

namespace Projection

/-- The projection to a member reads it from a record. -/
theorem call_ofMember {parameter : Parameter} {m : Member} {record : Record} {value : Value}
    (valued : m.read? record = some value) :
    (ofMember parameter m).toLambda.call [.record record] = .ok (.value value) := by
  simp [toLambda, ofMember, Lambda.call, Lambda.arity, Lambda.bind, Expr.eval, Scope.find?,
    Member.readFrom, valued, bind, Except.bind]

end Projection

namespace Projections

variable {type : RecordType} {id : Nat} {name : String} {projection : Projection}

/-- The projection to the record itself is over the shared parameter. -/
theorem parameter_ofType (type : RecordType) (id : Nat) :
    (ofType type id).parameter = sharedParameter type id := by
  rw [parameter, ofType, selfOf]
  cases type.selfType <;> rfl

/-- Every projection that is answered is over the shared parameter. A list of names holds no
    projection, so nothing is said of that question. -/
theorem parameter_of_answer {question : Question}
    (given : projection ∈ question.given ((ofType type id).answer question)) :
    projection.parameter = sharedParameter type id := by
  have ofName : ∀ name, (ofType type id).get? name = some projection →
      projection.parameter = sharedParameter type id := by
    intro name found
    obtain ⟨m, -, -, rfl⟩ := get?_eq_some found
    rfl
  cases question with
  | get name => exact ofName name (Option.mem_toList.mp given)
  | self =>
    obtain rfl := List.mem_singleton.mp given
    exact parameter_ofType type id
  | resolve name =>
    have resolved : (ofType type id).resolve? name = some projection := Option.mem_toList.mp given
    unfold resolve? at resolved
    split at resolved
    · exact ofName _ resolved
    · cases resolved
      exact parameter_ofType type id
  | names => cases given

/-- A name is found when it is declared. -/
theorem isSome_get : ((ofType type id).get? name).isSome = true ↔ type.Declares name := by
  rw [RecordType.declares_iff, Option.isSome_iff_ne_none, ne_eq, get?_eq_none]
  push Not
  rfl

/-- A projection that is found under a name reads the first property declared under it. Later
    properties of the same name are out of reach. -/
theorem readsFirst_of_get (found : (ofType type id).get? name = some projection) :
    type.ReadsFirst name projection := by
  obtain ⟨m, column, named, rfl⟩ := get?_eq_some found
  have reads : ∀ record, type.Shapes record → m.read? record = some (type.columns record m.name) :=
    fun record shapes => type.read_column shapes column
  obtain ⟨index, property, first, located, rfl⟩ := column
  obtain ⟨bounded, -, earlier⟩ := List.findIdx?_eq_some_iff_getElem.mp first
  obtain ⟨_, same⟩ := List.getElem?_eq_some_iff.mp located
  have listed : type.declared = .ok type.properties := by
    rw [RecordType.properties] at bounded ⊢
    cases declared : type.declared with
    | error error => simp [declared] at bounded
    | ok properties => rfl
  refine ⟨type.properties.take index, property, type.properties.drop (index + 1), ?_, named, ?_,
    rfl, fun record shapes => ?_⟩
  · rw [listed, ← same, ← List.drop_eq_getElem_cons bounded, List.take_append_drop]
  · intro other before
    obtain ⟨place, inRange, rfl⟩ := List.mem_take_iff_getElem.mp before
    have differs := earlier place (by omega)
    intro repeated
    exact differs (beq_iff_eq.mpr (named.trans repeated.symm))
  · have valued := type.value_at_position shapes first
    refine ⟨type.columns record property.name, ?_, ?_⟩
    · rw [List.length_take, Nat.min_eq_left (Nat.le_of_lt bounded)]
      exact valued
    · rw [Lambda.callValue, Projection.call_ofMember (reads record shapes)]
      rfl

/-- The record itself is read by the projection without a name. It is the record's own value where
    the type declares one, and otherwise the record. -/
theorem readsWhole_self (type : RecordType) (id : Nat) :
    type.ReadsWhole (ofType type id).self := by
  intro record operand named whole
  simp only [ofType, selfOf]
  unfold RecordType.whole? at whole
  cases declared : type.selfType with
  | none =>
    simp only [declared, Option.some.injEq] at whole
    simp [whole, Projection.toLambda, Lambda.call, Lambda.arity, Lambda.bind, Expr.eval,
      Scope.find?]
  | some valueType =>
    simp only [declared, Option.map_eq_some_iff] at whole
    obtain ⟨value, own, rfl⟩ := whole
    have read : (Member.ofSelf type valueType).read? record = some value := by
      simp [Member.read?, Member.ofSelf, Member.valueAt?, named, own]
    exact Projection.call_ofMember read

/-- The names are those that are declared. -/
theorem mem_names : name ∈ (ofType type id).names ↔ type.Declares name := by
  rw [RecordType.declares_iff]
  simp only [names, ofType, List.mem_mergeSort, List.mem_eraseDups, List.mem_map, List.mem_mapIdx]
  simp [List.mem_iff_getElem]

/-- A type that cannot list its properties finds no name. -/
theorem get?_of_error {error : IntrospectionError} (failed : type.declared = .error error) :
    (ofType type id).get? name = none := by
  apply get?_eq_none.mpr
  simp [RecordType.properties, failed]

/-- A type that cannot list its properties has no names. That the type cannot list them is not an
    error of its own here. -/
theorem names_of_error {error : IntrospectionError} (failed : type.declared = .error error) :
    (ofType type id).names = [] := by
  apply List.eq_nil_iff_forall_not_mem.mpr
  intro name present
  have found : ((ofType type id).get? name).isSome = true := isSome_get.mpr (mem_names.mp present)
  rw [get?_of_error failed] at found
  cases found

/-- No text is left twice when repetitions are erased. The library erases from the rest what equals
    the first, so the induction is on the length. -/
theorem nodup_eraseDups : (texts : List String) → texts.eraseDups.Nodup
  | [] => List.nodup_nil
  | text :: rest => by
      rw [List.eraseDups_cons, List.nodup_cons]
      constructor
      · simp [List.mem_eraseDups]
      · exact nodup_eraseDups (rest.filter fun other => !(other == text))
  termination_by texts => texts.length
  decreasing_by
    have shorter := List.length_filter_le (fun other => !(other == text)) rest
    simp only [List.length_cons]
    omega

/-- The names ascend. They are sorted after repetitions were erased, so the order is strict. -/
theorem names_ascending (projections : Projections) :
    projections.names.Pairwise fun left right => left < right := by
  have ordered : projections.names.Pairwise fun left right => left ≤ right := by
    have transitive (a b c : String) (first : decide (a ≤ b) = true)
        (second : decide (b ≤ c) = true) : decide (a ≤ c) = true :=
      decide_eq_true (String.le_trans (of_decide_eq_true first) (of_decide_eq_true second))
    have total (a b : String) : (decide (a ≤ b) || decide (b ≤ a)) = true := by
      simpa using String.le_total a b
    have sorted := List.pairwise_mergeSort transitive total
      (projections.named.map Prod.fst).eraseDups
    exact sorted.imp fun below => of_decide_eq_true below
  have distinct : projections.names.Nodup :=
    (List.mergeSort_perm _ _).nodup_iff.mpr (nodup_eraseDups _)
  exact (ordered.and distinct).imp fun ⟨below, differs⟩ =>
    Std.lt_of_le_of_ne below differs

end Projections

end RecordQuery
