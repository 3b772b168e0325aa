import RecordQuery.Declaration.Derivation
import RecordQuery.Proofs.Record.Columns
import RecordQuery.Proofs.Text.Blank
import RecordQuery.Query.Application

/-!
# Names in filters and in sort keys

A filter trims its name before it looks for a property, a sort key takes its name as it is, and
properties are declared under names that nobody trims. The two therefore lead to the same
projection, or both to none, exactly where blanks make no difference: the name has none at its
ends, or nothing is declared under it either way. A property whose own name has blanks at an end
is reached by sort keys only.
-/

namespace RecordQuery

/-- What a filter compares, by the name that it gives. -/
def Filter.target? (projections : Projections) (filter : Filter) : Option Projection :=
  projections.resolve? filter.property?

/-- What a sort key orders by, by the name that it gives. -/
def SortKey.target? (projections : Projections) (key : SortKey) : Option Projection :=
  projections.get? key.property

namespace Projections

variable {type : RecordType} {id : Nat} {name other : String}

/-- Names of different properties lead to different projections. A projection reads a member by its
    name, so the name can be seen from it. -/
theorem name_eq_of_get {projection : Projection}
    (found : (ofType type id).get? name = some projection)
    (same : (ofType type id).get? other = some projection) : name = other := by
  obtain ⟨m, -, rfl, rfl⟩ := get?_eq_some found
  obtain ⟨m', -, rfl, read⟩ := get?_eq_some same
  have members : m = m' := by
    simpa [Projection.ofMember] using read
  rw [members]

/-- Two names lead to the same projection, or both to none, exactly when they are one name or
    nothing is declared under either. Repeated declarations make no difference to it. -/
theorem get_eq_get :
    (ofType type id).get? name = (ofType type id).get? other ↔
      name = other ∨
        ∀ property ∈ type.properties, property.name ≠ name ∧ property.name ≠ other := by
  constructor
  · intro same
    cases found : (ofType type id).get? name with
    | none =>
      have absent := get?_eq_none.mp found
      have absentOther := get?_eq_none.mp (same ▸ found)
      exact .inr fun property declared => ⟨absent property declared, absentOther property declared⟩
    | some projection => exact .inl (name_eq_of_get found (same ▸ found))
  · rintro (rfl | absent)
    · rfl
    · rw [get?_eq_none.mpr fun property declared => (absent property declared).1,
        get?_eq_none.mpr fun property declared => (absent property declared).2]

/-- A declared name leads to a projection. -/
theorem get_of_declared (id : Nat) (declared : ∃ property ∈ type.properties, property.name = name) :
    ∃ projection, (ofType type id).get? name = some projection := by
  refine Option.isSome_iff_exists.mp (Option.isSome_iff_ne_none.mpr fun missing => ?_)
  obtain ⟨property, member, named⟩ := declared
  exact get?_eq_none.mp missing property member named

/-- The record itself is no property with a name that is not blank. The member that stands for the
    record itself has the empty name. -/
theorem self_ne_get (given : Text.isBlankText name = false) :
    (ofType type id).get? name ≠ some (ofType type id).self := by
  intro found
  obtain ⟨m, -, rfl, read⟩ := get?_eq_some found
  cases declared : type.selfType with
  | none => simp [ofType, selfOf, declared, Projection.ofMember] at read
  | some valueType =>
    simp only [ofType, selfOf, declared, Projection.ofMember, Projection.mk.injEq, true_and,
      Expr.member.injEq] at read
    rw [← read] at given
    cases given

/-- A name that is not blank leads a filter where its trimmed form leads a sort key. It is trimmed
    once only, since trimming it again changes nothing. -/
theorem target_of_nonBlank (given : Text.isBlankText name = false) (comparison : Comparison)
    (literal : Literal) :
    Filter.target? (ofType type id) ⟨some name, comparison, literal⟩ =
      (ofType type id).get? (Text.trim name) := by
  have trimmed := Text.nonBlank_eq_some given
  have once := Text.nonBlank_of_nonBlank trimmed
  simp only [Filter.target?, Filter.property?, Option.bind_some, trimmed, resolve?, once]

/-- Where a filter leads by a name, the name is trimmed. A filter without a name leads to the record
    itself, which is no property. -/
theorem trim_eq_of_target {filter : Filter} {projection : Projection}
    (given : Text.isBlankText name = false)
    (found : (ofType type id).get? name = some projection)
    (reached : filter.target? (ofType type id) = some projection) : Text.trim name = name := by
  cases named : filter.property? with
  | none =>
    rw [Filter.target?, named] at reached
    exact absurd (found.trans reached.symm) (self_ne_get given)
  | some trimmed =>
    obtain ⟨written, -, read⟩ := Option.bind_eq_some_iff.mp named
    have once := Text.nonBlank_of_nonBlank read
    simp only [Filter.target?, named, resolve?, Option.bind_some, once] at reached
    obtain rfl : name = trimmed := name_eq_of_get found reached
    exact Option.some.inj ((Text.nonBlank_eq_some given).symm.trans once)

/-- Filters and sort keys resolve names alike exactly where blanks at the ends make no difference. A
    filter and a sort key with one name lead to the same projection, or both to none, exactly when
    the name is trimmed or nothing is declared under it nor under its trimmed form. A declared name
    always leads a sort key to its property, and some filter leads there exactly when the name is
    trimmed.

    Proof: a filter leads where its trimmed name does, and a sort key where its name does, so the
    question is when two names lead to one place. Projections show the name that they read, so
    different names only agree on leading nowhere. -/
theorem filter_agrees_with_sort_iff_trimmed (type : RecordType) (id : Nat) (name : String)
    (given : Text.isBlankText name = false) :
    (∀ (comparison : Comparison) (literal : Literal) (ascending : Bool),
      Filter.target? (ofType type id) ⟨some name, comparison, literal⟩ =
          SortKey.target? (ofType type id) ⟨name, ascending⟩ ↔
        Text.trim name = name ∨ ∀ property ∈ type.properties,
          property.name ≠ Text.trim name ∧ property.name ≠ name) ∧
    ((∃ property ∈ type.properties, property.name = name) →
      ∃ projection,
        (∀ ascending, SortKey.target? (ofType type id) ⟨name, ascending⟩ = some projection) ∧
        ((∃ filter : Filter, filter.target? (ofType type id) = some projection) ↔
          Text.trim name = name)) := by
  constructor
  · intro comparison literal ascending
    rw [target_of_nonBlank given]
    exact get_eq_get
  · intro declared
    obtain ⟨projection, found⟩ := get_of_declared id declared
    refine ⟨projection, fun _ => found, fun ⟨filter, reached⟩ => ?_, fun trimmed => ?_⟩
    · exact trim_eq_of_target given found reached
    · refine ⟨⟨some name, .equals, .text ""⟩, ?_⟩
      rw [target_of_nonBlank given, trimmed, found]

/-- Records with one property, under a name between blanks. -/
def padded : RecordType :=
  ⟨"Padded", .ok [⟨" pad ", .number (.integer .i32)⟩], none⟩

/-- The property is out of reach for every filter, while sort keys lead to it. A filter on it by its
    own name is read as one on the name without blanks, which is not declared. -/
theorem padded_name_unfiltered :
    Text.isBlankText " pad " = false ∧
      ∃ projection, SortKey.target? (ofType padded 0) ⟨" pad ", true⟩ = some projection ∧
        ¬∃ filter : Filter, filter.target? (ofType padded 0) = some projection := by
  have declared : ∃ property ∈ padded.properties, property.name = " pad " :=
    ⟨⟨" pad ", .number (.integer .i32)⟩, by decide, rfl⟩
  obtain ⟨projection, sorted, reached⟩ :=
    (filter_agrees_with_sort_iff_trimmed padded 0 " pad " (by decide)).2 declared
  refine ⟨by decide, projection, sorted true, ?_⟩
  rw [reached]
  decide

/-- A field may be renamed to the padded name. A filter on it is then dropped, although a sort key
    with the same name finds the property. -/
theorem renamed_name_unfiltered :
    DerivedProperty.ofField? ⟨"pad", "i32", [⟨"record", .list "rename = \" pad \""⟩]⟩ =
        .ok (some ⟨" pad ", "pad", "i32"⟩) ∧
      (Filter.target? (ofType padded 0) ⟨some " pad ", .equals, .text "1"⟩).isNone = true ∧
      (SortKey.target? (ofType padded 0) ⟨" pad ", true⟩).isSome = true := by
  decide +kernel

end Projections

end RecordQuery
