import RecordQuery.Value.Order
import RecordQuery.Proofs.Number.Order

/-!
# The order of sort keys

Sort keys of mixed types need not be in any order: an integer may lie between two binary
numbers that it is equal to after rounding. The keys of one type, nulls and undefined numbers
among them, are in order in both directions.
-/

namespace RecordQuery

/-- Dates compare field by field, so they are in order. -/
theorem DateTime.ordersOn (kind : DateTime → Prop) : OrdersOn DateTime.compare kind :=
  .thenBy (.of_key year fun _ _ _ _ => rfl) <|
  .thenBy (.of_key month fun _ _ _ _ => rfl) <|
  .thenBy (.of_key day fun _ _ _ _ => rfl) <|
  .thenBy (.of_key hour fun _ _ _ _ => rfl) <|
  .thenBy (.of_key minute fun _ _ _ _ => rfl) <|
  .thenBy (.of_key second fun _ _ _ _ => rfl) <|
  .of_key nanosecond fun _ _ _ _ => rfl

namespace Value

/-- A value has a type when it is null or of exactly this type. -/
def HasType (type : DataType) (value : Value) : Prop :=
  value = .null ∨ value.type? = some type

/-- Values of one rank are made alike, and numbers of one rank are all defined or none is. Undefined
    numbers have a rank of their own. -/
theorem of_keyRank {item value : Value} (same : compare item.keyRank value.keyRank = .eq) :
    (item = .null ∧ value = .null) ∨ (∃ left right, item = .text left ∧ value = .text right) ∨
    (∃ left right, item = .bool left ∧ value = .bool right) ∨
    (∃ left right, item = .number left ∧ value = .number right ∧ left.isNan = right.isNan) ∨
    (∃ left right, item = .date left ∧ value = .date right) ∨
    (∃ left right, item = .ints left ∧ value = .ints right) ∨
    ∃ left right, item = .texts left ∧ value = .texts right := by
  rw [Nat.compare_eq_eq] at same
  cases item <;> cases value <;> simp_all [keyRank] <;> grind

/-- Numbers of one type are in order, those apart that are not numbers. Of a type that is no number
    type there are no numbers, and so nothing to order. -/
theorem ordersOn_numbers (type : DataType) (undefined : Bool) :
    OrdersOn (fun left right => ((number left).compare? (number right)).getD .eq)
      fun value => HasType type (number value) ∧ value.isNan = undefined := by
  by_cases numeric : ∃ kind, type = .number kind
  · obtain ⟨kind, rfl⟩ := numeric
    refine (Number.ordersOn kind undefined).mono fun value known => ?_
    obtain ⟨hasType, isNan⟩ := known
    exact ⟨by simpa [HasType, type?] using hasType, isNan⟩
  · refine .of_ties fun left _ known _ => absurd ⟨left.kind, ?_⟩ numeric
    simpa [HasType, type?, eq_comm] using known.1

/-- Values of one type and one rank are in order. The cases are the forms of values, each with an
    order of its own. -/
theorem ordersOn_tied (type : DataType) (item : Value) :
    OrdersOn (fun left right : Value => (left.compare? right).getD .eq)
      fun value => HasType type value ∧ compare item.keyRank value.keyRank = .eq := by
  cases item with
  | null =>
    have nulls : OrdersOn (fun _ _ : Unit => (compare? null null).getD .eq) fun _ => True :=
      .of_ties fun _ _ _ _ => rfl
    refine .of_image nulls fun value known => ?_
    simpa [eq_comm] using of_keyRank known.2
  | text _ =>
    have texts : OrdersOn (fun left right => ((text left).compare? (text right)).getD .eq)
        fun _ => True := .of_key id fun _ _ _ _ => rfl
    refine .of_image texts fun value known => ?_
    simpa [eq_comm] using of_keyRank known.2
  | bool _ =>
    have bools : OrdersOn (fun left right => ((bool left).compare? (bool right)).getD .eq)
        fun _ => True := .of_key Bool.toNat fun _ _ _ _ => rfl
    refine .of_image bools fun value known => ?_
    simpa [eq_comm] using of_keyRank known.2
  | number value =>
    refine .of_image (ordersOn_numbers type value.isNan) fun other known => ?_
    obtain ⟨hasType, same⟩ := known
    obtain ⟨right, rfl, isNan⟩ : ∃ right, other = number right ∧ value.isNan = right.isNan := by
      simpa using of_keyRank same
    exact ⟨right, ⟨hasType, isNan.symm⟩, rfl⟩
  | date _ =>
    have dates : OrdersOn (fun left right => ((date left).compare? (date right)).getD .eq)
        fun _ => True := DateTime.ordersOn _
    refine .of_image dates fun value known => ?_
    simpa [eq_comm] using of_keyRank known.2
  | ints _ =>
    have sequences : OrdersOn (fun left right => ((ints left).compare? (ints right)).getD .eq)
        fun _ => True := .of_ties fun _ _ _ _ => rfl
    refine .of_image sequences fun value known => ?_
    simpa [eq_comm] using of_keyRank known.2
  | texts _ =>
    have sequences : OrdersOn (fun left right => ((texts left).compare? (texts right)).getD .eq)
        fun _ => True := .of_ties fun _ _ _ _ => rfl
    refine .of_image sequences fun value known => ?_
    simpa [eq_comm] using of_keyRank known.2

/-- Ascending sort keys of one type are in order. -/
theorem ordersOn_ascending (type : DataType) : OrdersOn compareAscending (HasType type) := by
  have ranks : OrdersOn (fun left right : Value => compare left.keyRank right.keyRank)
      (HasType type) := .of_key keyRank fun _ _ _ _ => rfl
  exact ranks.lexicographic fun item _ => ordersOn_tied type item

/-- Sort keys of one type are in order in either direction. -/
theorem ordersOn_keys (ascending : Bool) (type : DataType) :
    OrdersOn (compareKeys ascending) (HasType type) := by
  cases ascending with
  | true => exact ordersOn_ascending type
  | false => exact (ordersOn_ascending type).reversed

end Value

end RecordQuery
