import RecordQuery.Proofs.Number.Mixed
import RecordQuery.Proofs.Value.Order

/-!
# Sort keys of mixed types

Any two sort keys compare one way and its reverse. Keys of different types are told apart by their
rank, and keys of one type other than numbers are in order, so mixed keys are in order exactly when
the numbers among them are: when no binary number lies between two numbers that change their order
by being rounded to 64 bits.
-/

namespace RecordQuery.Value

/-- Turning two values around turns their comparison around, ties of what does not compare included.
    Values of different forms do not compare, and tie in both directions. -/
theorem compare_swap (left right : Value) :
    (right.compare? left).getD .eq = ((left.compare? right).getD .eq).swap := by
  cases left <;> cases right <;> try rfl
  case text.text left right => exact Std.OrientedOrd.eq_swap
  case bool.bool left right => exact Std.OrientedOrd.eq_swap
  case number.number left right => exact left.order_swap right
  case date.date left right => exact (DateTime.ordersOn fun _ => True).swap trivial trivial

/-- Turning two sort keys around turns their order around, in either direction. A descending key
    turns both sides around, and so their reversal too. -/
theorem compareKeys_swap (ascending : Bool) (left right : Value) :
    compareKeys ascending right left = (compareKeys ascending left right).swap := by
  have turned : right.compareAscending left = (left.compareAscending right).swap := by
    rw [compareAscending, compareAscending, compare_swap, Ordering.swap_then,
      Std.OrientedOrd.eq_swap (a := right.keyRank)]
  cases ascending with
  | true => exact turned
  | false => exact congrArg Ordering.swap turned

/-- Values of the rank of a value that is no number have its type. Ranks tell the forms of values
    apart, and only numbers of one rank may be of several types. -/
theorem hasType_of_keyRank {item value : Value} (noNumber : item.asNumber? = none)
    (same : compare item.keyRank value.keyRank = .eq) :
    value.HasType (item.type?.getD .text) := by
  rcases of_keyRank same with ⟨rfl, rfl⟩ | ⟨_, _, rfl, rfl⟩ | ⟨_, _, rfl, rfl⟩ |
    ⟨_, _, rfl, rfl, -⟩ | ⟨_, _, rfl, rfl⟩ | ⟨_, _, rfl, rfl⟩ | ⟨_, _, rfl, rfl⟩
  case inr.inr.inr.inl => cases noNumber
  case inl => exact .inl rfl
  all_goals exact .inr rfl

/-- Numbers sort by their order when they are defined. -/
theorem compareAscending_number {left right : Number} (leftNumber : left.isNan = false)
    (rightNumber : right.isNan = false) :
    (number left).compareAscending (number right) = left.order right := by
  simp [compareAscending, keyRank, leftNumber, rightNumber, compare?, Number.order]

/-- Undefined numbers tie. -/
theorem compare_of_isNan {left right : Number} (undefined : left.isNan = true) :
    ((number left).compare? (number right)).getD .eq = .eq := by
  have compares := left.isSome_compare right
  rw [undefined, Bool.not_true, Bool.false_and, Option.isSome_eq_false_iff,
    Option.isNone_iff_eq_none] at compares
  rw [compare?, compares, Option.getD_none]

/-- Ascending sort keys are in order exactly when the numbers among them are undistorted. Values of
    different ranks are ordered by these, and within a rank only numbers of several kinds may fail
    to be in order. -/
theorem ordersOn_ascending_iff (kind : Value → Prop) :
    OrdersOn compareAscending kind ↔ Number.Undistorted fun value => kind (number value) := by
  constructor
  · intro orders
    refine Number.undistorted_of_ordersOn ?_
    refine (orders.comap number fun value known => known.1).congr ?_
    exact fun left right leftKnown rightKnown =>
      (compareAscending_number leftKnown.2 rightKnown.2).symm
  · intro undistorted
    have ranks : OrdersOn (fun left right : Value => compare left.keyRank right.keyRank) kind :=
      .of_key keyRank fun _ _ _ _ => rfl
    refine ranks.lexicographic fun item _ => ?_
    cases noNumber : item.asNumber? with
    | none =>
      refine (ordersOn_tied (item.type?.getD .text) item).mono fun value known => ?_
      exact ⟨hasType_of_keyRank noNumber known.2, known.2⟩
    | some given =>
      obtain rfl : item = number given := by
        cases item <;> simp_all [asNumber?]
      have numbers (value : Value) (known : kind value ∧
          compare (number given).keyRank value.keyRank = .eq) :
          ∃ other, value = number other ∧ given.isNan = other.isNan := by
        simpa using of_keyRank known.2
      cases undefined : given.isNan with
      | true =>
        refine .of_ties fun left right leftKnown rightKnown => ?_
        obtain ⟨first, rfl, leftNan⟩ := numbers left leftKnown
        obtain ⟨second, rfl, -⟩ := numbers right rightKnown
        exact compare_of_isNan (leftNan.symm.trans undefined)
      | false =>
        refine .of_image (f := number) (Number.ordersOn_of_undistorted undistorted) ?_
        intro value known
        obtain ⟨other, rfl, same⟩ := numbers value known
        exact ⟨other, ⟨known.1, same.symm.trans undefined⟩, rfl⟩

/-- Descending sort keys are in order exactly when ascending ones are. An order stays one when it is
    reversed, and comes back when it is reversed again. -/
theorem ordersOn_keys_iff (ascending : Bool) (kind : Value → Prop) :
    OrdersOn (compareKeys ascending) kind ↔ OrdersOn compareAscending kind := by
  cases ascending with
  | true => exact Iff.rfl
  | false =>
    constructor
    · intro orders
      exact orders.reversed.congr fun _ _ _ _ => Ordering.swap_swap.symm
    · exact fun orders => orders.reversed

/-- Any two sort keys compare one way and its reverse. A third key carries the order of keys of a
    kind on, and their ties with it, exactly when the numbers among them are undistorted: when no
    binary number lies between two that rounding to 64 bits does not leave in their order.

    Proof: of all values only numbers of different kinds can be out of order, so the question is one
    about numbers. There a binary number between two others is the only way to distort their order,
    as it compares with each by rounding. -/
theorem compareKeys_transitive_iff_undistorted (ascending : Bool) :
    (∀ left right, compareKeys ascending right left = (compareKeys ascending left right).swap) ∧
    ∀ kind : Value → Prop,
      ((∀ a b c, kind a → kind b → kind c → compareKeys ascending a b ≠ .gt →
          compareKeys ascending b c ≠ .gt → compareKeys ascending a c ≠ .gt) ↔
        Number.Undistorted fun value => kind (number value)) ∧
      (Number.Undistorted (fun value => kind (number value)) →
        ∀ a b c, kind a → kind b → kind c → compareKeys ascending a b = .eq →
          compareKeys ascending b c = .eq → compareKeys ascending a c = .eq) := by
  have swaps := compareKeys_swap ascending
  refine ⟨swaps, fun kind => ?_⟩
  have inOrder := (ordersOn_keys_iff ascending kind).trans (ordersOn_ascending_iff kind)
  refine ⟨⟨fun carries => ?_, fun undistorted a b c first second third => ?_⟩, ?_⟩
  · refine inOrder.mp ⟨fun _ _ => swaps _ _, fun first second third => ?_⟩
    exact carries _ _ _ first second third
  · exact (inOrder.mpr undistorted).trans first second third
  · intro undistorted a b c first second third forth back
    rw [(inOrder.mpr undistorted).congr_left first second third forth, back]

/-- Three numbers of different kinds, an undefined one and null are in order. The binary one lies
    between two others that rounding leaves in their order. -/
theorem compareKeys_mixed_kinds :
    let large : Number := .integer .i64 9007199254740993 (by decide)
    let half : Number := .double (.finite false 4503599627370496 (-53))
    let three : Number := .decimal ⟨false, 300, 2, by decide, by decide⟩
    let keys : List Value := [number large, null, number half, number (.double .nan), number three]
    ∀ a ∈ keys, ∀ b ∈ keys, ∀ c ∈ keys, compareKeys true a b ≠ .gt → compareKeys true b c ≠ .gt →
      compareKeys true a c ≠ .gt := by
  intro large half three keys a first b second c third
  have undistorted : Number.Undistorted fun value => number value ∈ keys := by
    intro lower middle upper lowerKnown _ upperKnown _ _ _
    simp only [keys, List.mem_cons, number.injEq, reduceCtorEq, List.not_mem_nil, or_false,
      false_or] at lowerKnown upperKnown
    rcases lowerKnown with rfl | rfl | rfl | rfl <;>
      rcases upperKnown with rfl | rfl | rfl | rfl <;> rfl
  have carries := ((compareKeys_transitive_iff_undistorted true).2 (· ∈ keys)).1.mpr undistorted
  exact carries a b c first second third

/-- Two integers that differ tie with the binary number that both are rounded to, so the order of
    all sort keys is not transitive. They are a power of two and the next integer, which needs one
    bit more than binary numbers have. -/
theorem compareKeys_not_transitive :
    let larger : Value := number (.integer .i64 9007199254740993 (by decide))
    let rounded : Value := number (.double (.finite false 4503599627370496 1))
    let smaller : Value := number (.integer .i64 9007199254740992 (by decide))
    compareKeys true larger rounded = .eq ∧ compareKeys true rounded smaller = .eq ∧
      compareKeys true larger smaller = .gt := by
  decide

end RecordQuery.Value
