import Mathlib.Order.Std

/-!
# Comparators that order items

A comparator orders items when turning its arguments around turns its outcome around, and when
what is not after a second item is not after anything that the second is not after. Different
items may tie. The comparator has to do so only among the items at hand: sort keys of different
types, or undefined numbers among others, need not be in any order.
-/

namespace RecordQuery

universe u v
variable {α : Type u} {β : Type v}

/-- A comparator orders the items of a kind: it is antisymmetric and transitive among them. -/
structure OrdersOn (compare : α → α → Ordering) (kind : α → Prop) : Prop where
  swap : ∀ {a b}, kind a → kind b → compare b a = (compare a b).swap
  trans : ∀ {a b c}, kind a → kind b → kind c → compare a b ≠ .gt → compare b c ≠ .gt →
    compare a c ≠ .gt

/-- Two outcomes are the same when neither direction tells them apart. -/
theorem ordering_ext {first second : Ordering} (forward : first ≠ .gt ↔ second ≠ .gt)
    (backward : first.swap ≠ .gt ↔ second.swap ≠ .gt) : first = second := by
  cases first <;> cases second <;> simp_all

namespace OrdersOn

variable {compare : α → α → Ordering} {kind : α → Prop} {a b c : α}

/-- A comparator orders items of a narrower kind as well. -/
theorem mono {narrower : α → Prop} (orders : OrdersOn compare kind)
    (subset : ∀ item, narrower item → kind item) : OrdersOn compare narrower :=
  ⟨fun a b => orders.swap (subset _ a) (subset _ b),
    fun a b c => orders.trans (subset _ a) (subset _ b) (subset _ c)⟩

/-- Comparing in the same way orders the items as well. It has to agree on items of the kind
    only. -/
theorem congr {other : α → α → Ordering} (orders : OrdersOn compare kind)
    (same : ∀ a b, kind a → kind b → other a b = compare a b) : OrdersOn other kind := by
  constructor
  · intro a b first second
    rw [same b a second first, same a b first second, orders.swap first second]
  · intro a b c first second third
    rw [same a b first second, same b c second third, same a c first third]
    exact orders.trans first second third

/-- Every item ties with itself. -/
theorem refl (orders : OrdersOn compare kind) (known : kind a) : compare a a = .eq := by
  have turned := orders.swap known known
  cases outcome : compare a a <;> simp_all

/-- A tie is one in both directions. -/
theorem tie_symm (orders : OrdersOn compare kind) (first : kind a) (second : kind b)
    (tie : compare a b = .eq) : compare b a = .eq := by
  rw [orders.swap first second, tie]
  rfl

/-- Items that tie compare alike with every third. Transitivity in both directions and with both
    orders of the items leaves no other outcome. -/
theorem congr_left (orders : OrdersOn compare kind) (first : kind a) (second : kind b)
    (third : kind c) (tie : compare a b = .eq) : compare a c = compare b c := by
  have turned := orders.tie_symm first second tie
  have forth : compare a b ≠ .gt := by simp [tie]
  have back : compare b a ≠ .gt := by simp [turned]
  refine ordering_ext ⟨?_, ?_⟩ ⟨?_, ?_⟩
  · exact orders.trans second first third back
  · exact orders.trans first second third forth
  · rw [← orders.swap first third, ← orders.swap second third]
    exact fun below => orders.trans third first second below forth
  · rw [← orders.swap first third, ← orders.swap second third]
    exact fun below => orders.trans third second first below back

/-- What is before an item is before all that the item is not after. A tie with the third would
    carry over to the second. -/
theorem lt_of_lt_of_not_gt (orders : OrdersOn compare kind) (first : kind a) (second : kind b)
    (third : kind c) (before : compare a b = .lt) (below : compare b c ≠ .gt) :
    compare a c = .lt := by
  have notAfter : compare a c ≠ .gt := orders.trans first second third (by simp [before]) below
  cases outcome : compare a c with
  | lt => rfl
  | gt => exact absurd outcome notAfter
  | eq =>
    have same := orders.congr_left first third second outcome
    rw [before, orders.swap second third] at same
    cases between : compare b c with
    | gt => exact absurd between below
    | lt | eq =>
      rw [between] at same
      cases same

/-- What is not after an item is before all that the item is before. Otherwise the third would come
    before the first, and so before the second. -/
theorem lt_of_not_gt_of_lt (orders : OrdersOn compare kind) (first : kind a) (second : kind b)
    (third : kind c) (below : compare a b ≠ .gt) (before : compare b c = .lt) :
    compare a c = .lt := by
  by_contra notBefore
  have back : compare c a ≠ .gt := by
    rw [orders.swap first third]
    simpa using notBefore
  have turned := orders.trans third first second back below
  rw [orders.swap second third, before] at turned
  exact turned rfl

/-- Of three items in a row, the outer ones tie exactly when each ties with the middle one. This is
    what fails when a third item distorts the order of two others. -/
theorem tie_iff_of_between (orders : OrdersOn compare kind) (first : kind a) (second : kind b)
    (third : kind c) (below : compare a b ≠ .gt) (above : compare b c ≠ .gt) :
    compare a c = .eq ↔ compare a b = .eq ∧ compare b c = .eq := by
  constructor
  · intro tie
    have same := orders.congr_left first third second tie
    rw [orders.swap second third] at same
    cases outcome : compare b c with
    | lt => simp [same, outcome] at below
    | eq => simp [same, outcome]
    | gt => exact absurd outcome above
  · rintro ⟨forth, back⟩
    rw [orders.congr_left first second third forth, back]

/-- Comparing by a key with an order of its own orders the items. The order of the keys is the
    library's, with its own lemmas. -/
theorem of_key {κ : Type v} [Ord κ] [Std.TransOrd κ] (key : α → κ)
    (same : ∀ a b, kind a → kind b → compare a b = Ord.compare (key a) (key b)) :
    OrdersOn compare kind := by
  constructor
  · intro a b first second
    rw [same a b first second, same b a second first]
    exact Std.OrientedOrd.eq_swap
  · intro a b c first second third
    rw [same a b first second, same b c second third, same a c first third]
    simp only [← Ordering.isLE_iff_ne_gt]
    exact Std.TransOrd.isLE_trans

/-- Turning every outcome around orders the items the other way. It is the comparator of a
    descending key. -/
theorem reversed (orders : OrdersOn compare kind) :
    OrdersOn (fun a b => (compare a b).swap) kind := by
  constructor
  · intro a b first second
    rw [orders.swap first second]
  · intro a b c first second third
    rw [← orders.swap first second, ← orders.swap second third, ← orders.swap first third]
    exact fun forth back => orders.trans third second first back forth

/-- Comparing what items are mapped to orders the items. -/
theorem comap {other : β → Prop} (orders : OrdersOn compare kind) (f : β → α)
    (maps : ∀ item, other item → kind (f item)) :
    OrdersOn (fun a b => compare (f a) (f b)) other :=
  ⟨fun a b => orders.swap (maps _ a) (maps _ b),
    fun a b c => orders.trans (maps _ a) (maps _ b) (maps _ c)⟩

/-- A comparator for which all items tie orders them. It is the case of keys that no item has. -/
theorem of_ties (ties : ∀ a b, kind a → kind b → compare a b = .eq) :
    OrdersOn compare kind := by
  constructor
  · intro a b first second
    rw [ties a b first second, ties b a second first]
    rfl
  · intro a b c first _ third _ _
    simp [ties a c first third]

/-- Items are in order when each comes from some source and the sources are in order. It is used
    with wrappers, which have all items of a kind for their images. -/
theorem of_image {other : β → Prop} {f : β → α}
    (orders : OrdersOn (fun a b => compare (f a) (f b)) other)
    (covers : ∀ item, kind item → ∃ source, other source ∧ f source = item) :
    OrdersOn compare kind := by
  constructor
  · intro a b first second
    obtain ⟨left, leftKind, rfl⟩ := covers a first
    obtain ⟨right, rightKind, rfl⟩ := covers b second
    exact orders.swap leftKind rightKind
  · intro a b c first second third
    obtain ⟨left, leftKind, rfl⟩ := covers a first
    obtain ⟨between, betweenKind, rfl⟩ := covers b second
    obtain ⟨right, rightKind, rfl⟩ := covers c third
    exact orders.trans leftKind betweenKind rightKind

/-- A second comparator has to order only the items that tie under the first. On the others it is
    never asked, so it may be distorted there. -/
theorem lexicographic {second : α → α → Ordering} (orders : OrdersOn compare kind)
    (ties : ∀ item, kind item →
      OrdersOn second fun other => kind other ∧ compare item other = .eq) :
    OrdersOn (fun a b => (compare a b).then (second a b)) kind := by
  constructor
  · intro a b first other
    rw [Ordering.swap_then, orders.swap first other]
    cases outcome : compare a b with
    | eq =>
      have turned := (ties a first).swap ⟨first, orders.refl first⟩ ⟨other, outcome⟩
      simpa using turned
    | lt => rfl
    | gt => rfl
  · intro a b c first other third forth back
    cases outcome : compare a b with
    | lt =>
      have below : compare b c ≠ .gt := by
        intro after
        simp [after] at back
      simp [orders.lt_of_lt_of_not_gt first other third outcome below]
    | gt => simp [outcome] at forth
    | eq =>
      rw [orders.congr_left first other third outcome]
      cases between : compare b c with
      | lt => simp
      | gt => simp [between] at back
      | eq =>
        have tie : compare a c = .eq := by
          rw [orders.congr_left first other third outcome, between]
        have within := (ties a first).trans ⟨first, orders.refl first⟩ ⟨other, outcome⟩
          ⟨third, tie⟩
        simp only [outcome, between] at forth back
        simpa [between] using within forth back

/-- Breaking the ties of a comparator by another one orders what both order. -/
theorem thenBy {second : α → α → Ordering} (orders : OrdersOn compare kind)
    (others : OrdersOn second kind) :
    OrdersOn (fun a b => (compare a b).then (second a b)) kind :=
  orders.lexicographic fun _ _ => others.mono fun _ tied => tied.1

end OrdersOn

end RecordQuery
