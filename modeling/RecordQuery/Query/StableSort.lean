/-!
# Stable sorting

Items are placed one after the other, each behind the last placed item that it does not
precede. Items that compare equal therefore keep their order.
-/

namespace RecordQuery

variable {α : Type}

/-- Places an item among placed ones that are listed from the last to the first. -/
def placeItem (compare : α → α → Ordering) (item : α) : List α → List α
  | [] => [item]
  | last :: earlier =>
      if compare item last = .lt then last :: placeItem compare item earlier
      else item :: last :: earlier

/-- The items placed so far, from the last to the first, and then those of a list. -/
def placeAll (compare : α → α → Ordering) (placed : List α) : List α → List α
  | [] => placed
  | item :: rest => placeAll compare (placeItem compare item placed) rest

/-- The items in ascending order, equal ones in the order they had. -/
def stableSort (compare : α → α → Ordering) (items : List α) : List α :=
  (placeAll compare [] items).reverse

/-- Placing an item adds it and loses none. -/
theorem placeItem_perm (compare : α → α → Ordering) (item : α) (placed : List α) :
    (placeItem compare item placed).Perm (item :: placed) := by
  induction placed with
  | nil => exact .refl _
  | cons last earlier ih =>
    unfold placeItem
    split
    · exact (ih.cons last).trans (.swap item last earlier)
    · exact .refl _

/-- Placing a list of items adds them and loses none. -/
theorem placeAll_perm (compare : α → α → Ordering) (placed items : List α) :
    (placeAll compare placed items).Perm (placed ++ items) := by
  induction items generalizing placed with
  | nil => simp [placeAll]
  | cons item rest ih =>
    have added := (placeItem_perm compare item placed).append_right rest
    exact (ih (placeItem compare item placed)).trans (added.trans List.perm_middle.symm)

/-- Sorting neither loses nor repeats an item. -/
theorem stableSort_perm (compare : α → α → Ordering) (items : List α) :
    (stableSort compare items).Perm items := by
  simpa [stableSort] using
    (List.reverse_perm _).trans (placeAll_perm compare [] items)

end RecordQuery
