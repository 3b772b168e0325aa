import RecordQuery.Value.Basic

/-!
# Order and equality of values

Two relations serve two purposes. Values of one type compare as their type does, null being
greater than everything; values of different types do not compare. Sort keys compare always:
types are ranked first, with undefined numbers behind all other types and null last.
-/

namespace RecordQuery.Value

/-- The order of two values of one type, with null the greatest. Sequences, different types
    and undefined numbers have none. -/
def compare? : Value → Value → Option Ordering
  | text left, text right => some (compare left right)
  | number left, number right => left.compare? right
  | date left, date right => some (left.compare right)
  | bool left, bool right => some (compare left.toNat right.toNat)
  | null, null => some .eq
  | null, _ => some .gt
  | _, null => some .lt
  | _, _ => none

/-- Equality of values: null equals null only, sequences are equal item by item, and all
    else is equal when it compares equal. -/
def equals : Value → Value → Bool
  | null, null => true
  | null, _ | _, null => false
  | ints left, ints right => left == right
  | texts left, texts right => left == right
  | left, right => left.compare? right == some .eq

/-- The rank of a sort key among keys of other types. -/
def keyRank : Value → Nat
  | bool _ => 0
  | number value => if value.isNan then 6 else 1
  | text _ => 2
  | date _ => 3
  | ints _ => 4
  | texts _ => 5
  | null => 7

/-- The ascending order of sort keys: by rank, then by value where values compare. -/
def compareAscending (left right : Value) : Ordering :=
  (compare left.keyRank right.keyRank).then ((left.compare? right).getD .eq)

/-- The order of sort keys in a direction; descending reverses all of it, nulls included. -/
def compareKeys (ascending : Bool) (left right : Value) : Ordering :=
  if ascending then left.compareAscending right else (left.compareAscending right).swap

end RecordQuery.Value
