import RecordQuery.Number.Power

/-!
# Kinds of number

A number property has an exact kind: one of eight fixed-width integers, one of two binary
floating-point formats, or the decimal kind. Fractional kinds are those that are no integers.
-/

namespace RecordQuery

/-- Fixed-width integers, signed and unsigned. -/
inductive IntegerKind where
  | i8 | i16 | i32 | i64 | u8 | u16 | u32 | u64
  deriving DecidableEq, Repr

namespace IntegerKind

/-- The width in bits. -/
def bits : IntegerKind → Nat
  | i8 | u8 => 8
  | i16 | u16 => 16
  | i32 | u32 => 32
  | i64 | u64 => 64

/-- Whether negative numbers belong to the kind. -/
def signed : IntegerKind → Bool
  | i8 | i16 | i32 | i64 => true
  | u8 | u16 | u32 | u64 => false

/-- The least number of the kind. -/
def lower (kind : IntegerKind) : Int :=
  if kind.signed then -(twoTo (kind.bits - 1) : Int) else 0

/-- The greatest number of the kind. -/
def upper (kind : IntegerKind) : Int :=
  if kind.signed then (twoTo (kind.bits - 1) : Int) - 1 else (twoTo kind.bits : Int) - 1

/-- The integers of the kind. -/
def Holds (kind : IntegerKind) (value : Int) : Prop :=
  kind.lower ≤ value ∧ value ≤ kind.upper

instance (kind : IntegerKind) (value : Int) : Decidable (kind.Holds value) :=
  inferInstanceAs (Decidable (_ ∧ _))

/-- The name of the kind. -/
def name : IntegerKind → String
  | i8 => "i8" | i16 => "i16" | i32 => "i32" | i64 => "i64"
  | u8 => "u8" | u16 => "u16" | u32 => "u32" | u64 => "u64"

end IntegerKind

/-- The exact kind of a number. -/
inductive NumberKind where
  | integer (kind : IntegerKind)
  /-- Binary floating point of 32 bits. -/
  | single
  /-- Binary floating point of 64 bits. -/
  | double
  | decimal
  deriving DecidableEq, Repr

namespace NumberKind

/-- The name of the kind. -/
def name : NumberKind → String
  | integer kind => kind.name
  | single => "f32"
  | double => "f64"
  | decimal => "decimal"

/-- Whether the kind is one of the fixed-width integers. -/
def isInteger : NumberKind → Bool
  | integer _ => true
  | _ => false

/-- All kinds, integers first. -/
def all : List NumberKind :=
  [integer .i8, integer .i16, integer .i32, integer .i64,
    integer .u8, integer .u16, integer .u32, integer .u64, single, double, decimal]

/-- The kind with a name. -/
def ofName? (name : String) : Option NumberKind :=
  all.find? fun kind => kind.name == name

/-- Every kind is found by its name. -/
theorem ofName_name (kind : NumberKind) : ofName? kind.name = some kind := by
  cases kind with
  | integer kind => cases kind <;> rfl
  | _ => rfl

end NumberKind

end RecordQuery
