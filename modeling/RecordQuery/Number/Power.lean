/-!
# Powers of two and ten

Binary numbers are measured in powers of two, decimals in powers of ten.
-/

namespace RecordQuery

/-- Two to a power. -/
def twoTo (exponent : Nat) : Nat :=
  Nat.pow 2 exponent

/-- Ten to a power. -/
def tenTo (exponent : Nat) : Nat :=
  Nat.pow 10 exponent

/-- No power of two vanishes. -/
theorem twoTo_pos (exponent : Nat) : 0 < twoTo exponent :=
  Nat.pow_pos (by decide)

/-- No power of ten vanishes. -/
theorem tenTo_pos (exponent : Nat) : 0 < tenTo exponent :=
  Nat.pow_pos (by decide)

end RecordQuery
