/-!
# Sets of code points

Properties of characters are tables over code points. A table lists closed ranges,
or runs in which every second code point belongs, as the alternating capital and small
letters of a script do.
-/

namespace RecordQuery.Text

/-- Whether a code point lies in one of the closed ranges. -/
def inRanges (ranges : List (Nat × Nat)) (code : Nat) : Bool :=
  ranges.any fun range => range.1 ≤ code && code ≤ range.2

/-- Whether a code point lies on one of the runs `(first, last, step)`. -/
def onRuns (runs : List (Nat × Nat × Nat)) (code : Nat) : Bool :=
  runs.any fun run =>
    run.1 ≤ code && code ≤ run.2.1 && (code - run.1) % run.2.2 == 0

end RecordQuery.Text
