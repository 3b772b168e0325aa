/-!
# Names in messages

A message shows a name, or another short text, between back quotes.
-/

namespace RecordQuery

/-- A name as messages show it. -/
def ticked (name : String) : String :=
  "\x60" ++ name ++ "\x60"

end RecordQuery
