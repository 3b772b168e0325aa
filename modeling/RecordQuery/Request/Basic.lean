import RecordQuery.Request.Filter
import RecordQuery.Request.SortKey

/-!
# Requests

A request holds filters, all of which must hold, and the keys of one ordering. It is
gathered from the pairs of a query string, where a sort may list several keys.
-/

namespace RecordQuery

/-- Filters and an ordering, applied together. -/
structure Request where
  filters : List Filter := []
  sorts : List SortKey := []
  deriving DecidableEq

namespace Request

/-- Whether the request asks for nothing. -/
def isEmpty (request : Request) : Bool :=
  request.filters.isEmpty && request.sorts.isEmpty

/-- The keys of a comma-separated list; blank ones are skipped. -/
def readSorts (list : String) : Except SyntaxError (List SortKey) :=
  ((Text.split ',' list).filter fun key => !Text.isBlankText key).mapM SortKey.read

/-- The request extended by one pair. Keys other than `filter` and `sort` are ignored. -/
def addPair (request : Request) (key value : String) : Except SyntaxError Request :=
  if key = "filter" then do
    let filter ← Filter.read value
    pure { request with filters := request.filters ++ [filter] }
  else if key = "sort" then do
    let sorts ← readSorts value
    pure { request with sorts := request.sorts ++ sorts }
  else .ok request

/-- The request of the pairs of a query string; the first pair that cannot be read fails. -/
def ofPairs (pairs : List (String × String)) : Except SyntaxError Request :=
  pairs.foldlM (fun request pair => request.addPair pair.1 pair.2) {}

end Request

end RecordQuery
