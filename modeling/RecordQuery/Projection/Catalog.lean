import RecordQuery.Projection.Basic

/-!
# Catalog of projections

A catalog keeps the projections of every record type that was looked up. They are built at
the first look-up and stay the same from then on. The catalog also deals out the identities of
parameters, so that no two record types share one.
-/

namespace RecordQuery

/-- The projections built so far, by the name of the record type, and the identity that is
    dealt out next. -/
structure Catalog where
  tables : List (String × Projections) := []
  next : Nat := 0

namespace Catalog

/-- The number of record types looked up so far. -/
def size (catalog : Catalog) : Nat :=
  catalog.tables.length

/-- Whether no record type was looked up yet. -/
def isEmpty (catalog : Catalog) : Bool :=
  catalog.tables.isEmpty

/-- An identity not dealt out before. -/
def freshId (catalog : Catalog) : Nat × Catalog :=
  (catalog.next, { catalog with next := catalog.next + 1 })

/-- The projections of a record type, built if it was not looked up before. -/
def lookup (catalog : Catalog) (type : RecordType) : Projections × Catalog :=
  match catalog.tables.lookup type.name with
  | some projections => (projections, catalog)
  | none =>
      let projections := Projections.ofType type catalog.next
      (projections,
        { tables := catalog.tables ++ [(type.name, projections)], next := catalog.next + 1 })

end Catalog

end RecordQuery
