import Mathlib.Data.List.Nodup

/-!
# Looking up keys

A list of pairs answers a key by the first pair that has it. Keys that occur once are answered by
the only pair that has them, in whatever order the pairs stand. Scopes and replacements answer by
the last pair instead, which is the first one of the reversed list.
-/

namespace RecordQuery

universe u v
variable {κ : Type u} {α : Type v} {pairs : List (κ × α)} {key : κ} {value : α}

/-- Keys that occur once do so in the reversed list. -/
theorem nodup_keys_reverse (distinct : (pairs.map Prod.fst).Nodup) :
    (pairs.reverse.map Prod.fst).Nodup := by
  rw [List.map_reverse]
  exact List.nodup_reverse.mpr distinct

variable [DecidableEq κ]

/-- What a key is answered by stands beside it. -/
theorem mem_of_lookup (found : pairs.lookup key = some value) : (key, value) ∈ pairs := by
  obtain ⟨earlier, later, rfl, -⟩ := List.lookup_eq_some_iff.mp found
  exact List.mem_append_right earlier List.mem_cons_self

/-- Exactly the keys that do not occur have no answer. -/
theorem lookup_eq_none : pairs.lookup key = none ↔ key ∉ pairs.map Prod.fst := by
  rw [List.lookup_eq_none_iff]
  constructor
  · intro others occurs
    obtain ⟨pair, member, rfl⟩ := List.mem_map.mp occurs
    simpa using others pair member
  · intro absent pair member
    rw [bne_iff_ne]
    rintro rfl
    exact absent (List.mem_map_of_mem member)

/-- Where keys occur once, each is answered by what stands beside it. Without this, an earlier pair
    could hide a later one of the same key. -/
theorem lookup_eq_some (distinct : (pairs.map Prod.fst).Nodup) :
    pairs.lookup key = some value ↔ (key, value) ∈ pairs := by
  refine ⟨mem_of_lookup, fun member => ?_⟩
  cases found : pairs.lookup key with
  | none => exact absurd (List.mem_map_of_mem member) (lookup_eq_none.mp found)
  | some other =>
    have same := List.inj_on_of_nodup_map distinct (mem_of_lookup found) member rfl
    rw [(Prod.mk.inj same).2]

end RecordQuery
