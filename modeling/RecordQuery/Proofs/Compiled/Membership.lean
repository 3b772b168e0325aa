import RecordQuery.Proofs.Compiled.Meaning
import RecordQuery.Proofs.Request.FilterText

/-!
# Membership filters in text

A membership filter in text lists its items behind the name of a property. What kind of list this
is, the items alone decide, before the property is known. On a property with texts the filter holds
of the records whose text is one of the items, as long as one of the items is no integer; if all of
them are, the list is one of integers, which no text is compared with, and the filter is dropped.
-/

namespace RecordQuery

/-- The text of a membership filter on a named property. -/
def Filter.membershipText (name : String) (items : List String) : String :=
  name ++ ":in:" ++ ",".intercalate items

/-- A list of items in text is read by whether all of them are integers. One item that is no integer
    makes texts of all the others, in the form in which they were written. -/
theorem Literal.readList_intercalate {items : List String}
    (each : ∀ item ∈ items, IsListItem item) :
    readList (",".intercalate items) =
      match items.mapM readItem? with
      | some values => ints values
      | none => texts items := by
  have parts := items_intercalate each
  cases read : items.mapM readItem? with
  | none => simp [readList, parts, read]
  | some values => simp [readList, parts, read]

/-- The text of a membership filter is read as one on the named property. The name has no colon, so
    the first two colons are those between the three parts, whatever the items are. -/
theorem Filter.read_membershipText {name : String} (compact : IsCompactName name)
    (items : List String) :
    read (membershipText name items) =
      .ok ⟨some name, .isIn, Literal.readList (",".intercalate items)⟩ := by
  have spelled : membershipText name items =
      name ++ ":" ++ Comparison.isIn.name ++ ":" ++ ",".intercalate items := by
    rw [← String.toList_inj]
    simp [membershipText, Comparison.name]
  have parts : parts? (membershipText name items) =
      some (name, Comparison.isIn.name, ",".intercalate items) := by
    rw [spelled]
    exact parts_append _ compact.2.2 (Comparison.colon_not_mem_name _)
  exact read_eq_ok.mpr ⟨_, _, _, parts, Comparison.ofName_name _, compact.nonBlank.symm, rfl⟩

namespace Compiled

variable {type : RecordType} {id : Nat} {projections : Projections} {projection : Projection}

/-- A compact name leads a filter to what is projected under it. -/
theorem resolve_property {name : String} (compact : Filter.IsCompactName name)
    (projections : Projections) (comparison : Comparison) (literal : Literal) :
    projections.resolve? (Filter.property? ⟨some name, comparison, literal⟩) =
      projections.get? name := by
  simp [Filter.property?, Projections.resolve?, compact.nonBlank]

/-- A filter with a compact name is compiled for the projection that the name leads to. -/
theorem ofFilter_named {name : String} (compact : Filter.IsCompactName name)
    (found : projections.get? name = some projection) (comparison : Comparison)
    (literal : Literal) :
    ofFilter projections ⟨some name, comparison, literal⟩ =
      ofProjection projection comparison literal := by
  rw [ofFilter, ofParts, resolve_property compact, found]

/-- Texts have a membership test in a list of texts. -/
theorem ofProjection_texts (isText : projection.type.base = .text) (items : List String) :
    ofProjection projection .isIn (.texts items) =
      .ok (ready ⟨projection.parameter,
        .call .inSet [.ofValue (.texts items), projection.body]⟩) :=
  ofProjection_list (by rw [isText]; rfl) (.inr ⟨items, rfl⟩) (by simp [isText])

/-- Texts are not compared with a list of integers. -/
theorem ofProjection_ints (isText : projection.type.base = .text) (comparison : Comparison)
    (values : List Int) :
    ofProjection projection comparison (.ints values) =
      .ok (dropped (.mismatch "int list" projection.type)) := by
  simp [ofProjection, isText, Literal.constantFor?, Literal.form]
  rfl

/-- A value is an item of a list of texts when it is one of the texts. -/
theorem accepts_texts {items : List String} {value : Value} :
    Comparison.isIn.Accepts (.texts items) value ↔ ∃ item ∈ items, value = .text item := by
  cases value <;> simp [Comparison.Accepts, Value.IsItem]

/-- A membership filter in text, on a property with texts, holds of exactly the records whose value
    is one of the items, provided that one of the items is no integer. It is dropped if all of them
    are, whatever the texts of the records.

    Proof: the text is read back into the list, as texts if one item is no integer and as integers
    otherwise. A list of texts is compiled to a membership test beside a text, and one of integers
    is a mismatch there. -/
theorem typed_membership_iff_item {name : String} (compact : Filter.IsCompactName name)
    (found : (Projections.ofType type id).get? name = some projection)
    (isText : projection.type.base = .text) {items : List String}
    (each : ∀ item ∈ items, Literal.IsListItem item) :
    ∃ filter, Filter.read (Filter.membershipText name items) = .ok filter ∧
      ((∃ item ∈ items, Literal.readItem? item = none) →
        ∃ predicate, ofFilter (.ofType type id) filter = .ok (ready predicate) ∧
          ∀ record value, projection.Reads record value →
            ∃ holds, predicate.evaluate record = .ok holds ∧
              (holds = true ↔ ∃ item ∈ items, value = .text item)) ∧
      ((∀ item ∈ items, Literal.readItem? item ≠ none) →
        ofFilter (.ofType type id) filter =
          .ok (dropped (.mismatch "int list" projection.type))) := by
  refine ⟨_, Filter.read_membershipText compact items, fun other => ?_, fun integers => ?_⟩
  · rw [Literal.readList_intercalate each, mapM_eq_none.mpr other]
    have compiled : ofFilter (.ofType type id) ⟨some name, .isIn, .texts items⟩ = _ :=
      (ofFilter_named compact found .isIn _).trans (ofProjection_texts isText items)
    refine ⟨_, compiled, fun record value reads => ?_⟩
    obtain ⟨resolved, constant, located, read, decides⟩ := decides_of_ready compiled
    obtain rfl : resolved = projection :=
      Option.some.inj (located.symm.trans ((resolve_property compact _ _ _).trans found))
    obtain rfl : constant = .texts items := by
      simpa [isText, Literal.constantFor?, eq_comm] using read
    obtain ⟨holds, evaluated, same⟩ := decides record value reads
    exact ⟨holds, evaluated, same.trans accepts_texts⟩
  · obtain ⟨values, read⟩ : ∃ values, items.mapM Literal.readItem? = some values := by
      refine Option.ne_none_iff_exists'.mp fun failed => ?_
      obtain ⟨item, member, unread⟩ := mapM_eq_none.mp failed
      exact integers item member unread
    rw [Literal.readList_intercalate each, read]
    exact (ofFilter_named compact found .isIn _).trans (ofProjection_ints isText .isIn values)

/-- Records with a text that may be missing. -/
def tagged : RecordType :=
  ⟨"Tagged", .ok [⟨"tag", .nullable .text⟩], none⟩

/-- An item that is no integer keeps an integer beside it a text. So the text of the number is
    compared, and not the number. -/
theorem typed_membership_of_mixed_items :
    let projection : Projection :=
      .ofMember (Projections.sharedParameter tagged 0)
        ⟨"Tagged", "tag", .nullable .text, .position 0⟩
    Filter.IsCompactName "tag" ∧
      (Projections.ofType tagged 0).get? "tag" = some projection ∧
      projection.type.base = .text ∧
      (∀ item ∈ ["7", "red:1"], Literal.IsListItem item) ∧
      ∃ filter predicate, Filter.read "tag:in:7,red:1" = .ok filter ∧
        ofFilter (.ofType tagged 0) filter = .ok (ready predicate) ∧
        predicate.evaluate ⟨"Tagged", [.text "7"], none⟩ = .ok true ∧
        predicate.evaluate ⟨"Tagged", [.text "07"], none⟩ = .ok false ∧
        predicate.evaluate ⟨"Tagged", [.null], none⟩ = .ok false := by
  intro projection
  have compact : Filter.IsCompactName "tag" := ⟨by decide, by decide +kernel, by decide⟩
  have found : (Projections.ofType tagged 0).get? "tag" = some projection := rfl
  have isText : projection.type.base = .text := rfl
  have each : ∀ item ∈ ["7", "red:1"], Literal.IsListItem item := by
    intro item member
    rcases List.mem_pair.mp member with rfl | rfl <;>
      exact ⟨by decide, by decide +kernel, by decide⟩
  obtain ⟨filter, read, mixed, -⟩ := typed_membership_iff_item compact found isText each
  obtain ⟨predicate, compiled, decides⟩ :=
    mixed ⟨"red:1", by simp, by decide +kernel⟩
  have outcome (value : Value) (typed : value.type? = some .text ∨ value = .null)
      (holds : Bool) (belongs : holds = true ↔ ∃ item ∈ ["7", "red:1"], value = .text item) :
      predicate.evaluate ⟨"Tagged", [value], none⟩ = .ok holds := by
    obtain ⟨found, evaluated, same⟩ := decides ⟨"Tagged", [value], none⟩ value ⟨rfl, typed⟩
    rw [evaluated, Bool.eq_iff_iff.mpr (same.trans belongs.symm)]
  refine ⟨compact, found, isText, each, filter, predicate, read, compiled, ?_, ?_, ?_⟩
  · exact outcome (.text "7") (.inl rfl) true (by simp)
  · exact outcome (.text "07") (.inl rfl) false (by simp)
  · exact outcome .null (.inr rfl) false (by simp)

/-- Two properties with texts are out of the reach of some lists: the first compares with no list of
    integers, and the name of the last leads to the property declared before it. In both cases the
    filter is read, and dropped when it is compiled. -/
theorem typed_membership_dropped :
    let type : RecordType :=
      ⟨"Tagged", .ok [⟨"tag", .text⟩, ⟨"code", .number .decimal⟩, ⟨"code", .text⟩], none⟩
    (∀ name ∈ ["tag", "code"], Filter.IsCompactName name) ∧
      (∀ item ∈ ["1", "2", "a"], Literal.IsListItem item) ∧
      (∃ filter, Filter.read (Filter.membershipText "tag" ["1", "2"]) = .ok filter ∧
        ofFilter (.ofType type 0) filter = .ok (dropped (.mismatch "int list" .text))) ∧
      ∃ filter, Filter.read (Filter.membershipText "code" ["a"]) = .ok filter ∧
        ofFilter (.ofType type 0) filter =
          .ok (dropped (.mismatch "text list" (.number .decimal))) := by
  intro type
  have names : ∀ name ∈ ["tag", "code"], Filter.IsCompactName name := by
    intro name member
    rcases List.mem_pair.mp member with rfl | rfl <;>
      exact ⟨by decide, by decide +kernel, by decide⟩
  have items : ∀ item ∈ ["1", "2", "a"], Literal.IsListItem item := by
    intro item member
    simp only [List.mem_cons, List.not_mem_nil, or_false] at member
    rcases member with rfl | rfl | rfl <;>
      exact ⟨by decide, by decide +kernel, by decide⟩
  have integers : Filter.read (Filter.membershipText "tag" ["1", "2"]) =
      .ok ⟨some "tag", .isIn, .ints [1, 2]⟩ := by decide +kernel
  have texts : Filter.read (Filter.membershipText "code" ["a"]) =
      .ok ⟨some "code", .isIn, .texts ["a"]⟩ := by decide +kernel
  exact ⟨names, items, ⟨_, integers, rfl⟩, ⟨_, texts, rfl⟩⟩

end Compiled

end RecordQuery
