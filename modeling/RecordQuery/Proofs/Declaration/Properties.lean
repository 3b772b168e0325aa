import Mathlib.Data.List.Induction
import Mathlib.Data.List.Nodup
import RecordQuery.Proofs.Declaration.Attributes

/-!
# Which declarations have properties

A structure with named fields and without lifetimes has properties if the attributes of its fields
are allowed, no two properties share a name and the name of each constant is an identifier. These
are the properties of the fields that are not left out. Everything else has a first fault: the shape
counts before the parameters, these before the fields, the earlier field before the later one, the
attributes of a field before its name, and all of them before the constants.
-/

namespace RecordQuery

namespace DeclaredField

variable {taken : List String} {fields earlier rest : List DeclaredField} {field : DeclaredField}
  {error : DeclarationError}

/-- The fields that are not left out. -/
def kept (fields : List DeclaredField) : List DeclaredField :=
  fields.filter fun field => !field.isSkipped

/-- The names of the properties of fields. -/
def propertyNames (fields : List DeclaredField) : List String :=
  (kept fields).map propertyName

/-- Fields that become properties: all their attributes are allowed, and no two properties share a
    name. -/
structure AreDerivable (fields : List DeclaredField) : Prop where
  allowed : ∀ field ∈ fields, ∀ source ∈ field.attributes, source.IsAllowed
  distinct : (propertyNames fields).Nodup

/-- What is wrong with a field beside names that are taken: the first thing wrong with its
    attributes, or else that its property has one of these names. -/
inductive Fault (taken : List String) (field : DeclaredField) : DeclarationError → Prop
  | attributes {error : DeclarationError} (faulty : field.fault? = some error) :
      Fault taken field error
  | duplicate (faultless : field.fault? = none) (kept : field.isSkipped = false)
      (again : field.propertyName ∈ taken) : Fault taken field (.duplicate field.propertyName)

/-- The first thing wrong with fields: what is wrong with one of them beside the names of those
    before it, with which nothing is wrong. -/
def FirstFault (fields : List DeclaredField) (error : DeclarationError) : Prop :=
  ∃ earlier field later, fields = earlier ++ field :: later ∧ AreDerivable earlier ∧
    field.Fault (propertyNames earlier) error

/-- Of two lists of fields, those that stay are the ones of both. -/
@[simp] theorem kept_append (earlier rest : List DeclaredField) :
    kept (earlier ++ rest) = kept earlier ++ kept rest :=
  List.filter_append ..

/-- The property names of two lists of fields are those of both. -/
@[simp] theorem propertyNames_append (earlier rest : List DeclaredField) :
    propertyNames (earlier ++ rest) = propertyNames earlier ++ propertyNames rest := by
  simp [propertyNames]

/-- A field that is left out is not among those that stay. -/
theorem kept_of_skipped (skipped : field.isSkipped = true) (rest : List DeclaredField) :
    kept (field :: rest) = kept rest := by
  simp [kept, skipped]

/-- A field that is not left out stays in front of the others. -/
theorem kept_of_stays (stays : field.isSkipped = false) (rest : List DeclaredField) :
    kept (field :: rest) = field :: kept rest := by
  simp [kept, stays]

/-- Nothing is wrong with a field exactly if its attributes are allowed and its property, if it has
    one, has none of the names. A field that is left out takes no name and may repeat one. -/
theorem no_fault_iff : (¬ ∃ error, field.Fault taken error) ↔
    (∀ source ∈ field.attributes, source.IsAllowed) ∧
      (field.isSkipped = false → field.propertyName ∉ taken) := by
  rw [← fault_eq_none]
  constructor
  · intro none
    have faultless : field.fault? = .none :=
      Option.eq_none_iff_forall_ne_some.mpr fun error faulty => none ⟨error, .attributes faulty⟩
    exact ⟨faultless, fun stays again => none ⟨_, .duplicate faultless stays again⟩⟩
  · rintro ⟨faultless, fresh⟩ ⟨_, faulty | ⟨-, stays, again⟩⟩
    · exact Option.some_ne_none _ (faulty.symm.trans faultless)
    · exact fresh stays again

/-- Names stay distinct with one more behind them exactly if it is a new one. Fields that are left
    out have no name in this list. -/
theorem nodup_propertyNames_append_singleton :
    (propertyNames (earlier ++ [field])).Nodup ↔ (propertyNames earlier).Nodup ∧
      (field.isSkipped = false → field.propertyName ∉ propertyNames earlier) := by
  rw [propertyNames_append]
  cases skipped : field.isSkipped with
  | true =>
    have none : propertyNames [field] = [] := by simp [propertyNames, kept, skipped]
    simp [none]
  | false =>
    have one : propertyNames [field] = [field.propertyName] := by
      simp [propertyNames, kept, skipped]
    rw [one, List.nodup_append_comm, List.singleton_append, List.nodup_cons]
    simp [and_comm]

/-- Fields become properties with one more behind them exactly if nothing is wrong with it. The
    condition on the names is about those before it, so it can be decided field by field. -/
theorem areDerivable_append_singleton : AreDerivable (earlier ++ [field]) ↔
    AreDerivable earlier ∧ ¬ ∃ error, field.Fault (propertyNames earlier) error := by
  rw [no_fault_iff]
  constructor
  · rintro ⟨allowed, distinct⟩
    rw [List.forall_mem_append, List.forall_mem_singleton] at allowed
    obtain ⟨distinctEarlier, fresh⟩ := nodup_propertyNames_append_singleton.mp distinct
    exact ⟨⟨allowed.1, distinctEarlier⟩, allowed.2, fresh⟩
  · rintro ⟨derivable, allowed, fresh⟩
    refine ⟨?_, nodup_propertyNames_append_singleton.mpr ⟨derivable.distinct, fresh⟩⟩
    rw [List.forall_mem_append, List.forall_mem_singleton]
    exact ⟨derivable.allowed, allowed⟩

/-- What is wrong with a field is so beside more names too. -/
theorem Fault.mono {more : List String} (fault : field.Fault taken error)
    (within : taken ⊆ more) : field.Fault more error := by
  cases fault with
  | attributes faulty => exact .attributes faulty
  | duplicate faultless stays again => exact .duplicate faultless stays (within again)

/-- Fields become properties, or else there is a first thing wrong with them. That the two exclude
    each other follows from the model having one outcome. -/
theorem areDerivable_or_firstFault (fields : List DeclaredField) :
    AreDerivable fields ∨ ∃ error, FirstFault fields error := by
  -- From the end: the last field counts only if nothing is wrong with those before it.
  induction fields using List.reverseRecOn with
  | nil => exact .inl ⟨fun field member => absurd member List.not_mem_nil, List.nodup_nil⟩
  | append_singleton earlier field inductionHypothesis =>
    rcases inductionHypothesis with derivable | ⟨error, before, faulty, later, rfl, fault⟩
    · by_cases fault : ∃ error, field.Fault (propertyNames earlier) error
      · obtain ⟨error, fault⟩ := fault
        exact .inr ⟨error, earlier, field, [], rfl, derivable, fault⟩
      · exact .inl (areDerivable_append_singleton.mpr ⟨derivable, fault⟩)
    · exact .inr ⟨error, before, faulty, later ++ [field], by simp, fault⟩

open DerivedProperty (ofField? ofFields)

/-- A field that is left out has no part in the properties. -/
theorem ofFields_skipped (faultless : field.fault? = none) (skipped : field.isSkipped = true)
    (taken : List String) (rest : List DeclaredField) :
    ofFields taken (field :: rest) = ofFields taken rest := by
  rw [ofFields, ofField_eq, faultless, skipped]
  rfl

/-- A field with a new name becomes a property, and its name is taken for the rest. Whatever is
    wrong with the rest is still its error. -/
theorem ofFields_fresh (faultless : field.fault? = none) (stays : field.isSkipped = false)
    (fresh : field.propertyName ∉ taken) (rest : List DeclaredField) :
    ofFields taken (field :: rest) =
      (field.property :: ·) <$> ofFields (field.propertyName :: taken) rest := by
  rw [ofFields, ofField_eq, faultless, stays]
  have absent : taken.contains field.property.name = false := by simpa [property] using fresh
  show (if taken.contains field.property.name = true then _ else _) = _
  rw [absent]
  rfl

/-- What is wrong with a field is the error of the fields from there on. What follows is not looked
    at. -/
theorem ofFields_of_fault (fault : field.Fault taken error) (rest : List DeclaredField) :
    ofFields taken (field :: rest) = .error error := by
  rw [ofFields, ofField_eq]
  cases fault with
  | attributes faulty =>
    rw [faulty]
    rfl
  | duplicate faultless stays again =>
    rw [faultless, stays]
    have present : taken.contains field.property.name = true := List.contains_iff_mem.mpr again
    show (if taken.contains field.property.name = true then _ else _) = _
    rw [present]
    rfl

/-- Fields that become properties do so, whatever follows them, and their names are taken for it.
    The names taken before must be others, since a field among these may repeat none of them. -/
theorem ofFields_append (derivable : AreDerivable earlier)
    (fresh : (propertyNames earlier).Disjoint taken) (rest : List DeclaredField) :
    ofFields taken (earlier ++ rest) = ((kept earlier).map property ++ ·) <$>
      ofFields ((propertyNames earlier).reverse ++ taken) rest := by
  -- Each name is put in front of those taken, so they stand the other way round.
  induction earlier generalizing taken with
  | nil => exact (id_map _).symm
  | cons field earlier inductionHypothesis =>
    obtain ⟨allowed, distinct⟩ := derivable
    obtain ⟨allowedHere, allowedLater⟩ := List.forall_mem_cons.mp allowed
    have faultless := fault_eq_none.mpr allowedHere
    rw [List.cons_append]
    cases stays : field.isSkipped with
    | true =>
      rw [ofFields_skipped faultless stays]
      rw [propertyNames, kept_of_skipped stays] at distinct fresh ⊢
      exact inductionHypothesis ⟨allowedLater, distinct⟩ fresh
    | false =>
      rw [propertyNames, kept_of_stays stays, List.map_cons] at distinct fresh ⊢
      obtain ⟨new, distinctLater⟩ := List.nodup_cons.mp distinct
      obtain ⟨newHere, freshLater⟩ := List.disjoint_cons_left.mp fresh
      rw [ofFields_fresh faultless stays newHere,
        inductionHypothesis ⟨allowedLater, distinctLater⟩
          (List.disjoint_cons_right.mpr ⟨new, freshLater⟩),
        List.map_cons, List.reverse_cons, List.append_assoc, ← comp_map]
      rfl

/-- Fields with which nothing is wrong have the properties of those that are not left out. -/
theorem ofFields_of_derivable (derivable : AreDerivable fields) :
    ofFields [] fields = .ok ((kept fields).map property) := by
  have whole := ofFields_append derivable (List.disjoint_nil_right _) []
  rw [List.append_nil] at whole
  rw [whole, ofFields]
  simp

/-- The first thing wrong with fields is their error. -/
theorem ofFields_of_firstFault (fault : FirstFault fields error) :
    ofFields [] fields = .error error := by
  obtain ⟨earlier, field, later, rfl, derivable, fault⟩ := fault
  have within : propertyNames earlier ⊆ (propertyNames earlier).reverse ++ [] := by simp
  rw [ofFields_append derivable (List.disjoint_nil_right _), ofFields_of_fault (fault.mono within)]
  rfl

end DeclaredField

namespace Declaration

variable {declaration : Declaration} {error : DeclarationError}

/-- A declaration whose properties can be derived, as far as its shape, its parameters and its
    fields are concerned. -/
structure IsDerivable (declaration : Declaration) : Prop where
  shape : declaration.shape = .fields
  lasting : ∀ parameter ∈ declaration.generics, parameter.isLifetime = false
  fields : DeclaredField.AreDerivable declaration.fields

/-- The names of the constants, in the order of the fields. -/
def constantNames (declaration : Declaration) : List String :=
  (DeclaredField.propertyNames declaration.fields).map DerivedProperty.constantName

/-- The first thing wrong with a declaration, in the order shape, parameters, fields, constants. The
    fields are only looked at when shape and parameters are in order, and the constants when the
    fields are. -/
inductive Fails (declaration : Declaration) : DeclarationError → Prop
  | unnamed (shape : declaration.shape = .positions ∨ declaration.shape = .unit) :
      Fails declaration .unnamedFields
  | unstructured (shape : declaration.shape = .variants ∨ declaration.shape = .union) :
      Fails declaration .notStructure
  | lifetime (shape : declaration.shape = .fields) {parameter : GenericParameter}
      (member : parameter ∈ declaration.generics) (lifetime : parameter.isLifetime = true) :
      Fails declaration .lifetime
  | field {error : DeclarationError} (shape : declaration.shape = .fields)
      (lasting : ∀ parameter ∈ declaration.generics, parameter.isLifetime = false)
      (fault : DeclaredField.FirstFault declaration.fields error) : Fails declaration error
  | constant {name : String} (derivable : declaration.IsDerivable)
      (first : declaration.constantNames.find? (fun name => !Text.isIdentifier name.toList) =
        some name) : Fails declaration (.notIdentifier name)

/-- The constants are checked one after the other. The error is the first name that is no
    identifier. -/
theorem forM_checkConstant (properties : List DerivedProperty) :
    properties.forM DerivedProperty.checkConstant =
      unlessFault (((properties.map (DerivedProperty.constantName ·.name)).find?
        fun name => !Text.isIdentifier name.toList).map .notIdentifier) () := by
  induction properties with
  | nil => rfl
  | cons property rest inductionHypothesis =>
    rw [List.forM_eq_forM, List.forM_cons, DerivedProperty.checkConstant, List.map_cons]
    cases legal : Text.isIdentifier (DerivedProperty.constantName property.name).toList with
    | true =>
      rw [List.find?_cons_of_neg (by simp [legal])]
      exact inductionHypothesis
    | false =>
      rw [List.find?_cons_of_pos (by simp [legal])]
      rfl

/-- A structure without lifetimes has the properties of its fields, unless a constant cannot have
    its name. This is what is left of the model once the first two checks have passed. -/
theorem properties_of_structure (shape : declaration.shape = .fields)
    (lasting : ∀ parameter ∈ declaration.generics, parameter.isLifetime = false) :
    declaration.properties = (do
      let properties ← DerivedProperty.ofFields [] declaration.fields
      properties.forM DerivedProperty.checkConstant
      return properties) := by
  have free : declaration.generics.any GenericParameter.isLifetime = false :=
    List.any_eq_false.mpr fun parameter member => by simp [lasting parameter member]
  rw [properties, checkShape, checkGenerics, shape, free]
  rfl

/-- The outcome for a declaration whose shape, parameters and fields are in order depends on its
    constants alone. The properties are found before the constants are looked at. -/
theorem properties_of_derivable (derivable : declaration.IsDerivable) :
    declaration.properties = unlessFault
      ((declaration.constantNames.find? fun name => !Text.isIdentifier name.toList).map
        .notIdentifier)
      ((DeclaredField.kept declaration.fields).map DeclaredField.property) := by
  have names : ((DeclaredField.kept declaration.fields).map DeclaredField.property).map
      (DerivedProperty.constantName ·.name) = declaration.constantNames := by
    simp [constantNames, DeclaredField.propertyNames, DeclaredField.property]
  rw [properties_of_structure derivable.shape derivable.lasting,
    DeclaredField.ofFields_of_derivable derivable.fields]
  show (List.forM _ DerivedProperty.checkConstant >>= fun _ => _) = _
  rw [forM_checkConstant, names]
  cases declaration.constantNames.find? fun name => !Text.isIdentifier name.toList <;> rfl

/-- The first thing wrong with a declaration is its error. The cases are those of the definition, in
    the order in which the program gets to them. -/
theorem properties_of_fails (fails : declaration.Fails error) :
    declaration.properties = .error error := by
  cases fails with
  | unnamed shape =>
    rw [properties, checkShape]
    rcases shape with shape | shape <;> rw [shape] <;> rfl
  | unstructured shape =>
    rw [properties, checkShape]
    rcases shape with shape | shape <;> rw [shape] <;> rfl
  | lifetime shape member lifetime =>
    have bound : declaration.generics.any GenericParameter.isLifetime = true :=
      List.any_eq_true.mpr ⟨_, member, lifetime⟩
    rw [properties, checkShape, checkGenerics, shape, bound]
    rfl
  | field shape lasting fault =>
    rw [properties_of_structure shape lasting, DeclaredField.ofFields_of_firstFault fault]
    rfl
  | constant derivable first =>
    rw [properties_of_derivable derivable, first]
    rfl

/-- A derivable declaration with constants that can have their names has the properties of the
    fields that are not left out. ASCII names are enough for this, but other names may have such
    constants too. -/
theorem properties_of_named (derivable : declaration.IsDerivable)
    (named : ∀ name ∈ declaration.constantNames, Text.isIdentifier name.toList = true) :
    declaration.properties =
      .ok ((DeclaredField.kept declaration.fields).map DeclaredField.property) := by
  have none : declaration.constantNames.find? (fun name => !Text.isIdentifier name.toList) = none :=
    List.find?_eq_none.mpr fun name member => by simp [named name member]
  rw [properties_of_derivable derivable, none]
  rfl

/-- A declaration is derivable with constants that can have their names, or something is first wrong
    with it. The case split follows the order of the checks. -/
theorem named_or_fails (declaration : Declaration) :
    (declaration.IsDerivable ∧
      ∀ name ∈ declaration.constantNames, Text.isIdentifier name.toList = true) ∨
      ∃ error, declaration.Fails error := by
  by_cases shape : declaration.shape = .fields
  · by_cases lasting : ∀ parameter ∈ declaration.generics, parameter.isLifetime = false
    · rcases DeclaredField.areDerivable_or_firstFault declaration.fields with
        fields | ⟨error, fault⟩
      · have derivable : declaration.IsDerivable := ⟨shape, lasting, fields⟩
        cases first : declaration.constantNames.find? fun name =>
            !Text.isIdentifier name.toList with
        | none =>
          refine .inl ⟨derivable, fun name member => ?_⟩
          simpa using List.find?_eq_none.mp first name member
        | some name => exact .inr ⟨_, .constant derivable first⟩
      · exact .inr ⟨error, .field shape lasting fault⟩
    · simp only [not_forall, Bool.not_eq_false] at lasting
      obtain ⟨parameter, member, lifetime⟩ := lasting
      exact .inr ⟨_, .lifetime shape member lifetime⟩
  · cases kind : declaration.shape with
    | fields => exact absurd kind shape
    | positions => exact .inr ⟨_, .unnamed (.inl kind)⟩
    | unit => exact .inr ⟨_, .unnamed (.inr kind)⟩
    | variants => exact .inr ⟨_, .unstructured (.inl kind)⟩
    | union => exact .inr ⟨_, .unstructured (.inr kind)⟩

/-- Exactly the derivable declarations with constants that can have their names have properties,
    which are those of the fields that are not left out, in their order. That it fails otherwise
    follows from there being a first thing wrong. -/
theorem properties_eq_ok {properties : List DerivedProperty} :
    declaration.properties = .ok properties ↔ declaration.IsDerivable ∧
      (∀ name ∈ declaration.constantNames, Text.isIdentifier name.toList = true) ∧
      properties = (DeclaredField.kept declaration.fields).map DeclaredField.property := by
  constructor
  · intro done
    rcases named_or_fails declaration with ⟨derivable, named⟩ | ⟨error, fails⟩
    · have outcome := properties_of_named derivable named
      exact ⟨derivable, named, Except.ok.inj (done.symm.trans outcome)⟩
    · rw [properties_of_fails fails] at done
      cases done
  · rintro ⟨derivable, named, rfl⟩
    exact properties_of_named derivable named

/-- The error of a declaration is the first thing wrong with it. So each declaration that has no
    properties has one error, which depends on no more than what comes up to it. -/
theorem properties_eq_error : declaration.properties = .error error ↔ declaration.Fails error := by
  constructor
  · intro failed
    rcases named_or_fails declaration with ⟨derivable, named⟩ | ⟨first, fails⟩
    · rw [properties_of_named derivable named] at failed
      cases failed
    · have same := Except.error.inj (failed.symm.trans (properties_of_fails fails))
      exact same ▸ fails
  · exact properties_of_fails

/-- A declaration has the properties of the fields that are not left out, in their order, exactly if
    it is derivable and its constants can have their names. Otherwise its error is the first thing
    wrong with it.

    Proof: either all checks pass, and then the equations for shape, fields and constants give the
    properties, or there is a first check that fails, and then they give its error. As one of the
    two is the case, both hold in the other direction too. -/
theorem properties_or_first_fault (declaration : Declaration) :
    (∀ properties, declaration.properties = .ok properties ↔ declaration.IsDerivable ∧
      (∀ name ∈ declaration.constantNames, Text.isIdentifier name.toList = true) ∧
      properties = (DeclaredField.kept declaration.fields).map DeclaredField.property) ∧
    ∀ error, declaration.properties = .error error ↔ declaration.Fails error :=
  ⟨fun _ => properties_eq_ok, fun _ => properties_eq_error⟩

/-- An attribute that speaks of records without a list is the first fault, even of a field that
    other attributes leave out. -/
example :
    let bare : DeclaredField := ⟨"area", "u32", [⟨"record", .list "skip"⟩, ⟨"record", .word⟩]⟩
    let assigned : DeclaredField := ⟨"area", "u32", [⟨"record", .assignment (.text "x")⟩]⟩
    (properties ⟨.fields, "Land", [], [bare, assigned]⟩).mapError DeclarationError.message =
        .error "expected attribute arguments in parentheses: #[record(...)]" ∧
      (properties ⟨.fields, "Land", [], [assigned, bare]⟩).mapError DeclarationError.message =
        .error "expected parentheses: #[record(...)]" := by
  decide +kernel

/-- A parcel of land with its area under a name with a raised digit. -/
def squareMetres : Declaration where
  shape := .fields
  name := "Land"
  fields := [⟨"area", "u32", [⟨"record", .list "rename = \"m²\""⟩]⟩]

/-- A raised digit is kept in the name of a constant, but no identifier has one, so nothing is
    derived from a declaration that is in order otherwise. It counts as alphanumeric, which is what
    the program asks for, and an identifier takes letters and decimal digits only. -/
theorem squareMetres_breaks_off : squareMetres.IsDerivable ∧
    DerivedProperty.constantName "m²" = "M²" ∧
    squareMetres.properties = .error (.notIdentifier "M²") := by
  have entries : AttributeEntry.readAll "rename = \"m²\"" =
      .ok [.assignment "rename" (.text "m²")] := by decide +kernel
  have allowed : FieldAttribute.IsAllowed ⟨"record", .list "rename = \"m²\""⟩ := fun _ =>
    ⟨_, _, rfl, entries, List.forall_mem_singleton.mpr (.rename (by decide +kernel))⟩
  refine ⟨⟨rfl, fun parameter member => absurd member List.not_mem_nil, ⟨?_, ?_⟩⟩, ?_, ?_⟩
  · exact List.forall_mem_singleton.mpr (List.forall_mem_singleton.mpr allowed)
  · decide +kernel
  · decide +kernel
  · decide +kernel

end Declaration

end RecordQuery
