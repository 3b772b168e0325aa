import RecordQuery.Compiled
import RecordQuery.Proofs.Literal.Numbers
import RecordQuery.Proofs.Outcome

/-!
# Constants of literals

Beside a property a literal stands for a constant of the property's base type. Its form says which:
a text beside a text is this text, a list its own items, and a truth value, number or date is itself
or what the text writes. A number is rounded for another binary kind and cut off towards zero for an
integer kind. The relations here say so apart from the functions that read literals, and these give
exactly the constants that the relations name.
-/

namespace RecordQuery

/-- The number of an exact kind that a decimal becomes. An integer kind takes what is left of it
    when it is cut off towards zero, an unsigned one only without a minus sign. -/
inductive Decimal.Becomes (decimal : Decimal) : NumberKind → Number → Prop
  | integer {kind : IntegerKind} (signed : kind.signed = true ∨ decimal.negative = false)
      (fits : kind.Holds (towardZero decimal.toRat)) :
      Becomes decimal (.integer kind) (.integer kind (towardZero decimal.toRat) fits)
  | itself : Becomes decimal .decimal (.decimal decimal)

/-- What a number becomes in a kind. In its own kind it is itself, in another binary kind it is
    rounded, and in another exact kind it is what the decimal for it becomes, if there is one. -/
inductive Number.Becomes (number : Number) : NumberKind → Number → Prop
  | itself {kind : NumberKind} (own : number.kind = kind) : Becomes number kind number
  | single (other : number.kind ≠ .single) :
      Becomes number .single (.single (number.toDouble.convert .single))
  | double (other : number.kind ≠ .double) : Becomes number .double (.double number.toDouble)
  | narrowed {kind : NumberKind} {decimal : Decimal} {result : Number} (other : number.kind ≠ kind)
      (made : number.toDecimal? = some decimal) (becomes : decimal.Becomes kind result) :
      Becomes number kind result

namespace Literal

/-- The number of a kind that a text writes between blanks. For a binary kind the text is a binary
    number of 64 bits, and for an exact kind a decimal. -/
inductive Writes (content : String) : NumberKind → Number → Prop
  | single {value : Binary}
      (read : Binary.read? .double (Text.trimChars content.toList) = some value) :
      Writes content .single (.single (value.convert .single))
  | double {value : Binary}
      (read : Binary.read? .double (Text.trimChars content.toList) = some value) :
      Writes content .double (.double value)
  | narrowed {kind : NumberKind} {decimal : Decimal} {number : Number}
      (read : Decimal.read? (Text.trimChars content.toList) = some decimal)
      (becomes : decimal.Becomes kind number) : Writes content kind number

/-- The constant that a literal stands for beside a property of a base type. Texts and lists are
    taken as they are. Only what is written in a text, and numbers of other kinds, come to
    something else. -/
inductive StandsFor : DataType → Literal → Value → Prop
  | text (content : String) : StandsFor .text (.text content) (.text content)
  | texts (items : List String) : StandsFor .text (.texts items) (.texts items)
  | bool (truth : Bool) : StandsFor .bool (.bool truth) (.bool truth)
  | writtenBool {content : String} {truth : Bool}
      (written : Text.lowerAscii (Text.trim content) = Value.boolText truth) :
      StandsFor .bool (.text content) (.bool truth)
  | number {kind : NumberKind} {number constant : Number} (becomes : number.Becomes kind constant) :
      StandsFor (.number kind) (.number number) (.number constant)
  | writtenNumber {kind : NumberKind} {content : String} {constant : Number}
      (written : Writes content kind constant) :
      StandsFor (.number kind) (.text content) (.number constant)
  | ints {kind : NumberKind} (items : List Int) :
      StandsFor (.number kind) (.ints items) (.ints items)
  | date (date : DateTime) : StandsFor .date (.date date) (.date date)
  | writtenDate {content : String} {date : DateTime}
      (written : DateTime.read? (Text.trimChars content.toList) = some date) :
      StandsFor .date (.text content) (.date date)
  | months (items : List Int) : StandsFor .date (.ints items) (.ints items)

end Literal

namespace Number

variable {decimal : Decimal} {kind : NumberKind} {number result : Number}

/-- A decimal is turned into what it becomes in an exact kind. Nothing is rounded on this way: an
    integer kind cuts off what stands behind the point. -/
theorem ofDecimal_eq_some (exact : kind.IsExact) :
    ofDecimal? decimal kind = some result ↔ decimal.Becomes kind result := by
  rcases kind.exact_cases exact with ⟨integerKind, rfl⟩ | rfl
  · rw [ofDecimal_integer_eq_some]
    constructor
    · rintro ⟨signed, fits, rfl⟩
      exact .integer signed fits
    · rintro ⟨signed, fits⟩
      exact ⟨signed, fits, rfl⟩
  · constructor
    · intro made
      cases made
      exact .itself
    · rintro ⟨⟩
      rfl

/-- A decimal becomes numbers of exact kinds only. -/
theorem isExact_of_becomes (becomes : decimal.Becomes kind result) : kind.IsExact := by
  cases becomes with
  | integer => exact NumberKind.isExact_integer _
  | itself => trivial

/-- A number is coerced to what it becomes in the kind. The kinds are told apart as the coercion
    does: its own first, then the binary ones, and the exact ones by way of a decimal. -/
theorem coerce_eq_some : number.coerce? kind = some result ↔ number.Becomes kind result := by
  unfold coerce?
  constructor
  · intro coerced
    by_cases own : number.kind = kind
    · rw [if_pos own] at coerced
      cases coerced
      exact .itself own
    · rw [if_neg own] at coerced
      cases kind with
      | single =>
        cases coerced
        exact .single own
      | double =>
        cases coerced
        exact .double own
      | integer integerKind =>
        obtain ⟨decimal, made, taken⟩ := Option.bind_eq_some_iff.mp coerced
        exact .narrowed own made ((ofDecimal_eq_some (NumberKind.isExact_integer _)).mp taken)
      | decimal =>
        obtain ⟨decimal, made, taken⟩ := Option.bind_eq_some_iff.mp coerced
        have exact : NumberKind.decimal.IsExact := trivial
        exact .narrowed own made ((ofDecimal_eq_some exact).mp taken)
  · intro becomes
    cases becomes with
    | itself own => rw [if_pos own]
    | single other =>
      rw [if_neg other]
      rfl
    | double other =>
      rw [if_neg other]
      rfl
    | narrowed other made becomes =>
      have taken := (ofDecimal_eq_some (isExact_of_becomes becomes)).mpr becomes
      rw [if_neg other]
      cases becomes <;> exact Option.bind_eq_some_iff.mpr ⟨_, made, taken⟩

end Number

namespace Literal

variable {literal : Literal} {content : String} {base : DataType} {kind : NumberKind}
  {constant : Value}

/-- A text is read as a truth value exactly if it is the word for it, apart from blanks around it
    and from its case. No other words stand for truth values. -/
theorem readBool_eq_ok {truth : Bool} : readBool content = .ok truth ↔
    Text.lowerAscii (Text.trim content) = Value.boolText truth := by
  unfold readBool
  split
  · rename_i word
    cases truth <;> simp [word, Value.boolText]
  · rename_i word
    cases truth <;> simp [word, Value.boolText]
  · rename_i noTrue noFalse
    cases truth
    · simpa [Value.boolText] using noFalse
    · simpa [Value.boolText] using noTrue

/-- A literal is read as a date exactly if its trimmed text is one. -/
theorem readDate_eq_ok {date : DateTime} : readDate content = .ok date ↔
    DateTime.read? (Text.trimChars content.toList) = some date :=
  orUnreadable_eq_ok

/-- A number beside a kind is read as what it becomes in the kind. -/
theorem coerceNumber_eq_ok {number result : Number} :
    coerceNumber number kind = .ok result ↔ number.Becomes kind result :=
  orUnreadable_eq_ok.trans Number.coerce_eq_some

/-- A text is read as the number of a kind that it writes. For an exact kind it is read as a decimal
    first, and then as what the decimal becomes. -/
theorem readNumber_eq_ok {number : Number} :
    readNumber content kind = .ok number ↔ Writes content kind number := by
  have binary (kind : NumberKind) {value : Binary} : readDouble content kind = .ok value ↔
      Binary.read? .double (Text.trimChars content.toList) = some value := orUnreadable_eq_ok
  have plain {decimal : Decimal} : readDecimal content = .ok decimal ↔
      Decimal.read? (Text.trimChars content.toList) = some decimal := orUnreadable_eq_ok
  constructor
  · intro outcome
    by_cases exact : kind.IsExact
    · rw [readNumber_eq_bind exact] at outcome
      obtain ⟨decimal, read, narrowed⟩ := bind_eq_ok.mp outcome
      exact .narrowed (plain.mp read)
        ((Number.ofDecimal_eq_some exact).mp (orUnreadable_eq_ok.mp narrowed))
    · cases kind with
      | single =>
        obtain ⟨value, read, rfl⟩ := change_eq_ok.mp outcome
        exact .single ((binary .single).mp read)
      | double =>
        obtain ⟨value, read, rfl⟩ := change_eq_ok.mp outcome
        exact .double ((binary .double).mp read)
      | integer integerKind => exact absurd (NumberKind.isExact_integer _) exact
      | decimal => exact absurd trivial exact
  · rintro (read | read | ⟨read, becomes⟩)
    · exact change_eq_ok.mpr ⟨_, (binary .single).mpr read, rfl⟩
    · exact change_eq_ok.mpr ⟨_, (binary .double).mpr read, rfl⟩
    · have target := Number.isExact_of_becomes becomes
      rw [readNumber_exact target (plain.mpr read), orUnreadable_eq_ok]
      exact (Number.ofDecimal_eq_some target).mpr becomes

/-- A literal is read for a base type as the constant that it stands for beside it. Each form is
    read by a function of its own, and the pairs of a form and a type that have none compare with
    nothing. -/
theorem constantFor_eq_ok :
    literal.constantFor? base = .ok (some constant) ↔ StandsFor base literal constant := by
  constructor
  · intro read
    unfold constantFor? at read
    split at read
    case h_3 =>
      obtain ⟨truth, written, same⟩ := change_eq_ok.mp read
      cases same
      exact .writtenBool (readBool_eq_ok.mp written)
    case h_4 =>
      obtain ⟨number, coerced, same⟩ := change_eq_ok.mp read
      cases same
      exact .number (coerceNumber_eq_ok.mp coerced)
    case h_5 =>
      obtain ⟨number, written, same⟩ := change_eq_ok.mp read
      cases same
      exact .writtenNumber (readNumber_eq_ok.mp written)
    case h_7 =>
      obtain ⟨date, written, same⟩ := change_eq_ok.mp read
      cases same
      exact .writtenDate (readDate_eq_ok.mp written)
    case h_11 => cases read
    all_goals
      cases read
      constructor
  · intro standsFor
    cases standsFor with
    | text | texts | bool | ints | date | months => rfl
    | writtenBool written => exact change_eq_ok.mpr ⟨_, readBool_eq_ok.mpr written, rfl⟩
    | number becomes => exact change_eq_ok.mpr ⟨_, coerceNumber_eq_ok.mpr becomes, rfl⟩
    | writtenNumber written => exact change_eq_ok.mpr ⟨_, readNumber_eq_ok.mpr written, rfl⟩
    | writtenDate written => exact change_eq_ok.mpr ⟨_, readDate_eq_ok.mpr written, rfl⟩

end Literal

end RecordQuery
