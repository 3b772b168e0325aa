import RecordQuery.Proofs.Sql.Token

/-!
# Reading SQL conditions

A database reads the tokens of a condition as a tree, by the precedence of the standard: comparisons
and the other tests bind more tightly than `NOT`, which binds more tightly than `AND`, which binds
more tightly than `OR`. What has been read so far is a stack of operators and brackets that wait for
their right sides or ends. An operator takes the operand in front of it only after everything on the
stack that binds at least as tightly.
-/

namespace RecordQuery

/-- A constant in a condition. -/
inductive SqlLiteral where
  | null
  | truth (value : Bool)
  | text (content : String)
  | number (negative : Bool) (digits : String)
  deriving DecidableEq

/-- What a condition is read as; parentheses leave no trace. Only what a condition may have in it is
    a tree, so reading a text that has anything else gives none. -/
inductive SqlTree where
  | column (name : String)
  | literal (value : SqlLiteral)
  | compare (relation : Relation) (left right : SqlTree)
  | and (left right : SqlTree)
  | or (left right : SqlTree)
  | not (operand : SqlTree)
  | isNull (operand : SqlTree)
  | isNotNull (operand : SqlTree)
  | coalesce (first second : SqlTree)
  | month (operand : SqlTree)
  | like (subject : SqlTree) (pattern escape : String)
  | within (item : SqlTree) (members : List SqlLiteral)
  deriving DecidableEq

namespace SqlTree

/-- An operator that waits for its right side, or a bracket that waits for its end. They wait on a
    stack, the last one in front. -/
inductive Frame where
  | or (left : SqlTree)
  | and (left : SqlTree)
  | not
  | compare (relation : Relation) (left : SqlTree)
  /-- A parenthesis. -/
  | opening
  /-- The first argument of a coalescing. -/
  | coalesce
  /-- The second argument of a coalescing. -/
  | coalesceWith (first : SqlTree)
  /-- The date that a month is extracted from. -/
  | extract

namespace Frame

/-- How tightly an operator binds. -/
def strength : Frame → Nat
  | or _ => 1
  | and _ => 2
  | not => 3
  | compare _ _ => 4
  | opening | coalesce | coalesceWith _ | extract => 0

/-- An operator with its right side; a bracket needs its end first. -/
def complete? : Frame → SqlTree → Option SqlTree
  | or left, right => some (.or left right)
  | and left, right => some (.and left right)
  | not, operand => some (.not operand)
  | compare relation left, right => some (.compare relation left right)
  | _, _ => none

end Frame

/-- Completes the operators that wait last and bind at least so tightly. It stops at a bracket,
    which only its own end completes. -/
def reduce (level : Nat) : List Frame → SqlTree → List Frame × SqlTree
  | [], tree => ([], tree)
  | frame :: rest, tree =>
      match frame.complete? tree with
      | some whole =>
          if level ≤ frame.strength then reduce level rest whole else (frame :: rest, tree)
      | none => (frame :: rest, tree)

/-- What may come next. Reading is a state machine, and this is its state apart from the stack. -/
inductive Focus where
  /-- An operand. -/
  | operand
  /-- The digits behind a minus sign. -/
  | signed
  /-- An operator or an end, behind an operand. -/
  | behind (tree : SqlTree)
  | is (subject : SqlTree)
  | isNot (subject : SqlTree)
  | like (subject : SqlTree)
  | pattern (subject : SqlTree) (content : String)
  | escape (subject : SqlTree) (content : String)
  | within (item : SqlTree)
  /-- A member of a set, behind those listed so far. -/
  | member (item : SqlTree) (members : List SqlLiteral)
  /-- The digits of a negative member. -/
  | signedMember (item : SqlTree) (members : List SqlLiteral)
  /-- A comma or the end of a set. -/
  | listed (item : SqlTree) (members : List SqlLiteral)
  | coalesce
  | extract
  | extractOpening
  | extractMonth

/-- The constant that a token is by itself. Minus signs are not among them, as they belong to the
    number behind. -/
def literal? : SqlToken → Option SqlLiteral
  | .string content => some (.text content)
  | .number digits => some (.number false digits)
  | .word .NULL => some .null
  | .word .TRUE => some (.truth true)
  | .word .FALSE => some (.truth false)
  | _ => none

/-- A token where an operand begins. A negation sign waits as an operator, and its operand begins
    behind it. -/
def beginOperand (frames : List Frame) (token : SqlToken) : Option (List Frame × Focus) :=
  match literal? token with
  | some value => some (frames, .behind (.literal value))
  | none =>
      match token with
      | .identifier name => some (frames, .behind (.column name))
      | .minus => some (frames, .signed)
      | .word .NOT => some (.not :: frames, .operand)
      | .opening => some (.opening :: frames, .operand)
      | .word .COALESCE => some (frames, .coalesce)
      | .word .EXTRACT => some (frames, .extract)
      | _ => none

/-- A token behind an operand. Everything that binds at least as tightly is completed first, so
    operators lean to the left. -/
def continueBehind (frames : List Frame) (tree : SqlTree) :
    SqlToken → Option (List Frame × Focus)
  | .word .OR =>
      let (rest, left) := reduce 1 frames tree
      some (.or left :: rest, .operand)
  | .word .AND =>
      let (rest, left) := reduce 2 frames tree
      some (.and left :: rest, .operand)
  | .relation relation =>
      let (rest, left) := reduce 4 frames tree
      some (.compare relation left :: rest, .operand)
  | .word .IS =>
      let (rest, subject) := reduce 4 frames tree
      some (rest, .is subject)
  | .word .LIKE =>
      let (rest, subject) := reduce 4 frames tree
      some (rest, .like subject)
  | .word .IN =>
      let (rest, item) := reduce 4 frames tree
      some (rest, .within item)
  | .closing =>
      match reduce 1 frames tree with
      | (.opening :: rest, inner) => some (rest, .behind inner)
      | (.coalesceWith first :: rest, second) => some (rest, .behind (.coalesce first second))
      | (.extract :: rest, source) => some (rest, .behind (.month source))
      | _ => none
  | .comma =>
      match reduce 1 frames tree with
      | (.coalesce :: rest, first) => some (.coalesceWith first :: rest, .operand)
      | _ => none
  | _ => none

/-- What is on the stack, and what may come next, after one more token. There is none if the token
    cannot stand there. -/
def read (state : List Frame × Focus) (token : SqlToken) : Option (List Frame × Focus) :=
  let (frames, focus) := state
  match focus, token with
  | .operand, token => beginOperand frames token
  | .signed, .number digits => some (frames, .behind (.literal (.number true digits)))
  | .behind tree, token => continueBehind frames tree token
  | .is subject, .word .NULL => some (frames, .behind (.isNull subject))
  | .is subject, .word .NOT => some (frames, .isNot subject)
  | .isNot subject, .word .NULL => some (frames, .behind (.isNotNull subject))
  | .like subject, .string content => some (frames, .pattern subject content)
  | .pattern subject content, .word .ESCAPE => some (frames, .escape subject content)
  | .escape subject content, .string mark => some (frames, .behind (.like subject content mark))
  | .within item, .opening => some (frames, .member item [])
  | .member item members, .minus => some (frames, .signedMember item members)
  | .member item members, token =>
      (literal? token).map fun value => (frames, .listed item (members ++ [value]))
  | .signedMember item members, .number digits =>
      some (frames, .listed item (members ++ [.number true digits]))
  | .listed item members, .comma => some (frames, .member item members)
  | .listed item members, .closing => some (frames, .behind (.within item members))
  | .coalesce, .opening => some (.coalesce :: frames, .operand)
  | .extract, .opening => some (frames, .extractOpening)
  | .extractOpening, .word .MONTH => some (frames, .extractMonth)
  | .extractMonth, .word .FROM => some (.extract :: frames, .operand)
  | _, _ => none

/-- The tree that tokens are read as, if they make up one operand with its operators. Brackets that
    are still open at the end make it fail. -/
def ofTokens? (tokens : List SqlToken) : Option SqlTree :=
  match tokens.foldlM read ([], .operand) with
  | some (frames, .behind tree) =>
      match reduce 1 frames tree with
      | ([], whole) => some whole
      | _ => none
  | _ => none

/-- The tree that a text is read as, with the given quote around identifiers. -/
def ofText? (quote : Char) (text : String) : Option SqlTree := do
  ofTokens? (← SqlToken.ofText? quote text)

example : ofText? '"' "\"a\" = 1 OR NOT \"b\" < \"c\" AND TRUE" =
    some (.or (.compare .eq (.column "a") (.literal (.number false "1")))
      (.and (.not (.compare .lt (.column "b") (.column "c"))) (.literal (.truth true)))) := by
  decide +kernel

end SqlTree

end RecordQuery
