import Dopl.Proofs.Checker.Frame
import Mathlib.Data.List.Forall2
import Mathlib.Data.Set.Function

/-! # Names, constants and operators that may be exchanged

The checker never looks at how a name is spelled, at the text of a constant or at the particular
operator. If the tokens of a program are exchanged one by one, names by other names throughout, the
checks of both programs go hand in hand:

* **`Token.Counterpart`** — one token may stand where the other one does.
* **`SymbolTable.rename`**, **`State.rename`** — what a renaming makes of a table and of a
  state.
* **`step_counterpart`** — one token keeps the two checks together, **`run_counterpart`** all do.
* **`run_of_counterparts`** — what that makes of a program. -/

namespace Dopl

/-! ## Renamed symbols -/

/-- The symbol under its new name. -/
def Symbol.rename (newName : String → String) (symbol : Symbol) : Symbol :=
  ⟨newName symbol.name, symbol.type⟩

namespace SymbolTable

variable {newName : String → String} {table : SymbolTable} {name : String}

/-- The table with all its symbols under their new names. -/
def rename (newName : String → String) (table : SymbolTable) : SymbolTable :=
  ⟨table.symbols.map (Symbol.rename newName)⟩

/-- No declared name gets the new name of another name. -/
def Distinguishes (table : SymbolTable) (newName : String → String) (name : String) : Prop :=
  ∀ symbol ∈ table.symbols, newName symbol.name = newName name → symbol.name = name

/-- Under its new name, a name is what it was. -/
theorem lookup_rename (apart : table.Distinguishes newName name) :
    (table.rename newName).lookup (newName name) =
      (table.lookup name).map (Symbol.rename newName) := by
  obtain ⟨symbols⟩ := table
  unfold lookup SymbolTable.rename
  dsimp only
  induction symbols with
  | nil => rfl
  | cons symbol rest induction =>
      have same : ((symbol.rename newName).name == newName name) = (symbol.name == name) := by
        rw [Bool.eq_iff_iff, beq_iff_eq, beq_iff_eq]
        exact ⟨apart symbol List.mem_cons_self, congrArg newName⟩
      rw [List.map_cons, List.find?_cons, List.find?_cons, same]
      cases symbol.name == name with
      | true => rfl
      | false =>
          exact induction fun other member => apart other (List.mem_cons_of_mem symbol member)

/-- A name can be declared iff its new name can. -/
theorem declare?_rename (apart : table.Distinguishes newName name) (type : ValueType) :
    (table.rename newName).declare? (newName name) type =
      (table.declare? name type).map (SymbolTable.rename newName) := by
  have same : (table.rename newName).contains (newName name) = table.contains name := by
    rw [contains, lookup_rename apart, Option.isSome_map, contains]
  unfold declare?
  rw [same]
  split
  · rfl
  · simp [insert, SymbolTable.rename, Symbol.rename]

end SymbolTable

/-! ## Exchanged tokens -/

namespace Operator

/-- The operators that join numbers. The minus sign is not among them, since it may also stand
before an operand. -/
def joiningNumbers : List Operator :=
  [.plus, .mul, .div]

/-- The operators that join to a truth value. -/
def joiningToLogical : List Operator :=
  [.and, .or, .eq, .ne, .lt, .gt, .le, .ge]

/-- One text may stand for the other one between dots: both are operators of one list, or none is
an operator at all. -/
inductive Exchangeable : String → String → Prop where
  /-- Both join numbers. -/
  | numbers {operator other : Operator} :
      operator ∈ joiningNumbers → other ∈ joiningNumbers → Exchangeable operator.text other.text
  /-- Both join to a truth value. -/
  | logical {operator other : Operator} :
      operator ∈ joiningToLogical → other ∈ joiningToLogical →
        Exchangeable operator.text other.text
  /-- None is an operator. -/
  | unknown {text other : String} :
      ofText? text = none → ofText? other = none → Exchangeable text other

/-- The operators stand between operands only, and what they join has the same type. -/
structure Alike (operator other : Operator) : Prop where
  /-- The first one does not stand before an operand. -/
  binary : operator.isUnary = false
  /-- Nor does the other one. -/
  otherBinary : other.isUnary = false
  /-- Both join to a truth value, or none does. -/
  yieldsLogical : other.yieldsLogical = operator.yieldsLogical

/-- An operator that does not stand before an operand stands between two. -/
theorem isBinary_of_isUnary {operator : Operator} (binary : operator.isUnary = false) :
    operator.isBinary = true := by
  cases operator <;> first | rfl | cases binary

/-- Operators that join numbers are alike. -/
theorem alike_of_numbers {operator other : Operator} (first : operator ∈ joiningNumbers)
    (second : other ∈ joiningNumbers) : operator.Alike other := by
  have numbers : ∀ operator ∈ joiningNumbers,
      operator.isUnary = false ∧ operator.yieldsLogical = false := by decide
  obtain ⟨binary, yields⟩ := numbers operator first
  obtain ⟨otherBinary, otherYields⟩ := numbers other second
  exact ⟨binary, otherBinary, by rw [yields, otherYields]⟩

/-- Operators that join to a truth value are alike. -/
theorem alike_of_logical {operator other : Operator} (first : operator ∈ joiningToLogical)
    (second : other ∈ joiningToLogical) : operator.Alike other := by
  have logical : ∀ operator ∈ joiningToLogical,
      operator.isUnary = false ∧ operator.yieldsLogical = true := by decide
  obtain ⟨binary, yields⟩ := logical operator first
  obtain ⟨otherBinary, otherYields⟩ := logical other second
  exact ⟨binary, otherBinary, by rw [yields, otherYields]⟩

end Operator

/-- The second token may stand where the first one does: a name under its new name, another integer
constant, a quoted text that is a character constant as well or as little, an operator that may be
exchanged, or the token itself. -/
inductive Token.Counterpart (newName : String → String) : Token → Token → Prop where
  /-- A name under its new name. -/
  | name {text : String} : Counterpart newName ⟨.name, text⟩ ⟨.name, newName text⟩
  /-- Any integer constants. -/
  | integer {text other : String} : Counterpart newName ⟨.integer, text⟩ ⟨.integer, other⟩
  /-- Quoted texts, both of which are character constants or none of which is. -/
  | character {text other : String} :
      isCharacterConstant other = isCharacterConstant text →
        Counterpart newName ⟨.character, text⟩ ⟨.character, other⟩
  /-- Operators that may be exchanged. -/
  | operator {text other : String} :
      Operator.Exchangeable text other → Counterpart newName ⟨.operator, text⟩ ⟨.operator, other⟩
  /-- The token itself, unless it is a name. -/
  | same {token : Token} : token.kind ≠ .name → Counterpart newName token token

/-- What a token and one in its place mean. -/
inductive Lexeme.Counterpart (newName : String → String) : Lexeme → Lexeme → Prop where
  /-- A name and its new name. -/
  | name {name : String} : Counterpart newName (.name name) (.name (newName name))
  /-- Quoted texts that are character constants, or that are none. -/
  | character {text other : String} :
      isCharacterConstant other = isCharacterConstant text →
        Counterpart newName (.character text) (.character other)
  /-- Operators that are alike. -/
  | operator {operator other : Operator} :
      operator.Alike other → Counterpart newName (.operator operator) (.operator other)
  /-- The same, and no name. -/
  | same {lexeme : Lexeme} :
      lexeme.kind? ≠ some .name → Counterpart newName lexeme lexeme

/-- All that the checker can tell of two tokens, one in the place of the other. -/
structure Token.Alike (newName : String → String) (token other : Token) : Prop where
  /-- What they mean. -/
  lexeme : Lexeme.Counterpart newName token.lexeme other.lexeme
  /-- Both end an expression, or none does. -/
  endsExpression : other.endsExpression = token.endsExpression

/-- A token of another kind than a name means no name. -/
theorem kind?_lexeme_ne_name {token : Token} (other : token.kind ≠ .name) :
    token.lexeme.kind? ≠ some .name :=
  fun named => other (kind_of_lexeme named)

/-- The checker cannot tell a token from one in its place by more than a new name. -/
theorem Token.Counterpart.alike {newName : String → String} {token other : Token}
    (counterpart : token.Counterpart newName other) : token.Alike newName other := by
  cases counterpart with
  | name => exact ⟨.name, rfl⟩
  | integer => exact ⟨@Lexeme.Counterpart.same newName .integer (by decide), rfl⟩
  | character same => exact ⟨.character same, rfl⟩
  | operator exchangeable =>
      refine ⟨?_, rfl⟩
      cases exchangeable with
      | @numbers operator other first second =>
          simp only [lexeme, (Operator.ofText?_eq_some_iff _ _).mpr rfl, Option.elim_some]
          exact .operator (Operator.alike_of_numbers first second)
      | @logical operator other first second =>
          simp only [lexeme, (Operator.ofText?_eq_some_iff _ _).mpr rfl, Option.elim_some]
          exact .operator (Operator.alike_of_logical first second)
      | unknown first second =>
          simp only [lexeme, first, second, Option.elim_none]
          exact .same (by decide)
  | same other => exact ⟨.same (kind?_lexeme_ne_name other), rfl⟩

namespace Lexeme.Counterpart

variable {newName : String → String} {lexeme other : Lexeme}

/-- A keyword is only in the place of itself. -/
theorem eq_keyword_iff (counterpart : lexeme.Counterpart newName other) (keyword : Keyword) :
    other = .keyword keyword ↔ lexeme = .keyword keyword := by
  cases counterpart <;> simp

/-- A separator is only in the place of itself. -/
theorem eq_separator_iff (counterpart : lexeme.Counterpart newName other)
    (separator : Separator) : other = .separator separator ↔ lexeme = .separator separator := by
  cases counterpart <;> simp

/-- The arrow is only in the place of itself. -/
theorem eq_assignment_iff (counterpart : lexeme.Counterpart newName other) :
    other = .assignment ↔ lexeme = .assignment := by
  cases counterpart <;> simp

/-- The end of the input is only in the place of itself. -/
theorem eq_endOfInput_iff (counterpart : lexeme.Counterpart newName other) :
    other = .endOfInput ↔ lexeme = .endOfInput := by
  cases counterpart <;> simp

end Lexeme.Counterpart

/-- A token names the same type as one in its place. -/
theorem Token.Alike.valueType? {newName : String → String} {token other : Token}
    (alike : token.Alike newName other) : other.valueType? = token.valueType? := by
  have meaning := alike.lexeme
  unfold Token.valueType?
  generalize token.lexeme = lexeme at meaning
  generalize other.lexeme = otherLexeme at meaning
  cases meaning <;> rfl

namespace Checker

/-! ## Renamed states -/

/-- What a value is wanted for, with the target of an assignment under its new name. -/
def Purpose.rename (newName : String → String) : Purpose → Purpose
  | .assignment target nest => .assignment (target.rename newName) nest
  | purpose => purpose

/-- The reading with a target under its new name. -/
def Reading.rename (newName : String → String) (reading : Reading) : Reading :=
  ⟨reading.innermost, reading.enclosing, reading.purpose.rename newName⟩

/-- The state with the target of an open assignment under its new name. -/
def State.rename (newName : String → String) : State → State
  | .arrow target nest => .arrow (target.rename newName) nest
  | .term reading => .term (reading.rename newName)
  | .operand reading => .operand (reading.rename newName)
  | .operator type enclosing purpose => .operator type enclosing (purpose.rename newName)
  | state => state

/-- A new name opens no body. -/
theorem Purpose.bodies_rename (newName : String → String) (purpose : Purpose) :
    (purpose.rename newName).bodies = purpose.bodies := by
  cases purpose <;> rfl

/-- Under new names a state is nested as deeply as before. -/
theorem State.depth_rename (newName : String → String) (state : State) :
    (state.rename newName).depth = state.depth := by
  cases state with
  | term reading =>
      simp only [rename, depth, openParentheses, openBodies, Reading.rename, Purpose.bodies_rename]
  | operand reading =>
      simp only [rename, depth, openParentheses, openBodies, Reading.rename, Purpose.bodies_rename]
  | operator type enclosing purpose =>
      simp only [rename, depth, openParentheses, openBodies, Purpose.bodies_rename]
  | _ => rfl

/-- Under new names, a value is wanted for a term alone iff it was before. -/
theorem Purpose.rename_beq_term (newName : String → String) (purpose : Purpose) :
    (purpose.rename newName == .term) = (purpose == .term) := by
  cases purpose <;> rfl

/-! ## Moves that go hand in hand -/

/-- Two answers of the same kind: both are complete with the same type, or both are refused by a
fault of the same area. -/
inductive Answer.Counterpart : Answer → Answer → Prop where
  /-- Both are complete. -/
  | accepted {type : Option ValueType} : Counterpart (.accepted type) (.accepted type)
  /-- Both are refused. -/
  | refused {fault other : CheckFault} :
      other.area = fault.area → Counterpart (.refused fault) (.refused other)

/-- Two moves that do the same with their tokens. -/
inductive Move.Counterpart (newName : String → String) : Move → Move → Prop where
  /-- Both tokens are taken, and what follows is the same under new names. -/
  | take {state : State} {symbols : SymbolTable} :
      Counterpart newName (.take state symbols)
        (.take (state.rename newName) (symbols.rename newName))
  /-- Both tokens are the last ones taken. -/
  | takeLast {answer other : Answer} :
      answer.Counterpart other → Counterpart newName (.takeLast answer) (.takeLast other)
  /-- Both tokens are left. -/
  | leave {answer other : Answer} :
      answer.Counterpart other → Counterpart newName (.leave answer) (.leave other)

section

variable {newName : String → String} {token other : Token} {symbols : SymbolTable}

/-- Where a keyword is required, the moves behind it decide. -/
theorem requireKeyword_counterpart (alike : token.Alike newName other) (keyword : Keyword)
    {move otherMove : Move} (moves : move.Counterpart newName otherMove) :
    (requireKeyword keyword token move).Counterpart newName
      (requireKeyword keyword other otherMove) := by
  unfold requireKeyword
  simp only [alike.lexeme.eq_keyword_iff]
  split
  · exact moves
  · exact .leave (.refused rfl)

/-- Where a separator is required, the moves behind it decide. -/
theorem requireSeparator_counterpart (alike : token.Alike newName other) (separator : Separator)
    {move otherMove : Move} (moves : move.Counterpart newName otherMove) :
    (requireSeparator separator token move).Counterpart newName
      (requireSeparator separator other otherMove) := by
  unfold requireSeparator
  simp only [alike.lexeme.eq_separator_iff]
  split
  · exact moves
  · exact .leave (.refused rfl)

/-- Statements end in the same way. -/
theorem endStatement_counterpart (alike : token.Alike newName other) (nest : Nest) :
    (endStatement nest symbols token).Counterpart newName
      (endStatement nest (symbols.rename newName) other) := by
  refine requireSeparator_counterpart alike .semicolon ?_
  split
  · exact .take
  · exact .takeLast .accepted

/-- Lists of statements end in the same way. -/
theorem endList_counterpart (alike : token.Alike newName other) (nest : Nest) :
    (endList nest symbols token).Counterpart newName
      (endList nest (symbols.rename newName) other) := by
  obtain ⟨bodies, outermost⟩ := nest
  unfold endList
  dsimp only
  split
  · split
    · exact requireKeyword_counterpart alike .finish .take
    · exact .leave .accepted
    · exact .leave .accepted
  · split
    · simp only [alike.lexeme.eq_keyword_iff]
      split
      · exact .take
      · exact requireKeyword_counterpart alike .endif .take
    · exact requireKeyword_counterpart alike .endif .take
    · exact requireKeyword_counterpart alike .endloop .take

/-- Statements start in the same way. -/
theorem stepStatement_counterpart (alike : token.Alike newName other)
    (apart : ∀ name, token.lexeme = .name name → symbols.Distinguishes newName name)
    (nest : Nest) :
    (stepStatement nest symbols token).Counterpart newName
      (stepStatement nest (symbols.rename newName) other) := by
  have meaning := alike.lexeme
  unfold stepStatement
  generalize known : token.lexeme = lexeme at meaning
  generalize other.lexeme = otherLexeme at meaning
  cases meaning with
  | @name name =>
      dsimp only
      rw [SymbolTable.lookup_rename (apart name known)]
      cases symbols.lookup name with
      | none => exact .takeLast (.refused rfl)
      | some symbol => exact .take
  | character _ => exact .leave (.refused rfl)
  | operator _ => exact .leave (.refused rfl)
  | same unnamed =>
      cases lexeme with
      | name name => exact absurd rfl unnamed
      | keyword keyword =>
          dsimp only
          split
          · exact endList_counterpart alike nest
          · split
            · exact .take
            · exact .take
            · exact .take
            · exact .leave (.refused rfl)
      | _ => exact .leave (.refused rfl)

/-- Groups of declarations go on in the same way. -/
theorem stepGroup_counterpart (alike : token.Alike newName other)
    (apart : ∀ name, token.lexeme = .name name →
      symbols.Distinguishes newName name ∧ isIdentifier (newName name) = isIdentifier name)
    (type : ValueType) (phase : GroupPhase) (alone : Bool) :
    (stepGroup type phase alone symbols token).Counterpart newName
      (stepGroup type phase alone (symbols.rename newName) other) := by
  have meaning := alike.lexeme
  unfold stepGroup
  generalize known : token.lexeme = lexeme at meaning
  generalize other.lexeme = otherLexeme at meaning
  cases meaning with
  | @name name =>
      obtain ⟨distinguishes, identifier⟩ := apart name known
      dsimp only
      rw [identifier, SymbolTable.declare?_rename distinguishes]
      split
      · exact .takeLast (.refused rfl)
      · split
        · exact .takeLast (.refused rfl)
        · cases symbols.declare? name type with
          | none => exact .takeLast (.refused rfl)
          | some declared => exact .take
  | character _ => exact .leave (.refused rfl)
  | operator _ => exact .leave (.refused rfl)
  | same unnamed =>
      cases lexeme with
      | name name => exact absurd rfl unnamed
      | separator separator =>
          cases separator with
          | semicolon =>
              dsimp only
              split
              · exact .takeLast (.refused rfl)
              · exact .takeLast (.refused rfl)
              · split
                · exact .takeLast .accepted
                · exact .take
          | comma =>
              dsimp only
              split
              · exact .take
              · exact .takeLast (.refused rfl)
              · exact .takeLast (.refused rfl)
          | opening => exact .leave (.refused rfl)
          | closing => exact .leave (.refused rfl)
      | _ => exact .leave (.refused rfl)

/-- Operands are supplied in the same way. -/
theorem supply_counterpart (reading : Reading) (type : ValueType) :
    (supply reading type symbols).Counterpart newName
      (supply (reading.rename newName) type (symbols.rename newName)) := by
  unfold supply
  simp only [Reading.rename, Purpose.rename_beq_term]
  split
  · exact .takeLast .accepted
  · exact .take

/-- Operands are met in the same way. -/
theorem stepOperand_counterpart (alike : token.Alike newName other)
    (apart : ∀ name, token.lexeme = .name name → symbols.Distinguishes newName name)
    (reading : Reading) :
    (stepOperand reading symbols token).Counterpart newName
      (stepOperand (reading.rename newName) (symbols.rename newName) other) := by
  have meaning := alike.lexeme
  unfold stepOperand
  generalize known : token.lexeme = lexeme at meaning
  generalize other.lexeme = otherLexeme at meaning
  cases meaning with
  | @name name =>
      dsimp only
      rw [SymbolTable.lookup_rename (apart name known)]
      cases symbols.lookup name with
      | none => exact .takeLast (.refused rfl)
      | some symbol => exact supply_counterpart reading symbol.type
  | character same =>
      dsimp only
      rw [same]
      split
      · exact supply_counterpart reading .character
      · exact .takeLast (.refused rfl)
  | operator _ => exact .leave (.refused rfl)
  | same unnamed =>
      cases lexeme with
      | name name => exact absurd rfl unnamed
      | integer => exact supply_counterpart reading .integer
      | character text =>
          dsimp only
          split
          · exact supply_counterpart reading .character
          · exact .takeLast (.refused rfl)
      | separator separator =>
          cases separator with
          | opening => exact .take
          | _ => exact .leave (.refused rfl)
      | _ => exact .leave (.refused rfl)

/-- An operator that cannot stand before an operand is met as an operand is. -/
theorem stepTerm_of_isUnary {operator : Operator} (meaning : token.lexeme = .operator operator)
    (binary : operator.isUnary = false) (reading : Reading) :
    stepTerm reading symbols token = .refuse (.notTerm token) := by
  unfold stepTerm stepOperand
  rw [meaning]
  cases operator <;> first | rfl | cases binary

/-- Operators before an operand are met in the same way. -/
theorem stepTerm_counterpart (alike : token.Alike newName other)
    (apart : ∀ name, token.lexeme = .name name → symbols.Distinguishes newName name)
    (reading : Reading) :
    (stepTerm reading symbols token).Counterpart newName
      (stepTerm (reading.rename newName) (symbols.rename newName) other) := by
  have meaning := alike.lexeme
  have operand := stepOperand_counterpart alike apart reading
  generalize known : token.lexeme = lexeme at meaning
  generalize otherKnown : other.lexeme = otherLexeme at meaning
  cases meaning with
  | name =>
      simp only [stepTerm, known, otherKnown]
      exact operand
  | character _ =>
      simp only [stepTerm, known, otherKnown]
      exact operand
  | operator same =>
      rw [stepTerm_of_isUnary known same.binary, stepTerm_of_isUnary otherKnown same.otherBinary]
      exact .leave (.refused rfl)
  | same _ =>
      unfold stepTerm
      rw [known, otherKnown]
      split
      · exact .take
      · exact .take
      · exact operand

/-- Expressions end in the same way. -/
theorem endExpression_counterpart (alike : token.Alike newName other) (type : ValueType)
    (enclosing : List Awaiting) (purpose : Purpose) :
    (endExpression type enclosing purpose symbols token).Counterpart newName
      (endExpression type enclosing (purpose.rename newName) (symbols.rename newName) other) := by
  unfold endExpression
  cases enclosing with
  | cons awaiting outer =>
      exact requireSeparator_counterpart alike .closing
        (supply_counterpart ⟨awaiting, outer, purpose⟩ type)
  | nil =>
      cases purpose with
      | term => exact .leave .accepted
      | expression => exact .leave .accepted
      | condition =>
          simp only [Purpose.rename]
          split
          · exact .leave .accepted
          · exact .leave (.refused rfl)
      | assignment target nest =>
          simp only [Purpose.rename, Symbol.rename]
          split
          · exact endStatement_counterpart alike nest
          · exact .leave (.refused rfl)
      | output nest => exact endStatement_counterpart alike nest
      | branch nest =>
          simp only [Purpose.rename]
          split
          · exact requireKeyword_counterpart alike .then_ .take
          · exact .leave (.refused rfl)
      | loop nest =>
          simp only [Purpose.rename]
          split
          · exact requireKeyword_counterpart alike .do_ .take
          · exact .leave (.refused rfl)

/-- Operators between terms are met in the same way. -/
theorem stepOperator_counterpart (alike : token.Alike newName other) (type : ValueType)
    (enclosing : List Awaiting) (purpose : Purpose) :
    (stepOperator type enclosing purpose symbols token).Counterpart newName
      (stepOperator type enclosing (purpose.rename newName) (symbols.rename newName) other) := by
  have meaning := alike.lexeme
  unfold stepOperator
  rw [alike.endsExpression]
  split
  · exact endExpression_counterpart alike type enclosing purpose
  · generalize token.lexeme = lexeme at meaning
    generalize other.lexeme = otherLexeme at meaning
    cases meaning with
    | name => exact .leave (.refused rfl)
    | character _ => exact .leave (.refused rfl)
    | operator same =>
        dsimp only
        rw [Operator.isBinary_of_isUnary same.binary, Operator.isBinary_of_isUnary same.otherBinary,
          same.yieldsLogical]
        exact .take
    | same _ =>
        cases lexeme with
        | operator operator =>
            dsimp only
            split
            · exact .take
            · exact .leave (.refused rfl)
        | _ => exact .leave (.refused rfl)

/-- **A token and one in its place are met in the same way.** -/
theorem step_counterpart (alike : token.Alike newName other)
    (apart : ∀ name, token.lexeme = .name name →
      symbols.Distinguishes newName name ∧ isIdentifier (newName name) = isIdentifier name)
    (state : State) :
    (step state symbols token).Counterpart newName
      (step (state.rename newName) (symbols.rename newName) other) := by
  have distinguishes : ∀ name, token.lexeme = .name name → symbols.Distinguishes newName name :=
    fun name meaning => (apart name meaning).1
  cases state with
  | opening => exact requireKeyword_counterpart alike .start .take
  | declarations =>
      simp only [step, State.rename, alike.valueType?]
      split
      · exact .take
      · exact stepStatement_counterpart alike distinguishes ⟨[], .program⟩
  | groupHead =>
      simp only [step, State.rename, alike.valueType?]
      split
      · exact .take
      · exact .leave (.refused rfl)
  | group type phase alone => exact stepGroup_counterpart alike apart type phase alone
  | statement nest => exact stepStatement_counterpart alike distinguishes nest
  | arrow target nest =>
      simp only [step, State.rename, alike.lexeme.eq_assignment_iff]
      split
      · exact .take
      · exact .leave (.refused rfl)
  | term reading => exact stepTerm_counterpart alike distinguishes reading
  | operand reading => exact stepOperand_counterpart alike distinguishes reading
  | operator type enclosing purpose =>
      exact stepOperator_counterpart alike type enclosing purpose
  | semicolon nest => exact endStatement_counterpart alike nest
  | trailer =>
      simp only [step, State.rename, alike.lexeme.eq_endOfInput_iff]
      split
      · exact .leave .accepted
      · exact .leave (.refused rfl)

end

/-! ## Runs that go hand in hand -/

/-- Two ways to end of the same kind. -/
inductive Outcome.Counterpart : Outcome → Outcome → Prop where
  /-- Both rules are over. -/
  | answered {answer other : Answer} :
      answer.Counterpart other → Counterpart (.answered answer) (.answered other)
  /-- Both get too deep. -/
  | tooDeep : Counterpart .tooDeep .tooDeep

/-- Two ends of runs of the same kind, at the same position, with the same symbols under new
names. -/
structure Finish.Counterpart (newName : String → String) (finish other : Finish) : Prop where
  /-- Both are complete with the same type, or both are refused by a fault of the same area, or both
  get too deep. -/
  outcome : finish.outcome.Counterpart other.outcome
  /-- As many tokens are taken. -/
  position : other.cursor.position = finish.cursor.position
  /-- The same names are declared in the same order with the same types. -/
  symbols : other.symbols = finish.symbols.rename newName

/-- A token and one in its place are met in the same way if all names are among some that the new
names keep apart. -/
theorem step_counterpart_of_injOn {newName : String → String} {names : Set String}
    (injective : names.InjOn newName)
    (identifiers : ∀ name ∈ names, isIdentifier (newName name) = isIdentifier name)
    {token other : Token} (alike : token.Alike newName other) {symbols : SymbolTable}
    (named : ∀ name, token.lexeme = .name name → name ∈ names)
    (declared : ∀ symbol ∈ symbols.symbols, symbol.name ∈ names) (state : State) :
    (step state symbols token).Counterpart newName
      (step (state.rename newName) (symbols.rename newName) other) := by
  refine step_counterpart alike (fun name meaning => ?_) state
  have member := named name meaning
  have apart : symbols.Distinguishes newName name :=
    fun symbol present same => injective (declared symbol present) member same
  exact ⟨apart, identifiers name member⟩

/-- A token declares no other name than the one it is. -/
theorem declared_of_transition {names : Set String} {symbols symbols' : SymbolTable}
    {state state' : State} {lexeme : Lexeme}
    (transition : Transition symbols state lexeme state' symbols')
    (named : ∀ name, lexeme = .name name → name ∈ names)
    (declared : ∀ symbol ∈ symbols.symbols, symbol.name ∈ names) :
    ∀ symbol ∈ symbols'.symbols, symbol.name ∈ names := by
  rcases symbols_of_transition transition with same | ⟨name, type, meaning, added⟩
  · rw [same]
    exact declared
  · obtain ⟨-, rfl⟩ := (SymbolTable.declare?_eq_some_iff symbols symbols' name type).mp added
    intro symbol member
    rcases List.mem_append.mp member with before | last
    · exact declared symbol before
    · rw [List.mem_singleton.mp last]
      exact named name meaning

/-- **Two runs go hand in hand** if each token of the second stands in the place of one of the
first, and the new names keep the names apart. The induction is on the tokens behind the next one.
While both runs go on, all declared names are among those that are kept apart. -/
theorem run_counterpart (limit : Option Nat) {newName : String → String} {names : Set String}
    (injective : names.InjOn newName)
    (identifiers : ∀ name ∈ names, isIdentifier (newName name) = isIdentifier name)
    (state : State) (symbols : SymbolTable) (current otherCurrent : Option Token)
    (before otherBefore : List Token) (next otherNext : Token) (ahead otherAhead : List Token)
    (counterparts : List.Forall₂ (Token.Alike newName) (next :: ahead) (otherNext :: otherAhead))
    (placed : otherBefore.length = before.length)
    (named : ∀ token ∈ next :: ahead, ∀ name, token.lexeme = .name name → name ∈ names)
    (declared : ∀ symbol ∈ symbols.symbols, symbol.name ∈ names) :
    (run limit state symbols current before next ahead).Counterpart newName
      (run limit (state.rename newName) (symbols.rename newName) otherCurrent otherBefore otherNext
        otherAhead) := by
  induction ahead generalizing state symbols current otherCurrent before otherBefore next otherNext
    otherAhead with
  | nil =>
      obtain ⟨alike, none⟩ := List.forall₂_cons.mp counterparts
      cases none
      have moves := step_counterpart_of_injOn injective identifiers alike
        (named next List.mem_cons_self) declared state
      -- Nothing stands behind the tokens, so both runs are over with them.
      generalize moved : step state symbols next = move at moves
      generalize otherMoved :
        step (state.rename newName) (symbols.rename newName) otherNext = otherMove at moves
      unfold run
      cases moves with
      | take =>
          simp only [moved, otherMoved]
          exact ⟨.answered (.refused rfl), congrArg (· + 1) placed, rfl⟩
      | takeLast _ =>
          simp only [moved, otherMoved]
          exact ⟨.answered (.refused rfl), congrArg (· + 1) placed, rfl⟩
      | leave same =>
          simp only [moved, otherMoved]
          exact ⟨.answered same, congrArg (· + 1) placed, rfl⟩
  | cons token rest induction =>
      obtain ⟨alike, behind⟩ := List.forall₂_cons.mp counterparts
      obtain ⟨otherToken, otherRest, -, -, rfl⟩ := List.forall₂_cons_left_iff.mp behind
      have moves := step_counterpart_of_injOn injective identifiers alike
        (named next List.mem_cons_self) declared state
      generalize moved : step state symbols next = move at moves
      generalize otherMoved :
        step (state.rename newName) (symbols.rename newName) otherNext = otherMove at moves
      cases moves with
      | leave same =>
          rw [run_of_leave moved, run_of_leave otherMoved]
          exact ⟨.answered same, congrArg (· + 1) placed, rfl⟩
      | takeLast same =>
          rw [run_of_takeLast moved, run_of_takeLast otherMoved]
          exact ⟨.answered same, congrArg (· + 2) placed, rfl⟩
      | @take state' symbols' =>
          rw [run_of_take moved, run_of_take otherMoved, State.depth_rename]
          split
          · exact ⟨.tooDeep, congrArg (· + 2) placed, rfl⟩
          · exact induction state' symbols' (some next) (some otherNext) (next :: before)
              (otherNext :: otherBefore) token otherToken otherRest behind
              (congrArg (· + 1) placed)
              (fun other member => named other (List.mem_cons_of_mem next member))
              (declared_of_transition (step_eq_take_iff.mp moved)
                (named next List.mem_cons_self) declared)

/-! ## Programs -/

/-- A token has the kind of one in its place. -/
theorem kind_of_counterpart {newName : String → String} {token other : Token}
    (counterpart : token.Counterpart newName other) : other.kind = token.kind := by
  cases counterpart <;> rfl

/-- Lists of counterparts end in an end mark alike. -/
theorem marked_of_counterparts {newName : String → String} {tokens others : List Token}
    (counterparts : List.Forall₂ (Token.Counterpart newName) tokens others) :
    (others.getLast?.any fun token => token.kind == .endOfInput) =
      tokens.getLast?.any fun token => token.kind == .endOfInput := by
  induction counterparts with
  | nil => rfl
  | cons first rest induction =>
      cases rest with
      | nil => simp [kind_of_counterpart first]
      | cons second more =>
          rw [List.getLast?_cons_cons, List.getLast?_cons_cons]
          exact induction

/-- With their end marks, lists of counterparts are lists of counterparts. -/
theorem counterparts_withEnd {newName : String → String} {tokens others : List Token}
    (counterparts : List.Forall₂ (Token.Counterpart newName) tokens others) :
    List.Forall₂ (Token.Counterpart newName) (Token.withEnd tokens) (Token.withEnd others) := by
  unfold Token.withEnd
  rw [marked_of_counterparts counterparts]
  split
  · exact counterparts
  · exact List.rel_append counterparts (.cons (.same (by decide)) .nil)

/-- The names among some tokens. -/
def namesOf (tokens : List Token) : Set String :=
  { name | ⟨.name, name⟩ ∈ tokens }

/-- All names that tokens mean are among their names; the end mark is none. -/
theorem mem_namesOf_of_mem_withEnd (tokens : List Token) :
    ∀ token ∈ Token.withEnd tokens, ∀ name, token.lexeme = .name name →
      name ∈ namesOf tokens := by
  intro token member name meaning
  obtain rfl := eq_of_lexeme_name meaning
  unfold Token.withEnd at member
  split at member
  · exact member
  · rcases List.mem_append.mp member with before | last
    · exact before
    · cases List.mem_singleton.mp last

/-- **Names, constants and operators may be exchanged.** If each token of a program is exchanged for
one that may stand in its place, names by other names that keep them apart and are identifiers just
where they are, then both programs are accepted, or both are refused at the same position by faults
of the same area, and the second one declares the symbols of the first under their new names. -/
theorem run_of_counterparts (limit : Option Nat) (newName : String → String)
    (tokens others : List Token)
    (counterparts : List.Forall₂ (Token.Counterpart newName) tokens others)
    (injective : (namesOf tokens).InjOn newName)
    (identifiers : ∀ name ∈ namesOf tokens, isIdentifier (newName name) = isIdentifier name) :
    (Rule.program.run limit {} (.ofTokens tokens)).Counterpart newName
      (Rule.program.run limit {} (.ofTokens others)) := by
  have marked := counterparts_withEnd counterparts
  have named := mem_namesOf_of_mem_withEnd tokens
  obtain ⟨first, rest, split⟩ := List.exists_cons_of_ne_nil (Token.withEnd_ne_nil tokens)
  rw [split] at marked named
  obtain ⟨otherFirst, otherRest, firsts, rests, otherSplit⟩ := List.forall₂_cons_left_iff.mp marked
  have alike : List.Forall₂ (Token.Alike newName) (first :: rest) (otherFirst :: otherRest) :=
    .cons firsts.alike (rests.imp fun _ _ counterpart => counterpart.alike)
  simp only [Rule.run, Cursor.ofTokens, split, otherSplit]
  exact run_counterpart limit injective identifiers .opening {} none none [] [] first otherFirst
    rest otherRest alike rfl named (fun _ member => absurd member List.not_mem_nil)

/-- A program that is refused for an undeclared name. -/
def undeclaredOperand : List Token :=
  [⟨.keyword, "start"⟩, ⟨.keyword, "integer"⟩, ⟨.name, "x"⟩, ⟨.separator, ";"⟩,
    ⟨.keyword, "print"⟩, ⟨.name, "x"⟩, ⟨.operator, ".plus."⟩, ⟨.integer, "1"⟩,
    ⟨.operator, ".eq."⟩, ⟨.name, "y"⟩, ⟨.separator, ";"⟩, ⟨.keyword, "finish"⟩]

/-- The same program with `x` and `y` exchanged for each other, another number and other
operators. -/
def exchangedOperand : List Token :=
  [⟨.keyword, "start"⟩, ⟨.keyword, "integer"⟩, ⟨.name, "y"⟩, ⟨.separator, ";"⟩,
    ⟨.keyword, "print"⟩, ⟨.name, "y"⟩, ⟨.operator, ".mul."⟩, ⟨.integer, "23"⟩,
    ⟨.operator, ".and."⟩, ⟨.name, "x"⟩, ⟨.separator, ";"⟩, ⟨.keyword, "finish"⟩]

/-- Exchanges the names `x` and `y` for each other. -/
def swapNames (name : String) : String :=
  if name = "x" then "y" else if name = "y" then "x" else name

/-- Exchanged names at work: `x` is as undeclared in the second program as `y` is in the first. -/
theorem run_of_counterparts_swapped :
    (Rule.program.run none {} (.ofTokens undeclaredOperand)).cause? =
        some (.check (.undeclared "y") 11) ∧
      (Rule.program.run none {} (.ofTokens undeclaredOperand)).Counterpart swapNames
        (Rule.program.run none {} (.ofTokens exchangedOperand)) ∧
      (Rule.program.run none {} (.ofTokens exchangedOperand)).symbols =
        ⟨[⟨"y", .integer⟩]⟩ := by
  have names : ∀ name ∈ namesOf undeclaredOperand, name = "x" ∨ name = "y" := by
    intro name member
    simpa [namesOf, undeclaredOperand] using member
  have counterparts :
      List.Forall₂ (Token.Counterpart swapNames) undeclaredOperand exchangedOperand :=
    .cons (.same (by decide)) <| .cons (.same (by decide)) <| .cons .name <|
    .cons (.same (by decide)) <| .cons (.same (by decide)) <| .cons .name <|
    .cons (.operator (@Operator.Exchangeable.numbers .plus .mul (by decide) (by decide))) <|
    .cons .integer <|
    .cons (.operator (@Operator.Exchangeable.logical .eq .and (by decide) (by decide))) <|
    .cons .name <| .cons (.same (by decide)) <| .cons (.same (by decide)) .nil
  have injective : (namesOf undeclaredOperand).InjOn swapNames := by
    intro name member other otherMember same
    rcases names name member with rfl | rfl <;> rcases names other otherMember with rfl | rfl <;>
      first | rfl | (revert same; decide)
  have identifiers : ∀ name ∈ namesOf undeclaredOperand,
      isIdentifier (swapNames name) = isIdentifier name := by
    intro name member
    rcases names name member with rfl | rfl <;> decide +kernel
  have together := run_of_counterparts none swapNames undeclaredOperand exchangedOperand
    counterparts injective identifiers
  refine ⟨by decide +kernel, together, ?_⟩
  rw [together.symbols]
  decide +kernel

end Checker

end Dopl
