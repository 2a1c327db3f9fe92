import Dopl.Proofs.Grammar.LeftToRight
import Dopl.Proofs.Lexeme

/-! # Terms joined by operators

An expression, token by token: a first term, and binary operators each with the term behind it. The
tokens of an expression can be taken apart in this form, and its type depends on the parts only
through their operators and types:

* **`Joined`** — an operator with the term behind it; **`Chain`** — a whole expression.
* **`Chain.expression`**, **`exists_chain_of_expression`** — chains are the expressions.
* **`Chain.wholeType_eq_logical_iff`** — which chains are logical.
* **`Chain.reorder`** — the operators with their terms in another order, of the same type.
* **`Chain.parenthesize`** — parentheses around a left part, of the same type. -/

namespace Dopl.Grammar

/-- A binary operator with the term behind it. -/
structure Joined where
  /-- The token of the operator. -/
  sign : Token
  /-- The operator. -/
  operator : Operator
  /-- The tokens of the term. -/
  operand : List Token
  /-- The type of the term. -/
  type : ValueType
deriving DecidableEq, Repr

namespace Joined

/-- The tokens of the operator and the term. -/
def tokens (joined : Joined) : List Token :=
  joined.sign :: joined.operand

/-- What counts for the type of the whole. -/
def pair (joined : Joined) : Operator × ValueType :=
  (joined.operator, joined.type)

/-- The tokens are what they are said to be. -/
structure IsTyped (symbols : SymbolTable) (joined : Joined) : Prop where
  /-- The first token means the operator. -/
  sign : joined.sign.lexeme = .operator joined.operator
  /-- The operator may stand between two terms. -/
  binary : joined.operator.isBinary = true
  /-- The others are a term of the type. -/
  operand : Term symbols (joined.operand.map Token.lexeme) joined.type

end Joined

/-- A first term, and operators with terms behind it. -/
structure Chain where
  /-- The tokens of the first term. -/
  first : List Token
  /-- The type of the first term. -/
  type : ValueType
  /-- The operators, each with the term behind it. -/
  rest : List Joined
deriving DecidableEq, Repr

namespace Chain

/-- All the tokens, in order. -/
def tokens (chain : Chain) : List Token :=
  chain.first ++ chain.rest.flatMap Joined.tokens

/-- The type of the whole. -/
def wholeType (chain : Chain) : ValueType :=
  joinedType chain.type (chain.rest.map Joined.pair)

/-- The tokens are what they are said to be. -/
structure IsTyped (symbols : SymbolTable) (chain : Chain) : Prop where
  /-- The first tokens are a term of the type. -/
  first : Term symbols (chain.first.map Token.lexeme) chain.type
  /-- So are the others behind their operators. -/
  rest : ∀ joined ∈ chain.rest, joined.IsTyped symbols

end Chain

variable {symbols : SymbolTable} {chain : Chain}

/-! ## Chains and expressions -/

/-- Operators with terms behind them are derived as such. -/
theorem operands_of_joined {rest : List Joined}
    (typed : ∀ joined ∈ rest, joined.IsTyped symbols) :
    Operands symbols ((rest.flatMap Joined.tokens).map Token.lexeme) (rest.map Joined.pair) := by
  induction rest with
  | nil => exact .nil
  | cons joined rest induction =>
      obtain ⟨first, others⟩ := List.forall_mem_cons.mp typed
      rw [List.flatMap_cons, List.map_append, Joined.tokens, List.map_cons, List.map_cons,
        first.sign]
      exact .cons first.binary first.operand (induction others)

/-- Tokens that are derived as operators with terms behind them can be taken apart. -/
theorem exists_joined_of_operands {lexemes : List Lexeme} {pairs : List (Operator × ValueType)}
    (operands : Operands symbols lexemes pairs) {tokens : List Token}
    (meaning : tokens.map Token.lexeme = lexemes) :
    ∃ rest : List Joined, rest.flatMap Joined.tokens = tokens ∧ rest.map Joined.pair = pairs ∧
      ∀ joined ∈ rest, joined.IsTyped symbols :=
  match operands with
  | .nil => by
      rw [List.map_eq_nil_iff] at meaning
      exact ⟨[], meaning.symm, rfl, by simp⟩
  | @Operands.cons _ operator _ _ type _ binary term others => by
      rw [List.cons_append, List.map_eq_cons_iff] at meaning
      obtain ⟨sign, behind, rfl, sameSign, sameBehind⟩ := meaning
      obtain ⟨operand, further, rfl, rfl, sameFurther⟩ := List.map_eq_append_iff.mp sameBehind
      obtain ⟨rest, flat, same, typed⟩ := exists_joined_of_operands others sameFurther
      refine ⟨⟨sign, operator, operand, type⟩ :: rest, ?_, ?_, ?_⟩
      · rw [List.flatMap_cons, flat]
        rfl
      · rw [List.map_cons, same]
        rfl
      · exact List.forall_mem_cons.mpr ⟨⟨sameSign, binary, term⟩, typed⟩

/-- A chain is an expression of its type. -/
theorem Chain.expression (typed : chain.IsTyped symbols) :
    Expression symbols (chain.tokens.map Token.lexeme) chain.wholeType := by
  rw [Chain.tokens, List.map_append]
  exact .join typed.first (operands_of_joined typed.rest)

/-- The tokens of an expression are a chain of its type. -/
theorem exists_chain_of_expression {tokens : List Token} {type : ValueType}
    (expression : Expression symbols (tokens.map Token.lexeme) type) :
    ∃ chain : Chain, chain.IsTyped symbols ∧ chain.tokens = tokens ∧ chain.wholeType = type := by
  generalize meaning : tokens.map Token.lexeme = lexemes at expression
  cases expression with
  | @join _ _ type _ term operands =>
      obtain ⟨first, behind, rfl, rfl, sameBehind⟩ := List.map_eq_append_iff.mp meaning
      obtain ⟨rest, rfl, rfl, typed⟩ := exists_joined_of_operands operands sameBehind
      exact ⟨⟨first, type, rest⟩, ⟨term, typed⟩, rfl, rfl⟩

namespace Chain

/-! ## The type of the whole -/

/-- The whole is logical iff its first term is, or one of its operators works on truth values or
compares. -/
theorem wholeType_eq_logical_iff (chain : Chain) :
    chain.wholeType = .logical ↔ chain.type = .logical ∨ ∃ joined ∈ chain.rest,
      joined.operator.operatorClass = .logic ∨ joined.operator.operatorClass = .relation := by
  have some_yields : (∃ pair ∈ chain.rest.map Joined.pair, pair.1.yieldsLogical = true) ↔
      ∃ joined ∈ chain.rest,
        joined.operator.operatorClass = .logic ∨ joined.operator.operatorClass = .relation := by
    constructor
    · rintro ⟨_, listed, yields⟩
      obtain ⟨joined, member, rfl⟩ := List.mem_map.mp listed
      exact ⟨joined, member, joined.operator.yieldsLogical_iff.mp yields⟩
    · rintro ⟨joined, member, family⟩
      exact ⟨_, List.mem_map_of_mem member, joined.operator.yieldsLogical_iff.mpr family⟩
  rw [← some_yields, wholeType, joinedType]
  by_cases logical : chain.type = .logical ∨
      ∃ pair ∈ chain.rest.map Joined.pair, pair.1.yieldsLogical = true
  · rw [if_pos logical]
    exact iff_of_true rfl logical
  · -- Without them it is a character or a number.
    rw [if_neg logical]
    refine iff_of_false ?_ logical
    split <;> decide

/-! ## Another order -/

/-- The same first term, and behind it some operators with their terms. -/
def reorder (chain : Chain) (rest : List Joined) : Chain :=
  { chain with rest := rest }

/-- In another order the parts are what they were. -/
theorem isTyped_reorder (typed : chain.IsTyped symbols) {rest : List Joined}
    (perm : rest.Perm chain.rest) : (chain.reorder rest).IsTyped symbols :=
  ⟨typed.first, fun joined member => typed.rest joined (perm.mem_iff.mp member)⟩

/-- In another order the whole is of the same type. -/
theorem wholeType_reorder {rest : List Joined} (perm : rest.Perm chain.rest) :
    (chain.reorder rest).wholeType = chain.wholeType :=
  joinedType_of_perm chain.type (perm.map Joined.pair)

/-! ## Parentheses -/

/-- The left part up to some count of operators. -/
def left (chain : Chain) (count : Nat) : Chain :=
  { chain with rest := chain.rest.take count }

/-- Parentheses around the left part up to some count of operators, which makes it a term. -/
def parenthesize (chain : Chain) (count : Nat) : Chain :=
  { first := (Lexeme.separator .opening).token :: (chain.left count).tokens ++
      [(Lexeme.separator .closing).token]
    type := (chain.left count).wholeType
    rest := chain.rest.drop count }

/-- A left part is what it was in the whole. -/
theorem isTyped_left (typed : chain.IsTyped symbols) (count : Nat) :
    (chain.left count).IsTyped symbols :=
  ⟨typed.first, fun joined member => typed.rest joined (List.mem_of_mem_take member)⟩

/-- With parentheses around a left part the parts are what they are said to be. -/
theorem isTyped_parenthesize (typed : chain.IsTyped symbols) (count : Nat) :
    (chain.parenthesize count).IsTyped symbols := by
  refine ⟨?_, fun joined member => typed.rest joined (List.mem_of_mem_drop member)⟩
  have inside := Term.parentheses (Chain.expression (chain.isTyped_left typed count))
  simpa [parenthesize] using inside

/-- Parentheses around a left part do not change the type of the whole. -/
theorem wholeType_parenthesize (chain : Chain) (count : Nat) :
    (chain.parenthesize count).wholeType = chain.wholeType := by
  unfold wholeType parenthesize
  dsimp only
  unfold wholeType left
  rw [← joinedType_append, ← List.map_append, List.take_append_drop]

end Chain

end Dopl.Grammar
