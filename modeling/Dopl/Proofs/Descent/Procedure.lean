import Dopl.Checker.Descent
import Dopl.Proofs.Checker.EndMark
import Dopl.Proofs.Lexeme

/-! # What procedures leave

A procedure that starts at a cursor may end, with a failure or a value, or not end. What it leaves
is put together from what its parts leave: everything it reads is there, and every loop ends because
each of its turns gets further in the tokens.

* **`Action.Leaves`** — a procedure ends at a cursor of the same tokens, with a property for
  failures and one for values; **`Action.Leaves.bind`** — one part after another.
* **`result_accept_taken`**, **`result_accept_last`**, **`result_accept_other`** — the three ways in
  which a single match ends.
* **`leaves_accept`** — the next token is taken if it fits; **`leaves_acceptKeyword`** and the
  like — what the token means then.
* **`leaves_loop`** — a loop by its turns. -/

namespace Dopl.Checker

variable {α β : Type}

/-! ## Places in the tokens -/

namespace Cursor

variable {cursor moved : Cursor}

/-- Behind a token, that token is the one matched last. -/
theorem current_of_advance? (advanced : cursor.advance? = some moved) :
    moved.current = some cursor.next := by
  obtain ⟨_, before, next, ahead⟩ := cursor
  cases ahead with
  | nil => cases advanced
  | cons token rest =>
      cases advanced
      rfl

/-- A cursor stands at one of its tokens. -/
theorem position_le_length (cursor : Cursor) : cursor.position ≤ cursor.tokens.length := by
  rw [position, tokens, List.length_append, List.length_reverse, List.length_cons]
  omega

/-- At the position of a tape stands the token behind the next one. -/
theorem getElem?_position (advanced : cursor.advance? = some moved) :
    cursor.tokens[cursor.position]? = some moved.next := by
  obtain ⟨_, before, next, ahead⟩ := cursor
  cases ahead with
  | nil => cases advanced
  | cons token rest =>
      cases advanced
      rw [tokens, position, List.getElem?_append_right (by simp)]
      simp

/-- Where nothing stands behind the next token, all tokens are taken. -/
theorem length_le_position (last : cursor.advance? = none) :
    cursor.tokens.length ≤ cursor.position := by
  obtain ⟨_, before, next, ahead⟩ := cursor
  cases ahead with
  | nil =>
      rw [tokens, position, List.length_append, List.length_reverse]
      exact Nat.le_refl _
  | cons token rest => cases last

/-- A token that is no end mark has another one behind it. -/
theorem exists_advance (marked : EndMarked cursor.tokens) (other : cursor.next.kind ≠ .endOfInput) :
    ∃ moved, cursor.advance? = some moved := by
  rw [endMarked_tokens_iff] at marked
  obtain ⟨_, before, next, ahead⟩ := cursor
  cases ahead with
  | nil => exact absurd marked.kind_of_singleton other
  | cons token rest => exact ⟨_, rfl⟩

end Cursor

/-- What holds of the positions from the last one on, and of each one if of all later ones, holds of
every position. -/
theorem later_induction {holds : Nat → Prop} (length : Nat)
    (last : ∀ position, length ≤ position → holds position)
    (earlier : ∀ position, (∀ later, position < later → holds later) → holds position)
    (position : Nat) : holds position := by
  induction left : length - position using Nat.strongRecOn generalizing position with
  | ind left induction =>
      by_cases inside : length ≤ position
      · exact last position inside
      · exact earlier position fun later further => induction _ (by omega) later rfl

/-! ## How procedures end -/

namespace Action

/-- The store is read. -/
theorem result_get (store : Store) : (get : Action Store).result store = some (.ok store, store) :=
  rfl

/-- The store is changed. -/
theorem result_modify (change : Store → Store) (store : Store) :
    (modify change : Action PUnit).result store = some (.ok ⟨⟩, change store) :=
  rfl

/-- A procedure goes on with the value and the store that its first part leaves. -/
theorem result_bind (action : Action α) (next : α → Action β) (store : Store) :
    (action >>= next).result store =
      match action.result store with
      | none => none
      | some (.ok value, left) => (next value).result left
      | some (.error failure, left) => some (.error failure, left) := by
  simp only [result, ExceptT.run_bind, StateT.run_bind]
  rcases action.run.run store with - | ⟨failure | value, left⟩ <;> rfl

end Action

/-- How a procedure ends: at a cursor of the tokens, with the one property or the other. -/
inductive Ending (given : List Token) (fails : Failure → SymbolTable → Cursor → Prop)
    (post : α → SymbolTable → Cursor → Prop) : Option (Except Failure α × Store) → Prop where
  /-- It returns a value. -/
  | returns {value : α} {symbols : SymbolTable} {cursor : Cursor} :
      cursor.tokens = given → post value symbols cursor →
        Ending given fails post (some (.ok value, cursor.store symbols))
  /-- It fails. -/
  | fails {failure : Failure} {symbols : SymbolTable} {cursor : Cursor} :
      cursor.tokens = given → fails failure symbols cursor →
        Ending given fails post (some (.error failure, cursor.store symbols))

/-- What the procedure leaves at a cursor of the tokens: it ends there, with the first property if
it fails and with the second one if it returns. -/
def Action.Leaves (action : Action α) (given : List Token)
    (fails : Failure → SymbolTable → Cursor → Prop) (symbols : SymbolTable) (cursor : Cursor)
    (post : α → SymbolTable → Cursor → Prop) : Prop :=
  cursor.tokens = given → Ending given fails post (action.result (cursor.store symbols))

variable {given : List Token} {fails : Failure → SymbolTable → Cursor → Prop}
  {symbols : SymbolTable} {cursor moved : Cursor} {post post' : α → SymbolTable → Cursor → Prop}

namespace Action.Leaves

/-- A procedure goes on from what its first part leaves. -/
theorem bind {action : Action α} {next : α → Action β}
    {post : β → SymbolTable → Cursor → Prop} {middle : α → SymbolTable → Cursor → Prop}
    (first : action.Leaves given fails symbols cursor middle)
    (second : ∀ value symbols' moved, middle value symbols' moved →
      (next value).Leaves given fails symbols' moved post) :
    (action >>= next).Leaves given fails symbols cursor post := by
  intro same
  have ended := first same
  rw [result_bind]
  generalize action.result (cursor.store symbols) = result at ended ⊢
  cases ended with
  | returns stays holds => exact second _ _ _ holds stays
  | fails stays failed => exact .fails stays failed

/-- A value is returned where it has the property. -/
theorem pure {value : α} (holds : post value symbols cursor) :
    (Pure.pure value : Action α).Leaves given fails symbols cursor post :=
  fun same => .returns same holds

/-- A procedure leaves less than it leaves. -/
theorem mono {action : Action α} (leaves : action.Leaves given fails symbols cursor post)
    (weaker : ∀ value symbols' moved, post value symbols' moved → post' value symbols' moved) :
    action.Leaves given fails symbols cursor post' := by
  intro same
  have ended := leaves same
  generalize action.result (cursor.store symbols) = result at ended ⊢
  cases ended with
  | returns stays holds => exact .returns stays (weaker _ _ _ holds)
  | fails stays failed => exact .fails stays failed

end Action.Leaves

namespace Descent

/-- The next token is there. -/
theorem leaves_next {next : Token → Action α}
    (rest : (next cursor.next).Leaves given fails symbols cursor post) :
    (nextToken >>= next).Leaves given fails symbols cursor post := by
  intro same
  rw [Action.result_bind]
  exact rest same

/-- Behind a token taken, that token is the one matched last. -/
theorem leaves_current {next : Token → Action α} (advanced : cursor.advance? = some moved)
    (rest : (next cursor.next).Leaves given fails symbols moved post) :
    (currentToken >>= next).Leaves given fails symbols moved post := by
  intro same
  have found : currentToken.result (moved.store symbols) =
      some (.ok cursor.next, moved.store symbols) := by
    change (need Lack.value moved.current).result (moved.store symbols) = _
    rw [Cursor.current_of_advance? advanced]
    rfl
  rw [Action.result_bind, found]
  exact rest same

/-- A refusal fails at the position of the cursor. -/
theorem leaves_refuse {fault : CheckFault}
    (failed : fails (.refused fault cursor.position) symbols cursor) :
    (refuse fault : Action α).Leaves given fails symbols cursor post :=
  fun same => .fails same failed

/-- A token that is there is found. -/
theorem result_lookAhead {tape : Tape} {token : Token}
    (found : tape.tokens[tape.position]? = some token) : lookAhead tape = pure token := by
  obtain ⟨inside, -⟩ := List.getElem?_eq_some_iff.mp found
  rw [lookAhead, if_neg (by omega), found]
  rfl

/-- A tape from which a token is to be taken begins with a look ahead. -/
theorem result_takeToken_begun {store : Store} {tape : Tape} (begun : store.tape = some tape) :
    takeToken.result store =
      (lookAhead tape >>= fun token =>
        (modify fun store => { store with tape := some ⟨tape.tokens, tape.position + 1⟩ }) >>=
          fun _ => pure token).result store := by
  change (need Lack.value store.tape >>= fun tape => lookAhead tape >>= fun token =>
    (modify fun store => { store with tape := some { tape with position := tape.position + 1 } })
      >>= fun _ => pure token).result store = _
  rw [begun, need, pure_bind]

/-- A token that is there is taken. -/
theorem result_takeToken {store : Store} {tape : Tape} {token : Token}
    (begun : store.tape = some tape) (found : tape.tokens[tape.position]? = some token) :
    takeToken.result store =
      some (.ok token, { store with tape := some ⟨tape.tokens, tape.position + 1⟩ }) := by
  rw [result_takeToken_begun begun, result_lookAhead found]
  rfl

/-- Once all tokens are taken, there is none to take. -/
theorem result_takeToken_exhausted {store : Store} {tape : Tape} (begun : store.tape = some tape)
    (exhausted : tape.tokens.length ≤ tape.position) :
    takeToken.result store = some (.error (.refused .endOfInput tape.position), store) := by
  rw [result_takeToken_begun begun, lookAhead, if_pos exhausted]
  rfl

variable {kind : TokenKind} {admits : String → Action Bool} {test : Bool} {yes no : Action α}

/-- A probe tells whether kind and text of the next token fit. -/
theorem result_probe (admitted : cursor.next.kind = kind → admits cursor.next.text = pure test) :
    (probe kind admits).result (cursor.store symbols) =
      some (.ok (decide (cursor.next.kind = kind) && test), cursor.store symbols) := by
  change (nextToken >>= fun next =>
    if next.kind = kind then admits next.text else pure false).result _ = _
  rw [Action.result_bind]
  change (if cursor.next.kind = kind then admits cursor.next.text else pure false).result _ = _
  by_cases same : cursor.next.kind = kind
  · simp only [same, if_true, admitted same, decide_true, Bool.true_and]
    rfl
  · simp only [same, if_false, decide_false, Bool.false_and]
    rfl

/-- A procedure goes on by whether the next token fits. -/
theorem leaves_probe (admitted : cursor.next.kind = kind → admits cursor.next.text = pure test)
    (fits : cursor.next.kind = kind → test = true → yes.Leaves given fails symbols cursor post)
    (other : (cursor.next.kind = kind → test = false) →
      no.Leaves given fails symbols cursor post) :
    (probe kind admits >>= fun fits => if fits = true then yes else no).Leaves given fails symbols
      cursor post := by
  intro same
  rw [Action.result_bind, result_probe admitted]
  by_cases agrees : cursor.next.kind = kind ∧ test = true
  · simp only [agrees.1, agrees.2, decide_true, Bool.and_true, if_true]
    exact fits agrees.1 agrees.2 same
  · have differs : (decide (cursor.next.kind = kind) && test) = false := by simpa using agrees
    simp only [differs]
    exact other (fun kinds => by simpa [kinds] using differs) same

/-! ### Single matches -/

/-- A token that fits is taken, and the one behind it is the next one. -/
theorem result_accept_taken
    (admitted : cursor.next.kind = kind → admits cursor.next.text = pure test)
    (fits : (decide (cursor.next.kind = kind) && test) = true)
    (advanced : cursor.advance? = some moved) :
    (accept kind admits).result (cursor.store symbols) = some (.ok true, moved.store symbols) := by
  rw [accept, Action.result_bind, result_probe admitted, fits]
  dsimp only
  rw [if_pos rfl, Action.result_bind, Action.result_modify]
  dsimp only
  rw [Action.result_bind, result_takeToken rfl (Cursor.getElem?_position advanced)]
  dsimp only [Cursor.store]
  rw [Cursor.tokens_of_advance? advanced, Cursor.position_of_advance? advanced,
    Cursor.current_of_advance? advanced]
  rfl

/-- The last token of a tape may fit as well. Then it is the one matched last, but no token is left
to be the next one. -/
theorem result_accept_last
    (admitted : cursor.next.kind = kind → admits cursor.next.text = pure test)
    (fits : (decide (cursor.next.kind = kind) && test) = true) (last : cursor.advance? = none) :
    (accept kind admits).result (cursor.store symbols) =
      some (.error (.refused .endOfInput cursor.position), cursor.matchLast.store symbols) := by
  rw [accept, Action.result_bind, result_probe admitted, fits]
  dsimp only
  rw [if_pos rfl, Action.result_bind, Action.result_modify]
  dsimp only
  rw [Action.result_bind, result_takeToken_exhausted rfl (Cursor.length_le_position last)]
  rfl

/-- Another token is left where it is. -/
theorem result_accept_other
    (admitted : cursor.next.kind = kind → admits cursor.next.text = pure test)
    (differs : (decide (cursor.next.kind = kind) && test) = false) :
    (accept kind admits).result (cursor.store symbols) =
      some (.ok false, cursor.store symbols) := by
  rw [accept, Action.result_bind, result_probe admitted, differs]
  rfl

/-- A procedure goes on behind the next token if it fits, else before it. An end mark is never
taken, so there is a token to go on to. -/
theorem leaves_accept (test : Bool) (marked : EndMarked given) (token : kind ≠ .endOfInput)
    (admitted : cursor.next.kind = kind → admits cursor.next.text = pure test)
    (taken : cursor.next.kind = kind → test = true → ∀ moved, cursor.advance? = some moved →
      yes.Leaves given fails symbols moved post)
    (other : (cursor.next.kind = kind → test = false) →
      no.Leaves given fails symbols cursor post) :
    (accept kind admits >>= fun taken => if taken = true then yes else no).Leaves given fails
      symbols cursor post := by
  intro same
  rw [Action.result_bind]
  cases agrees : decide (cursor.next.kind = kind) && test with
  | true =>
      obtain ⟨kinds, tested⟩ : cursor.next.kind = kind ∧ test = true := by simpa using agrees
      obtain ⟨moved, advanced⟩ := Cursor.exists_advance (same ▸ marked) (kinds ▸ token)
      rw [result_accept_taken admitted agrees advanced]
      exact taken kinds tested moved advanced ((Cursor.tokens_of_advance? advanced).trans same)
  | false =>
      rw [result_accept_other admitted agrees]
      exact other (fun kinds => by simpa [kinds] using agrees) same

/-- A name is looked up. -/
theorem leaves_lookup {token : Token} {next : Symbol → Action α}
    (found : ∀ symbol, symbols.lookup token.text = some symbol →
      (next symbol).Leaves given fails symbols cursor post)
    (absent : symbols.lookup token.text = none →
      fails (.refused (.undeclared token.text) cursor.position) symbols cursor) :
    (lookupSymbol token >>= next).Leaves given fails symbols cursor post := by
  intro same
  rw [Action.result_bind, lookupSymbol, Action.result_bind, Action.result_get]
  dsimp only [Cursor.store]
  cases known : symbols.lookup token.text with
  | some symbol => exact found symbol known same
  | none => exact .fails same (absent known)

/-- A name is declared, unless it is already. -/
theorem leaves_declare {name : String} {type : ValueType} {next : Unit → Action α}
    (added : ∀ declared, symbols.declare? name type = some declared →
      (next ()).Leaves given fails declared cursor post)
    (known : symbols.declare? name type = none →
      fails (.refused (.redeclared name) cursor.position) symbols cursor) :
    (declareSymbol name type >>= next).Leaves given fails symbols cursor post := by
  intro same
  rw [Action.result_bind, declareSymbol, Action.result_bind, Action.result_get]
  dsimp only [Cursor.store]
  cases found : symbols.declare? name type with
  | some declared => exact added declared found same
  | none => exact .fails same (known found)

/-- Behind an operator taken, its entry is found. -/
theorem leaves_currentOperator {operator : Operator} {next : Operator → Action α}
    (advanced : cursor.advance? = some moved) (meaning : cursor.next.lexeme = .operator operator)
    (rest : (next operator).Leaves given fails symbols moved post) :
    (currentToken >>= fun token => need .entry (Operator.ofText? token.text) >>= next).Leaves given
      fails symbols moved post := by
  refine leaves_current advanced ?_
  rw [((lexeme_eq_operator_iff _ _).mp meaning).2, need, pure_bind]
  exact rest

/-! ## What the next token may be -/

/-- A token of a kind is taken, whatever its text. -/
theorem leaves_acceptKind (marked : EndMarked given) (token : kind ≠ .endOfInput)
    (taken : cursor.next.kind = kind → ∀ moved, cursor.advance? = some moved →
      yes.Leaves given fails symbols moved post)
    (other : cursor.next.kind ≠ kind → no.Leaves given fails symbols cursor post) :
    (accept kind anyText >>= fun taken => if taken = true then yes else no).Leaves given fails
      symbols cursor post := by
  refine leaves_accept true marked token (fun _ => rfl) (fun same _ => taken same) ?_
  exact fun differs => other fun same => Bool.noConfusion (differs same)

/-- A keyword is taken. -/
theorem leaves_acceptKeyword {keyword : Keyword} (marked : EndMarked given)
    (taken : cursor.next.lexeme = .keyword keyword → ∀ moved, cursor.advance? = some moved →
      yes.Leaves given fails symbols moved post)
    (other : cursor.next.lexeme ≠ .keyword keyword →
      no.Leaves given fails symbols cursor post) :
    (acceptKeyword keyword >>= fun taken => if taken = true then yes else no).Leaves given fails
      symbols cursor post := by
  refine leaves_accept _ marked (by decide) (fun _ => rfl) (fun kind found => ?_) fun differs => ?_
  · exact taken ((lexeme_eq_keyword_iff _ _).mpr ⟨kind, beq_iff_eq.mp found⟩)
  · refine other fun meaning => ?_
    obtain ⟨kind, found⟩ := (lexeme_eq_keyword_iff _ _).mp meaning
    exact Bool.noConfusion ((beq_iff_eq.mpr found).symm.trans (differs kind))

/-- A separator is taken. -/
theorem leaves_acceptSeparator {separator : Separator} (marked : EndMarked given)
    (taken : cursor.next.lexeme = .separator separator → ∀ moved, cursor.advance? = some moved →
      yes.Leaves given fails symbols moved post)
    (other : cursor.next.lexeme ≠ .separator separator →
      no.Leaves given fails symbols cursor post) :
    (acceptSeparator separator >>= fun taken => if taken = true then yes else no).Leaves given
      fails symbols cursor post := by
  refine leaves_accept _ marked (by decide) (fun _ => rfl) (fun kind found => ?_) fun differs => ?_
  · exact taken ((lexeme_eq_separator_iff _ _).mpr ⟨kind, beq_iff_eq.mp found⟩)
  · refine other fun meaning => ?_
    obtain ⟨kind, found⟩ := (lexeme_eq_separator_iff _ _).mp meaning
    exact Bool.noConfusion ((beq_iff_eq.mpr found).symm.trans (differs kind))

/-- An operator that is admitted is taken. -/
theorem leaves_acceptOperator {admitted : Operator → Bool} (marked : EndMarked given)
    (admits_eq : ∀ text, admits text = pure ((Operator.ofText? text).any admitted))
    (taken : ∀ operator, cursor.next.lexeme = .operator operator → admitted operator = true →
      ∀ moved, cursor.advance? = some moved → yes.Leaves given fails symbols moved post)
    (other : (∀ operator, cursor.next.lexeme = .operator operator → admitted operator = false) →
      no.Leaves given fails symbols cursor post) :
    (accept .operator admits >>= fun taken => if taken = true then yes else no).Leaves given fails
      symbols cursor post := by
  refine leaves_accept _ marked (by decide) (fun _ => admits_eq _) (fun kind found => ?_)
    fun differs => ?_
  · obtain ⟨operator, same, admits⟩ := (Option.any_eq_true _ _).mp found
    exact taken operator ((lexeme_eq_operator_iff _ _).mpr ⟨kind, same⟩) admits
  · refine other fun operator meaning => ?_
    obtain ⟨kind, found⟩ := (lexeme_eq_operator_iff _ _).mp meaning
    simpa [found] using differs kind

/-- The operators that stand between two operands are admitted; the table has an entry for each. -/
theorem binaryText_eq (text : String) :
    binaryText text = pure ((Operator.ofText? text).any Operator.isBinary) := by
  unfold binaryText
  cases Operator.ofText? text <;> rfl

/-- A keyword whose text is found among the types names one. -/
theorem exists_valueType {token : Token} (kind : token.kind = .keyword)
    (found : (ValueType.ofText? token.text).isSome = true) :
    ∃ type, token.valueType? = some type := by
  obtain ⟨type, same⟩ := Option.isSome_iff_exists.mp found
  exact ⟨type, (valueType?_eq_some_iff_ofText? token type).mpr ⟨kind, same⟩⟩

/-- Another token names none. -/
theorem valueType?_eq_none {token : Token}
    (differs : token.kind = .keyword → (ValueType.ofText? token.text).isSome = false) :
    token.valueType? = none := by
  refine Option.eq_none_iff_forall_ne_some.mpr fun type named => ?_
  obtain ⟨kind, found⟩ := (valueType?_eq_some_iff_ofText? token type).mp named
  simpa [found] using differs kind

/-- A procedure goes on by whether the next token names a type. -/
theorem leaves_probeType
    (typed : ∀ type, cursor.next.valueType? = some type →
      yes.Leaves given fails symbols cursor post)
    (untyped : cursor.next.valueType? = none → no.Leaves given fails symbols cursor post) :
    (probe .keyword typeText >>= fun fits => if fits = true then yes else no).Leaves given fails
      symbols cursor post := by
  refine leaves_probe (fun _ => rfl) (fun kind found => ?_) fun differs => ?_
  · obtain ⟨type, named⟩ := exists_valueType kind found
    exact typed type named
  · exact untyped (valueType?_eq_none differs)

/-- The name of a type is taken. -/
theorem leaves_acceptType (marked : EndMarked given)
    (typed : ∀ type, cursor.next.valueType? = some type → ∀ moved, cursor.advance? = some moved →
      yes.Leaves given fails symbols moved post)
    (untyped : cursor.next.valueType? = none → no.Leaves given fails symbols cursor post) :
    (accept .keyword typeText >>= fun taken => if taken = true then yes else no).Leaves given fails
      symbols cursor post := by
  refine leaves_accept _ marked (by decide) (fun _ => rfl) (fun kind found => ?_) fun differs => ?_
  · obtain ⟨type, named⟩ := exists_valueType kind found
    exact typed type named
  · exact untyped (valueType?_eq_none differs)

/-- A procedure goes on by whether the next token ends a list of statements. -/
theorem leaves_probeEnder
    (fits : ∀ keyword, cursor.next.lexeme = .keyword keyword → keyword.endsStatements = true →
      yes.Leaves given fails symbols cursor post)
    (other : (∀ keyword, cursor.next.lexeme = .keyword keyword →
      keyword.endsStatements = false) → no.Leaves given fails symbols cursor post) :
    (probe .keyword enderText >>= fun fits => if fits = true then yes else no).Leaves given fails
      symbols cursor post := by
  refine leaves_probe (fun _ => rfl) (fun kind found => ?_) fun differs => ?_
  · obtain ⟨keyword, same, ends⟩ := (Option.any_eq_true _ _).mp found
    exact fits keyword ((lexeme_eq_keyword_iff _ _).mpr ⟨kind, same⟩) ends
  · refine other fun keyword meaning => ?_
    obtain ⟨kind, found⟩ := (lexeme_eq_keyword_iff _ _).mp meaning
    simpa [endsStatements, found] using differs kind

/-- A procedure goes on by whether the next token ends an expression. -/
theorem leaves_probeExpressionEnd
    (ends : cursor.next.endsExpression = true → yes.Leaves given fails symbols cursor post)
    (other : cursor.next.endsExpression = false → no.Leaves given fails symbols cursor post) :
    (probeExpressionEnd >>= fun ends => if ends = true then yes else no).Leaves given fails symbols
      cursor post := by
  have probed : probeExpressionEnd.result (cursor.store symbols) =
      some (.ok cursor.next.endsExpression, cursor.store symbols) := rfl
  intro same
  rw [Action.result_bind, probed]
  cases found : cursor.next.endsExpression with
  | true => exact ends found same
  | false => exact other found same

/-! ## Loops -/

/-- The loop takes turns until one of them gives nothing. -/
def Repeats {σ : Type} (turn : Turn σ) (loop : σ → Action σ) : Prop :=
  ∀ value, loop value = turn value >>= fun next => next.elim (Pure.pure value) loop

/-- So does the loop of a turn. -/
theorem repeats_loop {σ : Type} (turn : Turn σ) : Repeats turn turn.loop := by
  intro value
  rw [Turn.loop]
  congr 1
  funext next
  cases next <;> rfl

/-- A loop leaves what its last turn leaves, if every turn before it keeps the invariant and gets
further. -/
theorem leaves_loop {σ : Type} {turn : Turn σ} {loop : σ → Action σ}
    (repeats : Repeats turn loop)
    (invariant : σ → SymbolTable → Cursor → Prop) {post : σ → SymbolTable → Cursor → Prop}
    (turns : ∀ value symbols cursor, invariant value symbols cursor →
      (turn value).Leaves given fails symbols cursor fun next declared moved =>
        match next with
        | none => post value declared moved
        | some next => invariant next declared moved ∧ cursor.position < moved.position)
    (value : σ) (holds : invariant value symbols cursor) :
    (loop value).Leaves given fails symbols cursor post := by
  suffices all : ∀ position value symbols cursor, position < cursor.position →
      invariant value symbols cursor → (loop value).Leaves given fails symbols cursor post from
    all 0 value symbols cursor (Nat.succ_pos _) holds
  intro position
  -- Every turn gets further, and nothing is further than the last token.
  induction position using later_induction given.length with
  | last position end_ =>
      intro value symbols cursor further _ same
      have inside := cursor.position_le_length
      rw [same] at inside
      omega
  | earlier position induction =>
      intro value symbols cursor further held
      rw [repeats value]
      refine (turns value symbols cursor held).bind fun next declared moved reached => ?_
      cases next with
      | none => exact .pure reached
      | some next =>
          obtain ⟨again, onward⟩ := reached
          exact induction cursor.position further next declared moved onward again

end Descent

end Dopl.Checker
