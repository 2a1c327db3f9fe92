import Dopl.Proofs.Checker.Completeness
import Dopl.Proofs.Checker.Refusal
import Dopl.Scanner

/-! # Runs within a limit on the nesting

A limit stops a run that enters a parenthesis or a body which lies too deep, and has no other
effect. How deep it lies can be told from the tokens alone: by the parentheses and bodies that the
tokens taken before it open and do not close.

* **`Nesting`** — how many parentheses and bodies are open, and what that costs.
* **`Nesting.Exceeds`** — along some lexemes a nest is opened that costs more than a limit.
* **`nesting_of_transition`** — what a state holds open is what its tokens have left open.
* **`run_within`** — a run with a limit against the run without one.
* **`Rule.EntersBeyond`** — the tokens that a rule takes without a limit exceed the limit.
* **`limit_only_stops`** — when a limit stops a rule, and what follows from that. -/

namespace Dopl

/-- Whether the lexeme opens a nest: an expression in parentheses, or the statements of a body. -/
def Lexeme.opensNest : Lexeme → Bool
  | .separator .opening | .keyword .then_ | .keyword .else_ | .keyword .do_ => true
  | _ => false

namespace Checker

/-! ## Nesting -/

/-- How deeply something is nested. -/
structure Nesting where
  /-- The number of open parentheses. -/
  parentheses : Nat := 0
  /-- The number of open bodies. -/
  bodies : Nat := 0
deriving DecidableEq, Repr

namespace Nesting

/-- The cost of the nesting: an open parenthesis costs three, an open body two. -/
def cost (nesting : Nesting) : Nat :=
  3 * nesting.parentheses + 2 * nesting.bodies

/-- The nesting behind a lexeme. A body that follows another one of the same branch is open in its
place. -/
def behind (nesting : Nesting) : Lexeme → Nesting
  | .separator .opening => { nesting with parentheses := nesting.parentheses + 1 }
  | .separator .closing => { nesting with parentheses := nesting.parentheses - 1 }
  | .keyword .then_ | .keyword .do_ => { nesting with bodies := nesting.bodies + 1 }
  | .keyword .endif | .keyword .endloop => { nesting with bodies := nesting.bodies - 1 }
  | _ => nesting

/-- The costs of the nests that are opened along some lexemes, in order. -/
def costs (nesting : Nesting) : List Lexeme → List Nat
  | [] => []
  | lexeme :: rest =>
    if lexeme.opensNest then (nesting.behind lexeme).cost :: (nesting.behind lexeme).costs rest
    else (nesting.behind lexeme).costs rest

/-- Along the lexemes a nest is opened that costs more than the limit. -/
def Exceeds (limit : Nat) (nesting : Nesting) (lexemes : List Lexeme) : Prop :=
  ∃ cost ∈ nesting.costs lexemes, limit < cost

variable {limit : Nat} {nesting : Nesting} {lexeme : Lexeme} {lexemes : List Lexeme}

/-- Along no lexemes nothing is opened. -/
theorem not_exceeds_nil : ¬nesting.Exceeds limit [] := by
  rintro ⟨cost, member, -⟩
  cases member

/-- The first lexeme opens a nest that costs too much, or those behind it do. -/
theorem exceeds_cons :
    nesting.Exceeds limit (lexeme :: lexemes) ↔
      lexeme.opensNest = true ∧ limit < (nesting.behind lexeme).cost ∨
        (nesting.behind lexeme).Exceeds limit lexemes := by
  unfold Exceeds
  rw [costs]
  split
  · next opens => simp [opens]
  · next opens => simp [opens]

/-- Whether lexemes exceed a limit can be decided. -/
instance : Decidable (nesting.Exceeds limit lexemes) :=
  inferInstanceAs (Decidable (∃ cost ∈ nesting.costs lexemes, limit < cost))

/-- What is opened along two lists of lexemes is opened along the first, or along the second with
the nesting behind the first. -/
theorem exceeds_append {others : List Lexeme} :
    nesting.Exceeds limit (lexemes ++ others) ↔
      nesting.Exceeds limit lexemes ∨ (lexemes.foldl behind nesting).Exceeds limit others := by
  induction lexemes generalizing nesting with
  | nil => exact ⟨.inr, fun exceeds => exceeds.resolve_left not_exceeds_nil⟩
  | cons lexeme rest induction =>
      rw [List.cons_append, exceeds_cons, exceeds_cons, induction, or_assoc, List.foldl_cons]

/-- Parts that close again all they open exceed a limit iff one of them does. -/
theorem exceeds_flatten {parts : List (List Lexeme)}
    (closed : ∀ part ∈ parts, part.foldl behind nesting = nesting) :
    nesting.Exceeds limit parts.flatten ↔ ∃ part ∈ parts, nesting.Exceeds limit part := by
  induction parts with
  | nil => simp [not_exceeds_nil]
  | cons part rest induction =>
      obtain ⟨first, others⟩ := List.forall_mem_cons.mp closed
      rw [List.flatten_cons, exceeds_append, first, induction others]
      simp

/-- What exceeds a limit exceeds all smaller ones. -/
theorem Exceeds.mono {smaller : Nat} (exceeds : nesting.Exceeds limit lexemes)
    (less : smaller ≤ limit) : nesting.Exceeds smaller lexemes := by
  obtain ⟨cost, member, more⟩ := exceeds
  exact ⟨cost, member, Nat.lt_of_le_of_lt less more⟩

/-- Where more is open, more is open behind a lexeme. -/
theorem behind_mono {deeper : Nesting} (parentheses : nesting.parentheses ≤ deeper.parentheses)
    (bodies : nesting.bodies ≤ deeper.bodies) (lexeme : Lexeme) :
    (nesting.behind lexeme).parentheses ≤ (deeper.behind lexeme).parentheses ∧
      (nesting.behind lexeme).bodies ≤ (deeper.behind lexeme).bodies := by
  obtain ⟨opened, entered⟩ := nesting
  obtain ⟨moreOpened, moreEntered⟩ := deeper
  dsimp only at parentheses bodies
  unfold behind
  split <;> simp only <;> omega

/-- What exceeds a limit does so also where more is open before it. -/
theorem Exceeds.deepen {deeper : Nesting} (exceeds : nesting.Exceeds limit lexemes)
    (parentheses : nesting.parentheses ≤ deeper.parentheses)
    (bodies : nesting.bodies ≤ deeper.bodies) : deeper.Exceeds limit lexemes := by
  induction lexemes generalizing nesting deeper with
  | nil => exact absurd exceeds not_exceeds_nil
  | cons lexeme rest induction =>
      obtain ⟨moreParentheses, moreBodies⟩ := behind_mono parentheses bodies lexeme
      rw [exceeds_cons] at exceeds ⊢
      rcases exceeds with ⟨opens, more⟩ | later
      · refine .inl ⟨opens, ?_⟩
        unfold cost at more ⊢
        omega
      · exact .inr (induction later moreParentheses moreBodies)

/-- Lexemes that open no nest exceed no limit. -/
theorem not_exceeds_of_flat (flat : ∀ lexeme ∈ lexemes, lexeme.opensNest = false) :
    ¬nesting.Exceeds limit lexemes := by
  induction lexemes generalizing nesting with
  | nil => exact not_exceeds_nil
  | cons lexeme rest induction =>
      rw [exceeds_cons, not_or]
      refine ⟨fun opened => ?_, induction fun other member =>
        flat other (List.mem_cons_of_mem lexeme member)⟩
      rw [flat lexeme List.mem_cons_self] at opened
      cases opened.1

/-- Only a lexeme that opens a nest makes the nesting cost more. -/
theorem cost_behind_le (flat : lexeme.opensNest = false) :
    (nesting.behind lexeme).cost ≤ nesting.cost := by
  obtain ⟨parentheses, bodies⟩ := nesting
  unfold behind
  split
  · cases flat
  · simp only [cost]
    omega
  · cases flat
  · cases flat
  · simp only [cost]
    omega
  · simp only [cost]
    omega
  · exact Nat.le_refl _

end Nesting

/-! ## The nesting of a state -/

/-- What a state holds open. -/
def State.nesting (state : State) : Nesting :=
  ⟨state.openParentheses, state.openBodies⟩

/-- The depth of a state is the cost of its nesting. -/
theorem State.depth_eq_cost (state : State) : state.depth = state.nesting.cost :=
  rfl

variable {symbols symbols' : SymbolTable} {state state' : State} {lexeme : Lexeme} {token : Token}
  {answer : Answer}

/-- A token that is taken changes what the state holds open as its lexeme says. -/
theorem nesting_of_transition (transition : Transition symbols state lexeme state' symbols') :
    state'.nesting = state.nesting.behind lexeme := by
  induction transition with
  | statement _ induction => exact induction
  | operand _ induction => exact induction
  | @group _ type names =>
      obtain rfl := (Grammar.valueType?_eq_some_iff _ type).mp names
      cases type <;> rfl
  | @groupHead _ type names =>
      obtain rfl := (Grammar.valueType?_eq_some_iff _ type).mp names
      cases type <;> rfl
  | _ => rfl

/-- So do all the tokens along a path. -/
theorem nesting_of_path {lexemes : List Lexeme}
    (path : Path symbols state lexemes state' symbols') :
    state'.nesting = lexemes.foldl Nesting.behind state.nesting := by
  induction path with
  | refl => rfl
  | step transition _ induction =>
      rw [induction, nesting_of_transition transition, List.foldl_cons]

/-- Every rule starts with nothing open. -/
theorem nesting_start (rule : Rule) : rule.start.nesting = {} := by
  cases rule <;> rfl

/-! ## The last token of a rule -/

/-- The last token of a rule at the start of a statement opens no nest. -/
theorem flat_of_stepStatement {nest : Nest}
    (taken : stepStatement nest symbols token = .takeLast answer) :
    token.lexeme.opensNest = false := by
  unfold stepStatement at taken
  split at taken
  · next name meaning => rw [meaning]; rfl
  · split at taken
    · exact absurd taken endList_ne_takeLast
    · split at taken <;> cases taken
  · cases taken

/-- Nor does the last token of a group. -/
theorem flat_of_stepGroup {type : ValueType} {phase : GroupPhase} {alone : Bool}
    (taken : stepGroup type phase alone symbols token = .takeLast answer) :
    token.lexeme.opensNest = false := by
  unfold stepGroup at taken
  split at taken
  · next meaning => rw [meaning]; rfl
  · next meaning => rw [meaning]; rfl
  · next name meaning => rw [meaning]; rfl
  · cases taken

/-- Nor does an operand that is the last token of a rule. -/
theorem flat_of_stepOperand {reading : Reading}
    (taken : stepOperand reading symbols token = .takeLast answer) :
    token.lexeme.opensNest = false := by
  unfold stepOperand at taken
  split at taken
  · next meaning => rw [meaning]; rfl
  · next text meaning => rw [meaning]; rfl
  · next name meaning => rw [meaning]; rfl
  · cases taken
  · cases taken

/-- Nor does the end of an expression that is the last token of a rule. -/
theorem flat_of_endExpression {type : ValueType} {enclosing : List Awaiting} {purpose : Purpose}
    (taken : endExpression type enclosing purpose symbols token = .takeLast answer) :
    token.lexeme.opensNest = false := by
  unfold endExpression at taken
  split at taken
  · rw [(requireSeparator_eq_takeLast taken).1]
    rfl
  · split at taken
    · cases taken
    · cases taken
    · split at taken <;> cases taken
    · split at taken
      · rw [(requireSeparator_eq_takeLast taken).1]
        rfl
      · cases taken
    · rw [(requireSeparator_eq_takeLast taken).1]
      rfl
    · split at taken
      · exact absurd taken requireKeyword_ne_takeLast
      · cases taken
    · split at taken
      · exact absurd taken requireKeyword_ne_takeLast
      · cases taken

/-- The last token that a rule takes opens no nest. -/
theorem opensNest_of_takeLast (taken : step state symbols token = .takeLast answer) :
    token.lexeme.opensNest = false := by
  cases state with
  | opening => exact absurd taken requireKeyword_ne_takeLast
  | declarations =>
      simp only [step] at taken
      split at taken
      · cases taken
      · exact flat_of_stepStatement taken
  | groupHead =>
      simp only [step] at taken
      split at taken <;> cases taken
  | group type phase alone => exact flat_of_stepGroup taken
  | statement nest => exact flat_of_stepStatement taken
  | arrow target nest =>
      simp only [step] at taken
      split at taken <;> cases taken
  | term reading =>
      simp only [step, stepTerm] at taken
      split at taken
      · cases taken
      · cases taken
      · exact flat_of_stepOperand taken
  | operand reading => exact flat_of_stepOperand taken
  | operator type enclosing purpose =>
      simp only [step, stepOperator] at taken
      split at taken
      · exact flat_of_endExpression taken
      · split at taken
        · split at taken <;> cases taken
        · cases taken
  | semicolon nest =>
      rw [(requireSeparator_eq_takeLast taken).1]
      rfl
  | trailer =>
      simp only [step] at taken
      split at taken <;> cases taken

/-! ## Runs -/

/-- Without a limit nothing is too deep. -/
theorem run_none_ne_tooDeep (state : State) (symbols : SymbolTable) (current : Option Token)
    (before : List Token) (next : Token) (ahead : List Token) :
    (run none state symbols current before next ahead).outcome ≠ .tooDeep := by
  obtain ⟨_, last, declared, moved, -, -, -, stop⟩ :=
    exists_path_of_resume none state symbols ⟨current, before, next, ahead⟩
  rw [resume] at stop
  generalize run none state symbols current before next ahead = finish at stop ⊢
  cases stop with
  | leave _ => exact nofun
  | takeLast _ _ => exact nofun
  | exhausted _ _ => exact nofun
  | tooDeep _ _ deep => cases deep

/-- **A run with a limit against the run without one.** If a nest that is opened by the tokens which
the free run takes costs too much, the limited run is too deep; otherwise it is the free run. The
induction is on the tokens behind the next one, and the nesting of the state is what the tokens
before have left open. -/
theorem run_within (limit : Nat) (state : State) (symbols : SymbolTable) (current : Option Token)
    (before : List Token) (next : Token) (ahead : List Token) (shallow : state.depth ≤ limit)
    {taken : List Token}
    (behind : (run none state symbols current before next ahead).cursor.before =
      taken.reverse ++ before) :
    (state.nesting.Exceeds limit (taken.map Token.lexeme) →
      (run (some limit) state symbols current before next ahead).outcome = .tooDeep) ∧
    (¬state.nesting.Exceeds limit (taken.map Token.lexeme) →
      run (some limit) state symbols current before next ahead =
        run none state symbols current before next ahead) := by
  induction ahead generalizing state symbols current before next taken with
  | nil =>
      have nothing : taken = [] := by
        unfold run at behind
        split at behind <;> simpa using behind
      rw [nothing]
      refine ⟨fun exceeds => absurd exceeds Nesting.not_exceeds_nil, fun _ => ?_⟩
      unfold run
      rfl
  | cons token rest induction =>
      cases moved : step state symbols next with
      | leave answer =>
          rw [run_of_leave moved] at behind
          have nothing : taken = [] := by simpa using behind
          rw [run_of_leave moved, run_of_leave moved, nothing]
          exact ⟨fun exceeds => absurd exceeds Nesting.not_exceeds_nil, fun _ => rfl⟩
      | takeLast answer =>
          rw [run_of_takeLast moved] at behind
          have last : taken = [next] := by
            simpa using (congrArg List.reverse behind).symm
          have flat : ∀ lexeme ∈ taken.map Token.lexeme, lexeme.opensNest = false := by
            simpa [last] using opensNest_of_takeLast moved
          rw [run_of_takeLast moved, run_of_takeLast moved]
          exact ⟨fun exceeds => absurd exceeds (Nesting.not_exceeds_of_flat flat), fun _ => rfl⟩
      | take state' symbols' =>
          obtain ⟨others, further⟩ :=
            exists_taken none state' symbols' (some next) (next :: before) token rest
          have free : run none state symbols current before next (token :: rest) =
              run none state' symbols' (some next) (next :: before) token rest :=
            run_of_take moved
          have first : taken = next :: others := by
            rw [free, further] at behind
            simpa using (congrArg List.reverse behind).symm
          have nested := nesting_of_transition (step_eq_take_iff.mp moved)
          rw [free, run_of_take moved, first, List.map_cons, Nesting.exceeds_cons, ← nested,
            ← State.depth_eq_cost]
          by_cases deep : limit < state'.depth
          · -- Only a token that opens a nest leads from a shallow state to a deep one.
            have opens : next.lexeme.opensNest = true := by
              cases flat : next.lexeme.opensNest with
              | true => rfl
              | false =>
                  have cheaper := @Nesting.cost_behind_le state.nesting _ flat
                  rw [← nested, ← State.depth_eq_cost, ← State.depth_eq_cost] at cheaper
                  exact absurd (Nat.le_trans cheaper shallow) (Nat.not_le_of_lt deep)
            have stopped : ((some limit).any fun limit => decide (limit < state'.depth)) = true :=
              decide_eq_true deep
            rw [if_pos stopped]
            exact ⟨fun _ => rfl, fun stays => absurd (.inl ⟨opens, deep⟩) stays⟩
          · have goesOn :
                ¬((some limit).any fun limit => decide (limit < state'.depth)) = true := by
              simpa using deep
            have rested := induction state' symbols' (some next) (next :: before) token
              (Nat.le_of_not_lt deep) further
            rw [if_neg goesOn]
            refine ⟨fun exceeds => rested.1 ?_, fun stays => rested.2 fun exceeds => ?_⟩
            · exact exceeds.resolve_left fun opened => deep opened.2
            · exact stays (.inr exceeds)

/-! ## Rules -/

/-- The tokens taken since an earlier place, in order. -/
def Cursor.takenSince (cursor earlier : Cursor) : List Token :=
  cursor.before.reverse.drop earlier.before.length

/-- Without a limit the rule enters a nest that costs more than the limit, before it is over. -/
def Rule.EntersBeyond (limit : Nat) (rule : Rule) (symbols : SymbolTable) (cursor : Cursor) :
    Prop :=
  ({} : Nesting).Exceeds limit
    (((rule.run none symbols cursor).cursor.takenSince cursor).map Token.lexeme)

/-- Whether a rule enters such a nest can be decided. -/
instance (limit : Nat) (rule : Rule) (symbols : SymbolTable) (cursor : Cursor) :
    Decidable (rule.EntersBeyond limit symbols cursor) :=
  inferInstanceAs (Decidable (Nesting.Exceeds _ _ _))

section

variable {limit : Nat} {rule : Rule} {cursor : Cursor}

/-- The tokens put on those taken before are the ones taken since. -/
theorem takenSince_eq {moved : Cursor} {taken : List Token}
    (behind : moved.before = taken.reverse ++ cursor.before) : moved.takenSince cursor = taken := by
  rw [Cursor.takenSince, behind, List.reverse_append, List.reverse_reverse,
    ← List.length_reverse, List.drop_left]

/-- A rule with a limit against the rule without one. -/
theorem rule_within (limit : Nat) (rule : Rule) (symbols : SymbolTable) (cursor : Cursor) :
    (rule.EntersBeyond limit symbols cursor →
      (rule.run (some limit) symbols cursor).outcome = .tooDeep) ∧
    (¬rule.EntersBeyond limit symbols cursor →
      rule.run (some limit) symbols cursor = rule.run none symbols cursor) := by
  obtain ⟨taken, behind⟩ : ∃ taken : List Token,
      (rule.run none symbols cursor).cursor.before = taken.reverse ++ cursor.before :=
    exists_taken none rule.start symbols cursor.current cursor.before cursor.next cursor.ahead
  have shallow : rule.start.depth ≤ limit := by
    rw [State.depth_eq_cost, nesting_start]
    exact Nat.zero_le limit
  have within := run_within limit rule.start symbols cursor.current cursor.before cursor.next
    cursor.ahead shallow behind
  rw [nesting_start] at within
  unfold Rule.EntersBeyond
  rw [takenSince_eq behind]
  exact within

/-- A rule gets too deep within a limit iff it enters a nest beyond it. -/
theorem outcome_eq_tooDeep_iff :
    (rule.run (some limit) symbols cursor).outcome = .tooDeep ↔
      rule.EntersBeyond limit symbols cursor := by
  refine ⟨fun deep => ?_, (rule_within limit rule symbols cursor).1⟩
  by_cases enters : rule.EntersBeyond limit symbols cursor
  · exact enters
  · rw [(rule_within limit rule symbols cursor).2 enters] at deep
    exact absurd deep (run_none_ne_tooDeep _ _ _ _ _ _)

/-- A rule that does not get too deep ends in the same way within every larger limit. -/
theorem run_eq_of_le {larger : Nat} (less : limit ≤ larger)
    (shallow : (rule.run (some limit) symbols cursor).outcome ≠ .tooDeep) :
    rule.run (some larger) symbols cursor = rule.run (some limit) symbols cursor := by
  have stays : ¬rule.EntersBeyond limit symbols cursor := fun enters =>
    shallow (outcome_eq_tooDeep_iff.mpr enters)
  rw [(rule_within limit rule symbols cursor).2 stays,
    (rule_within larger rule symbols cursor).2 fun enters => stays (enters.mono less)]

/-! ## Lists of statements -/

/-- Where the statements of a list stand that is read alone. -/
def listAlone : Nest :=
  { outermost := .statements }

/-- Statements, one behind the other, lead back to where a statement may stand. -/
theorem path_of_statements {statements : List (List Token)}
    (valid : ∀ statement ∈ statements, Grammar.Statement symbols (statement.map Token.lexeme)) :
    Path symbols (.statement listAlone) (statements.flatten.map Token.lexeme)
      (.statement listAlone) symbols := by
  induction statements with
  | nil => exact .refl
  | cons statement rest induction =>
      rw [List.flatten_cons, List.map_append]
      exact ((valid statement List.mem_cons_self).path listAlone rfl).append
        (induction fun other member => valid other (List.mem_cons_of_mem statement member))

/-- Statements exceed a limit iff one of them does: whatever one opens it has closed again. -/
theorem exceeds_flatten_iff {statements : List (List Token)}
    (valid : ∀ statement ∈ statements, Grammar.Statement symbols (statement.map Token.lexeme)) :
    ({} : Nesting).Exceeds limit (statements.flatten.map Token.lexeme) ↔
      ∃ statement ∈ statements, ({} : Nesting).Exceeds limit (statement.map Token.lexeme) := by
  have closed : ∀ part ∈ statements.map (List.map Token.lexeme),
      part.foldl Nesting.behind {} = {} := by
    intro part member
    obtain ⟨statement, listed, rfl⟩ := List.mem_map.mp member
    exact (nesting_of_path ((valid statement listed).path listAlone rfl)).symm
  rw [List.map_flatten, Nesting.exceeds_flatten closed]
  constructor
  · rintro ⟨part, member, exceeds⟩
    obtain ⟨statement, listed, rfl⟩ := List.mem_map.mp member
    exact ⟨statement, listed, exceeds⟩
  · rintro ⟨statement, listed, exceeds⟩
    exact ⟨_, List.mem_map_of_mem listed, exceeds⟩

/-- Without a limit a list of statements is read up to the keyword that ends it. -/
theorem run_statements {statements : List (List Token)} {next : Token} {ahead : List Token}
    {keyword : Keyword}
    (valid : ∀ statement ∈ statements, Grammar.Statement symbols (statement.map Token.lexeme))
    (meaning : next.lexeme = .keyword keyword) (ends : keyword.endsStatements = true)
    (split : cursor.next :: cursor.ahead = statements.flatten ++ next :: ahead) :
    ∃ current, Rule.statements.run none symbols cursor =
      ⟨.answered (.accepted none),
        ⟨current, statements.flatten.reverse ++ cursor.before, next, ahead⟩, symbols⟩ := by
  have left : step (.statement listAlone) symbols next = .leave (.accepted none) :=
    stepStatement_of_ender meaning rfl ends
  have followed := @resume_of_path none (.statement listAlone) _ symbols symbols cursor _ _ _
    (path_of_statements valid) split
  rcases followed with deep | ⟨current, followed⟩
  · exact absurd deep (run_none_ne_tooDeep _ _ _ _ _ _)
  · exact ⟨current, followed.trans (run_of_leave left)⟩

end

/-- **The limit only stops a run.** Within a limit, a rule gets too deep iff the free run of the
rule enters a nest that costs more, before it is over and before its first fault; otherwise it ends
just like the free run, at the same place and with the same symbols. So it ends in the same way
within all larger limits, too. Tokens that open no nest are never too deep, however many they are:
operators before an operand, terms and operators side by side, names of a group. Nor is a list of
statements, unless one of them is by itself. -/
theorem limit_only_stops (limit : Nat) :
    (∀ (rule : Rule) (symbols : SymbolTable) (cursor : Cursor),
      ((rule.run (some limit) symbols cursor).outcome = .tooDeep ↔
        rule.EntersBeyond limit symbols cursor) ∧
      (¬rule.EntersBeyond limit symbols cursor →
        rule.run (some limit) symbols cursor = rule.run none symbols cursor)) ∧
    (∀ (larger : Nat) (rule : Rule) (symbols : SymbolTable) (cursor : Cursor), limit ≤ larger →
      (rule.run (some limit) symbols cursor).outcome ≠ .tooDeep →
        rule.run (some larger) symbols cursor = rule.run (some limit) symbols cursor) ∧
    (∀ (rule : Rule) (symbols : SymbolTable) (cursor : Cursor),
      (∀ token ∈ (rule.run none symbols cursor).cursor.takenSince cursor,
        token.lexeme.opensNest = false) →
        (rule.run (some limit) symbols cursor).outcome ≠ .tooDeep ∧
          rule.run (some limit) symbols cursor = rule.run none symbols cursor) ∧
    ∀ (symbols : SymbolTable) (cursor : Cursor) (statements : List (List Token)) (next : Token)
      (ahead : List Token) (keyword : Keyword),
      (∀ statement ∈ statements, Grammar.Statement symbols (statement.map Token.lexeme)) →
      next.lexeme = .keyword keyword → keyword.endsStatements = true →
      cursor.next :: cursor.ahead = statements.flatten ++ next :: ahead →
        ((Rule.statements.run (some limit) symbols cursor).outcome = .tooDeep ↔
          ∃ statement ∈ statements, ({} : Nesting).Exceeds limit (statement.map Token.lexeme)) ∧
        ((Rule.statements.run (some limit) symbols cursor).outcome ≠ .tooDeep →
          (Rule.statements.run (some limit) symbols cursor).outcome =
            .answered (.accepted none)) := by
  refine ⟨fun rule symbols cursor =>
      ⟨outcome_eq_tooDeep_iff, (rule_within limit rule symbols cursor).2⟩,
    fun larger rule symbols cursor => run_eq_of_le, ?_, ?_⟩
  · intro rule symbols cursor flat
    have stays : ¬rule.EntersBeyond limit symbols cursor :=
      Nesting.not_exceeds_of_flat (by simpa using flat)
    exact ⟨fun deep => stays (outcome_eq_tooDeep_iff.mp deep),
      (rule_within limit rule symbols cursor).2 stays⟩
  · intro symbols cursor statements next ahead keyword valid meaning ends split
    obtain ⟨current, free⟩ := run_statements valid meaning ends split
    have enters : Rule.statements.EntersBeyond limit symbols cursor ↔
        ∃ statement ∈ statements, ({} : Nesting).Exceeds limit (statement.map Token.lexeme) := by
      rw [← exceeds_flatten_iff valid, Rule.EntersBeyond, free, takenSince_eq rfl]
    refine ⟨outcome_eq_tooDeep_iff.trans enters, fun shallow => ?_⟩
    rw [(rule_within limit .statements symbols cursor).2
      fun beyond => shallow (outcome_eq_tooDeep_iff.mpr beyond), free]

/-- An output of a number in parentheses. -/
def printedNumber : List Token :=
  [⟨.keyword, "print"⟩, ⟨.separator, "("⟩, ⟨.integer, "1"⟩, ⟨.separator, ")"⟩, ⟨.separator, ";"⟩]

/-- The output is a statement. -/
theorem statement_printedNumber : Grammar.Statement {} (printedNumber.map Token.lexeme) := by
  have lexemes : printedNumber.map Token.lexeme =
      .keyword .print :: ((.separator .opening :: ([.integer] ++ []) ++
        [.separator .closing]) ++ []) ++ [.separator .semicolon] := by
    decide +kernel
  rw [lexemes]
  exact .output (.join (.parentheses (.join .integer .nil)) .nil)

/-- The limit at work: two parentheses cost six, so they are too deep within three, and all limits
from six on are the same to them; a fault before them comes first; operators before an operand cost
nothing; and two statements with a parenthesis each cost no more than one. -/
theorem limit_only_stops_parentheses :
    (Rule.expression.run (some 3) {} (.ofTokens (scan (.text "((1))")).tokens.toList)).outcome =
        .tooDeep ∧
      Rule.expression.run (some 1000) {} (.ofTokens (scan (.text "((1))")).tokens.toList) =
        Rule.expression.run (some 6) {} (.ofTokens (scan (.text "((1))")).tokens.toList) ∧
      (Rule.expression.run (some 0) {}
        (.ofTokens (scan (.text "1 2 ((1))")).tokens.toList)).outcome =
        .answered (.refused (.operatorRequired ⟨.integer, "2"⟩)) ∧
      (Rule.term.run (some 0) {}
        (.ofTokens (scan (.text ".not. .minus. .not. 1")).tokens.toList)).outcome ≠ .tooDeep ∧
      (Rule.statements.run (some 3) {}
        (.ofTokens (scan (.text "print (1); print (1); finish")).tokens.toList)).outcome =
        .answered (.accepted none) := by
  refine ⟨?_, ?_, ?_, ?_, ?_⟩
  · exact (((limit_only_stops 3).1 .expression {} _).1).mpr (by decide +kernel)
  · exact (limit_only_stops 6).2.1 1000 .expression {} _ (by decide) (by decide +kernel)
  · rw [((limit_only_stops 0).1 .expression {} _).2 (by decide +kernel)]
    decide +kernel
  · exact ((limit_only_stops 0).2.2.1 .term {} _ (by decide +kernel)).1
  · -- Both statements are the same, and alone they cost three.
    have valid : ∀ statement ∈ [printedNumber, printedNumber],
        Grammar.Statement {} (statement.map Token.lexeme) := by
      simpa using statement_printedNumber
    have list := (limit_only_stops 3).2.2.2 {}
      (.ofTokens (scan (.text "print (1); print (1); finish")).tokens.toList)
      [printedNumber, printedNumber] ⟨.keyword, "finish"⟩ [Token.endOfInput] .finish valid
      (by decide +kernel) rfl (by decide +kernel)
    exact list.2 fun deep => absurd (list.1.mp deep) (by decide +kernel)

end Checker

end Dopl
