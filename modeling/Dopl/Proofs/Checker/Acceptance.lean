import Dopl.Proofs.Checker.Completeness
import Dopl.Proofs.Checker.InProgram
import Dopl.Proofs.Checker.Lookahead
import Dopl.Proofs.Checker.Soundness
import Dopl.Proofs.Scanner.Shape

/-! # A source is accepted iff the grammar derives it

* **`path_iff_program`** — the lexemes that lead through a program are those the grammar derives.
* **`exists_path_of_accepted`** — an accepted run takes all tokens but the end mark.
* **`run_of_program`** — the run on a derived program, unless it gets too deep.
* **`verdict_ok_iff_program`** — what that makes of the check of a source. -/

namespace Dopl.Checker

open Grammar

/-- The lexemes that lead from the first state of a program to the last are those of a program, and
the symbols on the way are those it declares. -/
theorem path_iff_program (lexemes : List Lexeme) (table : SymbolTable) :
    Path {} .opening lexemes .trailer table ↔ Program lexemes table := by
  constructor
  · intro path
    have read := read_of_path path (Read.start {} .program)
    rw [List.nil_append] at read
    cases read with
    | @trailer _ groups statements header body =>
        have extended : table = declared groups := header.extended
        rw [extended] at body ⊢
        exact .body header.valid ((SymbolTable.fresh_empty_iff _).mp header.fresh) body
  · exact Program.path

/-! ## Runs -/

/-- With its end mark, a list of other tokens is one token longer. -/
theorem withEnd_eq_concat {tokens : List Token}
    (unmarked : ∀ token ∈ tokens, token.kind ≠ .endOfInput) :
    Token.withEnd tokens = tokens ++ [Token.endOfInput] := by
  unfold Token.withEnd
  split
  · next marked =>
    cases last : tokens.getLast? with
    | none => rw [last] at marked; cases marked
    | some token =>
        rw [last] at marked
        exact absurd (eq_of_beq marked) (unmarked token (List.mem_of_getLast? last))
  · rfl

/-- Among tokens with their end mark added, an end mark has all of them before it. -/
theorem eq_of_concat_end {tokens taken ahead : List Token} {next : Token}
    (unmarked : ∀ token ∈ tokens, token.kind ≠ .endOfInput) (marks : next.kind = .endOfInput)
    (split : tokens ++ [Token.endOfInput] = taken ++ next :: ahead) : tokens = taken := by
  rcases List.eq_nil_or_concat ahead with rfl | ⟨others, last, rfl⟩
  · exact (List.append_inj' split rfl).1
  · rw [List.concat_eq_append, ← List.cons_append, ← List.append_assoc] at split
    have member : next ∈ tokens := by
      rw [(List.append_inj' split rfl).1]
      exact List.mem_append_right taken List.mem_cons_self
    exact absurd marks (unmarked next member)

/-- An accepted run of a program takes all tokens but the end mark, on a path to the last state. -/
theorem exists_path_of_accepted {limit : Option Nat} {tokens : List Token}
    (unmarked : ∀ token ∈ tokens, token.kind ≠ .endOfInput)
    (accepted : (Rule.program.run limit {} (.ofTokens tokens)).cause? = none) :
    ∃ table, Path {} .opening (tokens.map Token.lexeme) .trailer table := by
  obtain ⟨taken, state, table, moved, path, split, -, stop⟩ :=
    exists_path_of_resume limit .opening {} (.ofTokens tokens)
  rw [(split_ofTokens tokens).2, withEnd_eq_concat unmarked] at split
  have ends : (step state table moved.next).Accepts := by
    have accepted : (resume limit .opening {} (.ofTokens tokens)).cause? = none := accepted
    -- Of all stops, only those with an accepting move leave no cause.
    generalize resume limit .opening {} (.ofTokens tokens) = finish at accepted stop
    cases stop with
    | @leave answer left =>
        cases answer with
        | accepted type =>
            rw [left]
            trivial
        | refused fault => cases accepted
    | @takeLast answer _ took _ =>
        cases answer with
        | accepted type =>
            rw [took]
            trivial
        | refused fault => cases accepted
    | exhausted _ _ => cases accepted
    | tooDeep _ _ _ => cases accepted
  obtain ⟨rfl, meaning⟩ := accepts_of_inProgram (inProgram_of_path path trivial) ends
  have marks : moved.next.kind = .endOfInput := kind_of_lexeme (by rw [meaning]; rfl)
  obtain rfl := eq_of_concat_end unmarked marks split
  exact ⟨table, path⟩

/-- Behind the last keyword the end mark is accepted. -/
theorem resume_trailer (limit : Option Nat) (table : SymbolTable) (current : Option Token)
    (before : List Token) :
    resume limit .trailer table ⟨current, before, Token.endOfInput, []⟩ =
      ⟨.answered (.accepted none), ⟨current, before, Token.endOfInput, []⟩, table⟩ :=
  run_of_leave rfl

/-- The run on a derived program, unless it gets too deep, declares its symbols and stops before the
end mark. -/
theorem run_of_program {limit : Option Nat} {tokens : List Token} {table : SymbolTable}
    (unmarked : ∀ token ∈ tokens, token.kind ≠ .endOfInput)
    (program : Program (tokens.map Token.lexeme) table) :
    (Rule.program.run limit {} (.ofTokens tokens)).outcome = .tooDeep ∨
      ∃ current, Rule.program.run limit {} (.ofTokens tokens) =
        ⟨.answered (.accepted none), ⟨current, tokens.reverse, Token.endOfInput, []⟩, table⟩ := by
  obtain ⟨start, split⟩ := split_ofTokens tokens
  rw [withEnd_eq_concat unmarked] at split
  rcases @resume_of_path limit _ _ _ _ _ _ _ _ program.path split with deep | ⟨current, same⟩
  · exact .inl deep
  · rw [start, List.append_nil, resume_trailer] at same
    exact .inr ⟨current, same⟩

/-! ## Sources -/

/-- No token of a scan marks the end of the input. -/
theorem unmarked_scan (source : Source) :
    ∀ token ∈ (scan source).tokens.toList, token.kind ≠ .endOfInput :=
  fun _ member => (isScanned_of_mem_scan (Array.mem_def.mpr member)).kind_ne_endOfInput

/-- An accepted source scans without an error, and the grammar derives its tokens. -/
theorem exists_program_of_ok {limit : Option Nat} {source : Source}
    (accepted : (checkWithin limit source).verdict = .ok) :
    (scan source).errors = #[] ∧
      ∃ table, Program ((scan source).tokens.toList.map Token.lexeme) table := by
  rw [verdict_eq_ok_iff] at accepted
  have clean : (scan source).errors = #[] :=
    errors_eq_empty_of_cause_ne fun error => by
      rw [accepted]
      exact nofun
  rw [checkWithin_of_errors_eq_empty limit clean] at accepted
  obtain ⟨table, path⟩ := exists_path_of_accepted (unmarked_scan source) accepted
  exact ⟨clean, table, (path_iff_program _ _).mp path⟩

/-- The report of a source that scans without an error and is derived, unless its check gets too
deep: there is no cause to refuse it, and the cursor is behind its tokens. -/
theorem checkWithin_of_program {limit : Option Nat} {source : Source} {table : SymbolTable}
    (shallow : ∀ position, (checkWithin limit source).cause ≠ some (.tooDeep position))
    (clean : (scan source).errors = #[])
    (program : Program ((scan source).tokens.toList.map Token.lexeme) table) :
    ∃ current, checkWithin limit source =
      ⟨scan source, none, table,
        some ⟨current, (scan source).tokens.toList.reverse, Token.endOfInput, []⟩⟩ := by
  rw [checkWithin_of_errors_eq_empty limit clean] at shallow ⊢
  rcases @run_of_program limit _ _ (unmarked_scan source) program with deep | ⟨current, same⟩
  · -- The cause of such a run is the one that is excluded.
    refine absurd ?_ (shallow (Rule.program.run limit {}
      (.ofTokens (scan source).tokens.toList)).cursor.position)
    dsimp only
    rw [Finish.cause?, deep]
  · rw [same]
    exact ⟨current, rfl⟩

/-- **A source is accepted iff it scans without an error and the grammar derives its tokens.** Then
its symbols are those that the derivation declares, in order, and the check stopped before the end
mark with all tokens taken. A source that does not scan is refused for its first error. This holds
for every source whose check does not get too deep. -/
theorem verdict_ok_iff_program (limit : Option Nat) (source : Source)
    (shallow : ∀ position, (checkWithin limit source).cause ≠ some (.tooDeep position)) :
    ((checkWithin limit source).verdict = .ok ↔
        (scan source).errors = #[] ∧
          ∃ table, Program ((scan source).tokens.toList.map Token.lexeme) table) ∧
      ((checkWithin limit source).verdict = .ok →
        Program ((scan source).tokens.toList.map Token.lexeme) (checkWithin limit source).symbols ∧
          (∀ table, Program ((scan source).tokens.toList.map Token.lexeme) table →
            table = (checkWithin limit source).symbols) ∧
          ∃ cursor, (checkWithin limit source).cursor = some cursor ∧
            cursor.position = (scan source).tokens.size + 1 ∧
            cursor.next = Token.endOfInput) ∧
      ∀ error, (scan source).errors[0]? = some error →
        (checkWithin limit source).verdict = .error ∧
          (checkWithin limit source).cause = some (.scan error) := by
  refine ⟨⟨exists_program_of_ok, ?_⟩, ?_, ?_⟩
  · rintro ⟨clean, table, program⟩
    obtain ⟨current, report⟩ := checkWithin_of_program shallow clean program
    rw [report]
    rfl
  · intro accepted
    obtain ⟨clean, table, program⟩ := exists_program_of_ok accepted
    -- Every derivation gives the one report, so they all declare the same symbols.
    have declares : ∀ other, Program ((scan source).tokens.toList.map Token.lexeme) other →
        other = (checkWithin limit source).symbols := by
      intro other otherProgram
      obtain ⟨_, report⟩ := checkWithin_of_program shallow clean otherProgram
      rw [report]
    refine ⟨declares table program ▸ program, declares, ?_⟩
    obtain ⟨current, report⟩ := checkWithin_of_program shallow clean program
    rw [report]
    refine ⟨_, rfl, ?_, rfl⟩
    rw [Cursor.position, List.length_reverse, Array.length_toList]
  · intro error noted
    rw [checkWithin_of_error limit noted]
    exact ⟨rfl, rfl⟩

/-- A program with operators and parentheses, and with a branch inside a loop. -/
def nestedProgram : Source :=
  .lines
    ["start integer x; logical b;", "x <- (1 .plus. 2) .mul. .minus. x;", "loopif .not. b do",
      "if x .lt. 5 then print \"a\"; else b <- x .eq. 1; endif;", "endloop; finish"]

/-- It is accepted, so the grammar derives it with the symbols of both its groups. -/
theorem verdict_ok_iff_program_nested :
    (checkWithin (some nestingLimit) nestedProgram).verdict = .ok ∧
      Program ((scan nestedProgram).tokens.toList.map Token.lexeme)
        ⟨[⟨"x", .integer⟩, ⟨"b", .logical⟩]⟩ := by
  have checked : (checkWithin (some nestingLimit) nestedProgram).verdict = .ok ∧
      (checkWithin (some nestingLimit) nestedProgram).symbols =
        ⟨[⟨"x", .integer⟩, ⟨"b", .logical⟩]⟩ := by
    decide +kernel
  obtain ⟨accepted, symbols⟩ := checked
  have shallow : ∀ position,
      (checkWithin (some nestingLimit) nestedProgram).cause ≠ some (.tooDeep position) := by
    rw [(verdict_eq_ok_iff _).mp accepted]
    exact fun _ absurd => by cases absurd
  have program := ((verdict_ok_iff_program _ _ shallow).2.1 accepted).1
  rw [symbols] at program
  exact ⟨accepted, program⟩

end Dopl.Checker
