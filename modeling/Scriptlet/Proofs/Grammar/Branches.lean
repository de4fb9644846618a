/-
# Proofs.Grammar.Branches -- any statement between `if` and `else`

`if ( C ) S else T` is read as a branch with the two statements that S and T write on their own
(`parse_branch`).  Two things can stand in the way, both at the end of S.  An `if` without `else`
there would take the `else` for itself (`Node.endsOpen`).  And `print` or `return` without an
expression ends before a semicolon, a closing brace or the end only, so that before `else` it
waits for an expression which does not come (`endsBare`): the rules of the grammar would allow
it, but such a program is refused at the `else`.

Apart from these a statement can stand before `else` if it can stand anywhere
(`Statement.before_else`).
-/
import Scriptlet.Proofs.Grammar.Acceptance

namespace Scriptlet

set_option autoImplicit false

/-- Whether a statement ends in an `if` without `else`, in its last branch or the body of its loop
perhaps. -/
def Node.endsOpen : Node → Bool
  | branch _ _ none => true
  | branch _ _ (some alternative) => alternative.endsOpen
  | loop _ body => body.endsOpen
  | _ => false

/-- Whether a terminal is a word that needs no expression behind it. -/
def Terminal.isBareWord : Terminal → Bool
  | .keyword .printWord | .keyword .returnWord => true
  | _ => false

namespace Grammar

open Scriptlet.Parser

variable {tokens rest : List Token} {node : Node} {next : Option Terminal} {other : Token}

/-- The terminal at the back of some tokens, if there is one. -/
def back? (tokens : List Token) : Option Terminal := tokens.getLast?.map Token.terminal

/-- Whether some tokens end in `print` or `return` without an expression. -/
def endsBare (tokens : List Token) : Bool := (back? tokens).any Terminal.isBareWord

/-! ## How phrases end -/

theorem back?_append (first : List Token) (nonempty : tokens ≠ []) :
    back? (first ++ tokens) = back? tokens := by
  rw [back?, List.getLast?_append, List.getLast?_eq_some_getLast nonempty, Option.some_or,
    back?, List.getLast?_eq_some_getLast nonempty]

theorem endsBare_append (first : List Token) (nonempty : tokens ≠ []) :
    endsBare (first ++ tokens) = endsBare tokens := by
  rw [endsBare, back?_append first nonempty, endsBare]

/-- The tokens end in one that is no bare word. -/
def Closes (tokens : List Token) : Prop :=
  ∃ before last, tokens = before ++ [last] ∧ last.terminal.isBareWord = false

theorem Closes.append (closes : Closes tokens) (first : List Token) : Closes (first ++ tokens) := by
  obtain ⟨before, last, rfl, word⟩ := closes
  exact ⟨first ++ before, last, (List.append_assoc ..).symm, word⟩

theorem Closes.cons (closes : Closes tokens) (first : Token) : Closes (first :: tokens) :=
  closes.append [first]

theorem closes_last {last : Token} {sign : Symbol} (here : last.terminal = .symbol sign)
    (before : List Token) : Closes (before ++ [last]) :=
  ⟨before, last, rfl, by rw [here]; rfl⟩

theorem Closes.not_bare (closes : Closes tokens) : ¬ endsBare tokens = true := by
  obtain ⟨before, last, rfl, word⟩ := closes
  simp [endsBare, back?, word]

theorem Enclosed.closes {α : Type} {opening closing : Symbol} {piece : List Token → α → Prop}
    {values : List α} (listed : Enclosed opening closing piece tokens values) : Closes tokens := by
  cases listed with
  | empty _ last => exact closes_last last [_]
  | full _ _ last => exact (closes_last last _).cons _

theorem Block.closes (block : Block tokens node) : Closes tokens := by
  cases block with
  | braces _ _ last => exact (closes_last last _).cons _

theorem FunctionTail.closes (tail : FunctionTail tokens node) : Closes tokens := by
  cases tail with
  | function _ body => exact body.closes.append _

theorem Primary.closes (primary : Primary tokens node) : Closes tokens := by
  cases primary with
  | integer here | float here | string here | name here | trueWord here | falseWord here
  | nullWord here => exact ⟨[], _, rfl, by rw [here]; rfl⟩
  | function _ tail => exact tail.closes.cons _
  | parenthesized parens =>
      cases parens with
      | parens _ _ last => exact (closes_last last _).cons _
  | list elements => exact elements.closes
  | map entries => exact entries.closes

theorem Operand.closes (operand : Operand tokens node) : Closes tokens := by
  cases operand with
  | primary primary => exact primary.closes
  | call _ arguments => exact arguments.closes.append _
  | bareIndex _ _ last => exact (closes_last last [_]).append _
  | index _ _ _ last => exact ((closes_last last _).cons _).append _

mutual

theorem Expression.closes {place : Place} {tokens : List Token} {node : Node} :
    Expression place tokens node → Closes tokens
  | .chain _ chain _ => chain.closes
  | .uncompared inner => inner.closes
  | .compared _ _ right => (right.closes.cons _).append _
  | .sign _ inner => inner.closes.cons _
  | .unsigned operand => operand.closes

theorem Chain.closes {level : Level} {count : Nat} {tokens : List Token} {node : Node} :
    Chain level count tokens node → Closes tokens
  | .one inner => inner.closes
  | .more _ _ right => (right.closes.cons _).append _

end

theorem Statement.nonempty (statement : Statement next tokens node) : tokens ≠ [] := by
  obtain ⟨first, others, rfl, -⟩ := statement.front
  exact List.cons_ne_nil _ _

/-! ## Before `else` -/

theorem endsBare_branch {word other : Token} {first second third : List Token}
    (nonempty : third ≠ []) :
    endsBare (word :: (first ++ (second ++ other :: third))) = endsBare third := by
  rw [show word :: (first ++ (second ++ other :: third))
    = (word :: (first ++ (second ++ [other]))) ++ third by simp, endsBare_append _ nonempty]

theorem endsBare_loop {word : Token} {first second : List Token} (nonempty : second ≠ []) :
    endsBare (word :: (first ++ second)) = endsBare second :=
  endsBare_append (word :: first) nonempty

/-- A statement can stand before `else` unless it ends in an `if` that would take it, or in a bare
word. -/
theorem Statement.before_else {next : Option Terminal} {tokens : List Token} {node : Node} :
    Statement next tokens node → node.endsOpen = false → endsBare tokens = false →
      Statement (some (.keyword .elseWord)) tokens node
  | .barePrint word _ | .bareReturn word _ => fun _ bare => by
      simp [endsBare, back?, word, Terminal.isBareWord] at bare
  | .emptyPrint word opening closing => fun _ _ => .emptyPrint word opening closing
  | .printValue word inner => fun _ _ => .printValue word inner
  | .returnValue word inner => fun _ _ => .returnValue word inner
  | .ifOnly _ _ _ _ => fun closed _ => by cases closed
  | .ifElse word condition consequence here alternative => fun closed bare => by
      rw [endsBare_branch alternative.nonempty] at bare
      exact .ifElse word condition consequence here (alternative.before_else closed bare)
  | .loop word condition body => fun closed bare => by
      rw [endsBare_loop body.nonempty] at bare
      exact .loop word condition (body.before_else closed bare)
  | .function word target tail => fun _ _ => .function word target tail
  | .block braces => fun _ _ => .block braces
  | .expression inner front => fun _ _ => .expression inner front
  | .assignment left front sign right => fun _ _ => .assignment left front sign right

/-- No expression begins with `else`. -/
theorem expression_else (here : other.terminal = .keyword .elseWord) (budget : Nat)
    (nested : Phrase → Parser Node) :
    expression budget nested (other :: rest) = .error (.ofRest .expression (other :: rest)) := by
  obtain ⟨terminal, lexeme, position⟩ := other
  cases here
  rfl

/-- What fails behind the condition of a branch or loop fails there. -/
theorem statement_of_body {word : Token} {first : List Token} {condition : Node} {budget : Nat}
    {error : SyntaxError}
    (here : word.terminal = .keyword .ifWord ∨ word.terminal = .keyword .whileWord)
    (parens : Parenthesized first condition) (fits : (first ++ tokens).length < budget)
    (failed : phrase budget .statement tokens = .error error) :
    phrase (budget + 1) .statement (word :: (first ++ tokens)) = .error error := by
  have read := parenthesized_taken (readsShort_phrase budget) parens (Nat.le_of_lt fits)
  show statement budget (phrase budget) _ = _
  rcases here with word | word <;> rw [statement_of_word word]
  · show ifTail (phrase budget) _ = _
    unfold ifTail
    rw [bind_ok read, bind_error failed]
  · show whileTail (phrase budget) _ = _
    unfold whileTail
    rw [bind_ok read, bind_error failed]

/-- What fails behind `else` fails there. -/
theorem statement_of_alternative {word between : Token} {first second : List Token}
    {condition consequence : Node} {budget : Nat} {error : SyntaxError}
    (here : word.terminal = .keyword .ifWord) (parens : Parenthesized first condition)
    (statement : Statement (some (.keyword .elseWord)) second consequence)
    (between_else : between.terminal = .keyword .elseWord)
    (fits : (first ++ (second ++ between :: tokens)).length < budget)
    (failed : phrase budget .statement tokens = .error error) :
    phrase (budget + 1) .statement (word :: (first ++ (second ++ between :: tokens)))
      = .error error := by
  have reads := readsShort_phrase budget
  have short : (second ++ between :: tokens).length < budget := by
    rw [List.length_append] at fits
    omega
  show Grammar.statement budget (phrase budget) _ = _
  rw [statement_of_word here]
  show ifTail (phrase budget) _ = _
  unfold ifTail
  rw [bind_ok (parenthesized_taken reads parens (Nat.le_of_lt fits)),
    bind_ok (reads.statement statement (.inr rfl) (by simp [between_else]) short), ahead_bind,
    if_pos (by simp [between_else]), skip_bind, bind_error failed]

/-- Behind a bare word an expression is looked for in vain if `else` comes next. -/
theorem Statement.refused_before_else {next : Option Terminal} {tokens : List Token} {node : Node} :
    Statement next tokens node → node.endsOpen = false → endsBare tokens = true →
      ∀ budget, (tokens ++ other :: rest).length < budget →
        other.terminal = .keyword .elseWord →
        phrase budget .statement (tokens ++ other :: rest)
          = .error (.ofRest .expression (other :: rest))
  | .barePrint word _ => fun _ _ budget fits here => by
      obtain _ | budget := budget
      · cases fits
      · have no_parens : front? (other :: rest) ≠ some (.symbol .leftParen) := by simp [here]
        show statement budget (phrase budget) _ = _
        rw [List.singleton_append, statement_of_word word]
        show printTail budget (phrase budget) (other :: rest) = _
        unfold printTail
        rw [bind_ok (acceptEmptyParens_elsewhere fun paren => absurd paren no_parens),
          if_neg Bool.false_ne_true, ahead_bind, front?_cons, here, if_neg (by decide),
          bind_error (expression_else here _ _)]
  | .bareReturn word _ => fun _ _ budget fits here => by
      obtain _ | budget := budget
      · cases fits
      · show statement budget (phrase budget) _ = _
        rw [List.singleton_append, statement_of_word word]
        show returnTail budget (phrase budget) (other :: rest) = _
        unfold returnTail
        rw [ahead_bind, front?_cons, here, if_neg (by decide),
          bind_error (expression_else here _ _)]
  | .ifElse word condition consequence between alternative => fun closed bare budget fits here => by
      rw [endsBare_branch alternative.nonempty] at bare
      obtain _ | budget := budget
      · cases fits
      · simp only [List.cons_append, List.append_assoc] at fits ⊢
        have short := Nat.lt_of_succ_lt_succ fits
        refine statement_of_alternative word condition consequence between short
          (alternative.refused_before_else closed bare budget ?_ here)
        simp only [List.length_append, List.length_cons] at short ⊢
        omega
  | .loop word condition body => fun closed bare budget fits here => by
      rw [endsBare_loop body.nonempty] at bare
      obtain _ | budget := budget
      · cases fits
      · simp only [List.cons_append, List.append_assoc] at fits ⊢
        have short := Nat.lt_of_succ_lt_succ fits
        refine statement_of_body (.inr word) condition short
          (body.refused_before_else closed bare budget ?_ here)
        rw [List.length_append] at short
        omega
  | .emptyPrint _ _ last => fun _ bare => absurd bare ((closes_last last [_]).cons _).not_bare
  | .printValue _ inner | .returnValue _ inner => fun _ bare =>
      absurd bare (inner.closes.cons _).not_bare
  | .ifOnly _ _ _ _ => fun closed => by cases closed
  | .function _ _ tail => fun _ bare => absurd bare ((tail.closes.cons _).cons _).not_bare
  | .block braces => fun _ bare => absurd bare braces.closes.not_bare
  | .expression inner _ => fun _ bare => absurd bare inner.closes.not_bare
  | .assignment _ _ _ right => fun _ bare =>
      absurd bare ((right.closes.cons _).append _).not_bare

/-! ## Branches -/

/-- Some tokens and an end marker are read as a program of one statement. -/
def ReadsStatement (tokens : List Token) (node : Node) : Prop :=
  ∃ marker : Token, marker.terminal = .endMarker
    ∧ parse (tokens ++ [marker]) = .ok (.program [node])

/-- Some tokens are read as an expression up to an end marker behind them. -/
def ReadsExpression (tokens : List Token) (node : Node) : Prop :=
  ∃ marker : Token, marker.terminal = .endMarker
    ∧ phrase ((tokens ++ [marker]).length + 1) .expression (tokens ++ [marker])
      = .ok (node, [marker])

theorem ReadsExpression.expression (reads : ReadsExpression tokens node) :
    Expression .loosest tokens node := by
  obtain ⟨marker, ends, read⟩ := reads
  have settles := (settlesBelow ((tokens ++ [marker]).length + 1)).expression (Nat.lt_succ_self _)
    Nat.one_pos
  cases settles with
  | fails used rest error shape _ _ same =>
      have failed := same ((tokens ++ [marker]).length + 1) rest rfl (by rw [← shape]; omega)
      rw [← shape, read] at failed
      cases failed
  | reads used rest value shape derived same =>
      have taken := same ((tokens ++ [marker]).length + 1) rest rfl (by rw [← shape]; omega)
      rw [← shape, read] at taken
      cases taken
      rwa [List.append_cancel_right shape]

/-- What is read as one statement is a list of one, up to the first end marker. -/
theorem ReadsStatement.statements (reads : ReadsStatement tokens node) (marker : Token)
    (ends : marker.terminal = .endMarker) :
    ∃ used last rest, tokens ++ [marker] = used ++ last :: rest ∧ last.terminal = .endMarker
      ∧ Statements (some .endMarker) used [node] := by
  obtain ⟨other, _, parsed⟩ := reads
  obtain ⟨used, rest, shape, front, derived⟩ := derived_of_parse parsed
  cases derived with
  | program body =>
      rcases List.append_eq_append_iff.mp shape with ⟨more, rfl, last⟩ | ⟨more, rfl, rfl⟩
      · cases more with
        | nil => exact ⟨_, marker, [], by rw [List.append_nil], ends, body⟩
        | cons token more =>
            obtain ⟨rfl, nothing⟩ := List.cons.inj last
            rw [(List.append_eq_nil_iff.mp nothing.symm).2] at front
            cases front
      · cases more with
        | nil => exact ⟨used, marker, [], by rw [List.append_nil], ends, body⟩
        | cons token more =>
            exact ⟨used, token, more ++ [marker], by simp, Option.some.inj front, body⟩

/-- One statement stands alone, or has semicolons behind it. -/
theorem Statements.single (statements : Statements next tokens [node]) :
    Statement next tokens node
    ∨ ∃ first semicolons, tokens = first ++ semicolons
      ∧ Statement (some (.symbol .semicolon)) first node ∧ Semicolons semicolons := by
  cases statements with
  | last statement => exact .inl statement
  | more statement semicolons others =>
      cases others with
      | none => exact .inr ⟨_, _, by rw [List.append_nil], statement, semicolons⟩

theorem Semicolons.back? (semicolons : Semicolons rest) (first : List Token) :
    back? (first ++ rest) = some (.symbol .semicolon) := by
  obtain ⟨several, all⟩ := semicolons
  rw [back?_append first several, Grammar.back?, List.getLast?_eq_some_getLast several,
    Option.map_some, all _ (List.getLast_mem several)]

/-- What is read as one statement and does not end in a semicolon is a statement. -/
theorem ReadsStatement.statement (reads : ReadsStatement tokens node) (unmarked : Unmarked tokens)
    (open_ended : back? tokens ≠ some (.symbol .semicolon)) :
    Statement (some .endMarker) tokens node := by
  obtain ⟨used, last, rest, shape, ends, statements⟩ := reads.statements (.endAt 0) rfl
  rw [unmarked_split unmarked shape (by simp [ends])] at statements
  rcases statements.single with alone | ⟨first, semicolons, rfl, -, behind⟩
  · exact alone
  · exact absurd (behind.back? first) open_ended

/-- The tokens of a branch, given its words and parentheses and what stands between them. -/
def branchOf (word opening closing other : Token) (condition consequence alternative : List Token) :
    List Token :=
  word :: ((opening :: (condition ++ [closing])) ++ (consequence ++ other :: alternative))

/-- What fails at its first statement is no program. -/
theorem parse_of_first {error : SyntaxError} (nests : Nests maxNesting tokens)
    (goes_on : endsStatements (front? tokens) = false)
    (failed : phrase (tokens.length + 1) .statement tokens = .error error) :
    parse tokens = .error error := by
  have stuck : statements (phrase (tokens.length + 1) .statement) (tokens.length + 1) tokens
      = .error error := by
    unfold statements
    rw [ahead_bind, goes_on, if_neg Bool.false_ne_true, bind_error failed]
  rw [parse_of_nests nests]
  unfold program
  rw [bind_error stuck]
  rfl

/-- **Statements compose under `if` and `else`.**  What is read as an expression in parentheses and
what are read as two statements on their own are read as a branch, if `if` and `else` are put
around them.  The first statement may not end in a semicolon or in an `if` without `else`; and if
it ends in `print` or `return` without an expression, then the `else` is refused. -/
theorem parse_branch {word opening closing other marker : Token}
    {condition consequence alternative : List Token} {test yes no : Node}
    (if_word : word.terminal = .keyword .ifWord) (opens : opening.terminal = .symbol .leftParen)
    (closes : closing.terminal = .symbol .rightParen)
    (else_word : other.terminal = .keyword .elseWord) (ends : marker.terminal = .endMarker)
    (tests : ReadsExpression condition test) (acts : ReadsStatement consequence yes)
    (unmarked : Unmarked consequence) (open_ended : back? consequence ≠ some (.symbol .semicolon))
    (closed : yes.endsOpen = false) (otherwise : ReadsStatement alternative no)
    (nests : Nests maxNesting
      (branchOf word opening closing other condition consequence alternative ++ [marker])) :
    parse (branchOf word opening closing other condition consequence alternative ++ [marker])
      = if endsBare consequence then
          .error (.unexpected .expression (.lexeme other.lexeme) other.position)
        else .ok (.program [.branch test yes (some no)]) := by
  have parens : Parenthesized (opening :: (condition ++ [closing])) test :=
    .parens opens tests.expression closes
  have statement := acts.statement unmarked open_ended
  cases bare : endsBare consequence with
  | false =>
      have acts := statement.before_else closed bare
      obtain ⟨used, last, rest, shape, last_ends, statements⟩ := otherwise.statements marker ends
      have whole : branchOf word opening closing other condition consequence alternative ++ [marker]
          = branchOf word opening closing other condition consequence used ++ last :: rest := by
        simp [branchOf, shape]
      rw [whole] at nests ⊢
      refine parse_program nests last_ends (.program ?_)
      rcases statements.single with alone | ⟨first, semicolons, rfl, behind, several⟩
      · exact .last (.ifElse if_word parens acts else_word alone)
      · have list : Statements (some .endMarker) _ [_] :=
          .more (.ifElse if_word parens acts else_word behind) several .none
        simpa [branchOf] using list
  | true =>
      refine parse_of_first nests (by simp [branchOf, if_word, endsStatements]) ?_
      have blamed : SyntaxError.ofRest .expression (other :: (alternative ++ [marker]))
          = .unexpected .expression (.lexeme other.lexeme) other.position := by
        simp [SyntaxError.ofRest, Token.isEnd, else_word]
      have shape : branchOf word opening closing other condition consequence alternative ++ [marker]
          = word :: ((opening :: (condition ++ [closing]))
            ++ (consequence ++ other :: (alternative ++ [marker]))) := by
        simp [branchOf]
      rw [shape, ← blamed]
      refine statement_of_body (.inl if_word) parens (Nat.lt_succ_self _)
        (statement.refused_before_else closed bare _ ?_ else_word)
      simp only [List.length_append, List.length_cons]
      omega

namespace Sample

/-- `while (x) if (1) {} else print()` -/
def stepping : List Token :=
  [⟨.keyword .whileWord, "while", 9⟩, ⟨.symbol .leftParen, "(", 15⟩, ⟨.name, "x", 16⟩,
    ⟨.symbol .rightParen, ")", 17⟩, ⟨.keyword .ifWord, "if", 19⟩, ⟨.symbol .leftParen, "(", 22⟩,
    ⟨.integer 1, "1", 23⟩, ⟨.symbol .rightParen, ")", 24⟩,
    ⟨.symbol .leftBrace, Symbol.leftBrace.spelling, 26⟩,
    ⟨.symbol .rightBrace, Symbol.rightBrace.spelling, 27⟩, ⟨.keyword .elseWord, "else", 29⟩,
    ⟨.keyword .printWord, "print", 34⟩, ⟨.symbol .leftParen, "(", 39⟩,
    ⟨.symbol .rightParen, ")", 40⟩]

/-- `if (y) return;` -/
def leaving : List Token :=
  [⟨.keyword .ifWord, "if", 47⟩, ⟨.symbol .leftParen, "(", 50⟩, ⟨.name, "y", 51⟩,
    ⟨.symbol .rightParen, ")", 52⟩, ⟨.keyword .returnWord, "return", 54⟩,
    ⟨.symbol .semicolon, ";", 60⟩]

end Sample

/-- A loop over a branch with both its statements stands before `else`, and behind it a branch with
one statement, a bare word and a semicolon. -/
theorem parse_branch_stepping :
    parse (branchOf ⟨.keyword .ifWord, "if", 0⟩ ⟨.symbol .leftParen, "(", 3⟩
        ⟨.symbol .rightParen, ")", 7⟩ ⟨.keyword .elseWord, "else", 42⟩
        [⟨.symbol .minus, "-", 4⟩, ⟨.integer 1, "1", 5⟩] Sample.stepping Sample.leaving
      ++ [.endAt 61])
    = .ok (.program [.branch (.unary .negate (.integer 1))
        (.loop (.identifier ⟨"x", some 16⟩)
          (.branch (.integer 1) (.block []) (some (.print none))))
        (some (.branch (.identifier ⟨"y", some 51⟩) (.result none) none))]) :=
  parse_branch rfl rfl rfl rfl rfl ⟨.endAt 0, rfl, rfl⟩ ⟨.endAt 0, rfl, rfl⟩ (by decide) (by decide)
    rfl ⟨.endAt 0, rfl, rfl⟩ (by decide)

/-- Not any statement can stand before `else`: `print` can stand alone, and `2` can, but
`if (1) print else 2` is refused. -/
theorem bare_print_before_else :
    ReadsExpression [⟨.integer 1, "1", 4⟩] (.integer 1)
    ∧ ReadsStatement [⟨.keyword .printWord, "print", 7⟩] (.print none)
    ∧ (Node.print none).endsOpen = false
    ∧ ReadsStatement [⟨.integer 2, "2", 18⟩] (.integer 2)
    ∧ parse (branchOf ⟨.keyword .ifWord, "if", 0⟩ ⟨.symbol .leftParen, "(", 3⟩
        ⟨.symbol .rightParen, ")", 5⟩ ⟨.keyword .elseWord, "else", 13⟩ [⟨.integer 1, "1", 4⟩]
        [⟨.keyword .printWord, "print", 7⟩] [⟨.integer 2, "2", 18⟩] ++ [.endAt 19])
      = .error (.unexpected .expression (.lexeme "else") 13) :=
  ⟨⟨.endAt 0, rfl, rfl⟩, ⟨.endAt 0, rfl, rfl⟩, rfl, ⟨.endAt 0, rfl, rfl⟩, rfl⟩

end Grammar

end Scriptlet
