/-
# Proofs.Grammar.Heights -- how high the tree of a program can be

The bound on nesting counts brackets, signs and the operators of a chain.  A tree grows by
them, but not only by them: the body of an `if` or a `while` needs no brackets, and neither
does what a call or an index stands behind.  So no bound holds for the height of all trees
that the parser returns (`height_unbounded`).

Apart from these two ways to grow, the bound on nesting keeps every tree low.  `nesting` is
the height with nothing counted for them, and it stays within a number that depends on the
bound alone (`nesting_le_of_parse`): between two brackets there is room for one statement,
four chains of operators, a comparison, a run of signs, a function and its block.
-/
import Scriptlet.Proofs.Grammar.Room
import Scriptlet.Proofs.Sessions

namespace Scriptlet

set_option autoImplicit false

/-! ## Heights of trees -/

namespace Node

mutual

/-- The height of a tree in which the bodies of branches and loops, and what is called or
indexed, lie `step` levels below their node, and every other child one level. -/
def heightWith (step : Nat) (node : Node) : Nat :=
  match node with
  | integer _ | float _ | string _ | boolean _ | null | identifier _ => 1
  | binary _ left right => max (left.heightWith step) (right.heightWith step) + 1
  | unary _ operand => operand.heightWith step + 1
  | list elements => heightWithAll step elements + 1
  | map entries => heightWithEntries step entries + 1
  | print value => heightWithOption step value + 1
  | assign _ value => value.heightWith step + 1
  | branch condition consequence alternative =>
      max (condition.heightWith step + 1)
        (max (consequence.heightWith step) (heightWithOption step alternative) + step)
  | loop condition body => max (condition.heightWith step + 1) (body.heightWith step + step)
  | result value => heightWithOption step value + 1
  | block statements => heightWithAll step statements + 1
  | program statements => heightWithAll step statements + 1
  | function _ body => body.heightWith step + 1
  | call callee arguments =>
      max (callee.heightWith step + step) (heightWithAll step arguments + 1)
  | index base position =>
      max (base.heightWith step + step) (heightWithOption step position + 1)
termination_by structural node

def heightWithAll (step : Nat) (nodes : List Node) : Nat :=
  match nodes with
  | [] => 0
  | node :: nodes => max (node.heightWith step) (heightWithAll step nodes)
termination_by structural nodes

def heightWithEntries (step : Nat) (entries : List (String × Node)) : Nat :=
  match entries with
  | [] => 0
  | entry :: entries => max (heightWithEntry step entry) (heightWithEntries step entries)
termination_by structural entries

def heightWithEntry (step : Nat) (entry : String × Node) : Nat :=
  match entry with
  | (_, value) => value.heightWith step
termination_by structural entry

def heightWithOption (step : Nat) (node : Option Node) : Nat :=
  match node with
  | none => 0
  | some node => node.heightWith step
termination_by structural node

end

theorem heightWithEntry_eq (step : Nat) (entry : String × Node) :
    heightWithEntry step entry = entry.2.heightWith step := by
  cases entry
  rfl

/-- The height of a tree: the nodes on the longest way down from its root. -/
abbrev height (node : Node) : Nat := node.heightWith 1

/-- The height of a tree as far as brackets, signs and operators make it up. -/
abbrev nesting (node : Node) : Nat := node.heightWith 0

end Node

namespace Grammar

variable {depth run count : Nat} {tokens first second : List Token} {token : Token}

/-! ## What the bound on nesting leaves room for -/

/-- What an operand can nest by, with so many brackets open before it. -/
def operandRoom (depth : Nat) : Nat := 5 * maxNesting * (maxNesting - depth) + 1

/-- The operators that can stand above one signed operand in an expression of a level. -/
def Level.operators : Level → Nat
  | disjunction => 4 * (maxNesting - 1) + 1
  | conjunction => 3 * (maxNesting - 1) + 1
  | comparison => 2 * (maxNesting - 1) + 1
  | sum => 2 * (maxNesting - 1)
  | product => maxNesting - 1

/-- What an expression can nest by, with so many brackets open and signs in a row before it. -/
def Place.room (depth run : Nat) : Place → Nat
  | .level inner => inner.operators + maxNesting + operandRoom depth
  | .signed => maxNesting - (depth + run) + operandRoom depth

/-- What a statement can nest by. -/
def statementRoom (depth : Nat) : Nat := Place.loosest.room depth 0 + 1

theorem operandRoom_le (place : Place) (depth run : Nat) :
    operandRoom depth ≤ place.room depth run := by
  cases place <;> simp only [Place.room] <;> omega

/-- A chain has room for its operators above the room of an operand. -/
theorem room_chain {level : Level} (ordered : level ≠ .comparison) (short : count ≤ maxNesting)
    (depth run : Nat) :
    count + level.below.room depth 0 ≤ (Place.level level).room depth run + 1 := by
  cases level with
  | comparison => exact absurd rfl ordered
  | _ => simp only [Level.below, Place.room, Level.operators, maxNesting] at *; omega

/-- Of the room for an operand, brackets leave one level and that of an expression in them. -/
theorem room_brackets (shallow : depth + 1 ≤ maxNesting) :
    Place.loosest.room (depth + 1) 0 + 1 ≤ operandRoom depth := by
  simp only [Place.room, Level.operators, operandRoom, maxNesting] at *
  omega

/-- They leave two levels and that of the statements in them, for a block and its function. -/
theorem room_braces (shallow : depth + 1 ≤ maxNesting) :
    statementRoom (depth + 1) + 2 ≤ operandRoom depth := by
  simp only [statementRoom, Place.room, Level.operators, operandRoom, maxNesting] at *
  omega

theorem runAfter_of_signOperator? {terminal : Terminal} {operator : Operator}
    (written : signOperator? terminal = some operator) (run : Nat) :
    terminal.runAfter run = run + 1 := by
  unfold signOperator? at written
  split at written <;> cases written <;> rfl

/-- Behind an opening bracket. -/
theorem Fits.inside (fits : Fits depth run (token :: (tokens ++ first)))
    (opens : token.terminal.depthAfter depth = depth + 1) :
    depth + 1 ≤ maxNesting ∧ Fits (depth + 1) (token.terminal.runAfter run) tokens := by
  rw [fits_cons, opens] at fits
  exact ⟨Nat.le_of_add_right_le fits.1, (fits_append.mp fits.2).1⟩

/-- Behind a token that is no bracket. -/
theorem Fits.behind (fits : Fits depth run (token :: tokens))
    (flat : token.terminal.depthAfter depth = depth) :
    Fits depth (token.terminal.runAfter run) tokens := by
  rw [fits_cons, flat] at fits
  exact fits.2

/-- On both sides of a token that is no bracket. -/
theorem Fits.around (fits : Fits depth run (first ++ token :: second)) (balanced : Balanced first)
    (flat : token.terminal.depthAfter depth = depth) :
    Fits depth run first ∧ Fits depth 0 second := by
  obtain ⟨before, behind⟩ := balanced.fits_append.mp fits
  exact ⟨before, (behind.behind flat).fewer (Nat.zero_le _)⟩

/-! ## Phrases -/

theorem Chain.count_pos {level : Level} {node : Node} (chain : Chain level count tokens node) :
    0 < count := by
  cases chain <;> exact Nat.succ_pos _

mutual

theorem Expression.nesting_le {place : Place} {depth run : Nat} {tokens : List Token}
    {node : Node} : Expression place tokens node → Fits depth run tokens →
      node.nesting ≤ place.room depth run
  | .chain ordered chain short, fits => by
      have operands := chain.nesting_le fits
      have room := room_chain ordered short depth run
      omega
  | .uncompared inner, fits => by
      have within := inner.nesting_le fits
      simp only [Place.room, Level.operators] at within ⊢
      omega
  | .compared left written right, fits => by
      obtain ⟨before, behind⟩ := fits.around left.balanced (depthAfter_of_operator? written depth)
      have lower := left.nesting_le before
      have upper := right.nesting_le behind
      simp only [Place.room, Level.operators, Node.nesting, Node.heightWith] at *
      omega
  | .sign written inner, fits => by
      obtain ⟨within, behind⟩ := fits_cons.mp fits
      rw [depthAfter_of_signOperator? written, runAfter_of_signOperator? written] at within behind
      have operand := inner.nesting_le behind
      simp only [Place.room, Node.nesting, Node.heightWith] at *
      omega
  | .unsigned operand, fits => Nat.le_trans (operand.nesting_le fits) (operandRoom_le _ _ _)

theorem Chain.nesting_le {level : Level} {count depth run : Nat} {tokens : List Token}
    {node : Node} : Chain level count tokens node → Fits depth run tokens →
      node.nesting + 1 ≤ count + level.below.room depth 0
  | .one inner, fits => by
      have within := inner.nesting_le (fits.fewer (Nat.zero_le _))
      omega
  | .more left written right, fits => by
      obtain ⟨before, behind⟩ := fits.around left.balanced (depthAfter_of_operator? written depth)
      have lower := left.nesting_le before
      have upper := right.nesting_le behind
      have counted := left.count_pos
      simp only [Node.nesting, Node.heightWith] at *
      omega

theorem Operand.nesting_le {depth run : Nat} {tokens : List Token} {node : Node} :
    Operand tokens node → Fits depth run tokens → node.nesting ≤ operandRoom depth
  | .primary primary, fits => primary.nesting_le fits
  | .call callee arguments, fits => by
      obtain ⟨before, behind⟩ := callee.balanced.fits_append.mp fits
      have base := callee.nesting_le before
      have inner := nesting_arguments arguments behind
      simp only [Node.nesting, Node.heightWith] at *
      omega
  | .bareIndex base opens closes, fits => by
      have below := base.nesting_le (fits_append.mp fits).1
      simp only [Node.nesting, Node.heightWith, Node.heightWithOption] at *
      exact Nat.max_le.mpr ⟨below, Nat.le_add_left 1 _⟩
  | .index base opens inner closes, fits => by
      obtain ⟨before, behind⟩ := base.balanced.fits_append.mp fits
      obtain ⟨shallow, inside⟩ := behind.inside (by rw [opens]; rfl)
      have below := base.nesting_le before
      have position := inner.nesting_le (inside.fewer (Nat.zero_le _))
      have room := room_brackets shallow
      simp only [Node.nesting, Node.heightWith, Node.heightWithOption] at *
      omega

theorem nesting_arguments {depth run : Nat} {tokens : List Token} {nodes : List Node} :
    Enclosed .leftParen .rightParen (Expression .loosest) tokens nodes → Fits depth run tokens →
      Node.heightWithAll 0 nodes + 1 ≤ operandRoom depth
  | .empty _ _, _ => Nat.le_add_left 1 _
  | .full opens nodes closes, fits => by
      obtain ⟨shallow, inside⟩ := fits.inside (by rw [opens]; rfl)
      exact Nat.le_trans (Nat.succ_le_succ (nesting_expressions nodes inside))
        (room_brackets shallow)

theorem nesting_elements {depth run : Nat} {tokens : List Token} {nodes : List Node} :
    Enclosed .leftBracket .rightBracket (Expression .loosest) tokens nodes →
      Fits depth run tokens → Node.heightWithAll 0 nodes + 1 ≤ operandRoom depth
  | .empty _ _, _ => Nat.le_add_left 1 _
  | .full opens nodes closes, fits => by
      obtain ⟨shallow, inside⟩ := fits.inside (by rw [opens]; rfl)
      exact Nat.le_trans (Nat.succ_le_succ (nesting_expressions nodes inside))
        (room_brackets shallow)

theorem nesting_expressions {depth run : Nat} {tokens : List Token} {nodes : List Node} :
    Separated (Expression .loosest) tokens nodes → Fits depth run tokens →
      Node.heightWithAll 0 nodes ≤ Place.loosest.room depth 0
  | .one inner, fits => by
      have within := inner.nesting_le (fits.fewer (Nat.zero_le _))
      simpa [Node.heightWithAll] using within
  | .more inner comma others, fits => by
      obtain ⟨before, behind⟩ := fits.around inner.balanced (by rw [comma]; rfl)
      exact Nat.max_le.mpr
        ⟨inner.nesting_le (before.fewer (Nat.zero_le _)), nesting_expressions others behind⟩

theorem Primary.nesting_le {depth run : Nat} {tokens : List Token} {node : Node} :
    Primary tokens node → Fits depth run tokens → node.nesting ≤ operandRoom depth
  | .integer _, _ | .float _, _ | .string _, _ | .name _, _ | .trueWord _, _ | .falseWord _, _
  | .nullWord _, _ => Nat.le_add_left 1 _
  | .function word tail, fits => tail.nesting_le (fits.behind (by rw [word]; rfl))
  | .parenthesized parens, fits => Nat.le_of_succ_le (parens.nesting_le fits)
  | .list elements, fits => nesting_elements elements fits
  | .map entries, fits => nesting_entries entries fits

theorem nesting_entries {depth run : Nat} {tokens : List Token} {entries : List (String × Node)} :
    Enclosed .leftBrace .rightBrace Entry tokens entries → Fits depth run tokens →
      Node.heightWithEntries 0 entries + 1 ≤ operandRoom depth
  | .empty _ _, _ => Nat.le_add_left 1 _
  | .full opens entries closes, fits => by
      obtain ⟨shallow, inside⟩ := fits.inside (by rw [opens]; rfl)
      exact Nat.le_trans (Nat.succ_le_succ (nesting_pairs entries inside)) (room_brackets shallow)

theorem nesting_pairs {depth run : Nat} {tokens : List Token} {entries : List (String × Node)} :
    Separated Entry tokens entries → Fits depth run tokens →
      Node.heightWithEntries 0 entries ≤ Place.loosest.room depth 0
  | .one entry, fits => Nat.max_le.mpr ⟨entry.nesting_le fits, Nat.zero_le _⟩
  | .more entry comma others, fits => by
      obtain ⟨before, behind⟩ := fits.around entry.balanced (by rw [comma]; rfl)
      exact Nat.max_le.mpr ⟨entry.nesting_le before, nesting_pairs others behind⟩

theorem Parenthesized.nesting_le {depth run : Nat} {tokens : List Token} {node : Node} :
    Parenthesized tokens node → Fits depth run tokens → node.nesting + 1 ≤ operandRoom depth
  | .parens opens inner closes, fits => by
      obtain ⟨shallow, inside⟩ := fits.inside (by rw [opens]; rfl)
      have within := inner.nesting_le (inside.fewer (Nat.zero_le _))
      exact Nat.le_trans (Nat.succ_le_succ within) (room_brackets shallow)

theorem Entry.nesting_le {depth run : Nat} {tokens : List Token} {entry : String × Node} :
    Entry tokens entry → Fits depth run tokens →
      Node.heightWithEntry 0 entry ≤ Place.loosest.room depth 0
  | .pair key colon value, fits => by
      have behind := (fits.behind (by rw [key]; rfl)).behind (by rw [colon]; rfl)
      rw [Node.heightWithEntry_eq]
      exact value.nesting_le (behind.fewer (Nat.zero_le _))

theorem FunctionTail.nesting_le {depth run : Nat} {tokens : List Token} {node : Node} :
    FunctionTail tokens node → Fits depth run tokens → node.nesting ≤ operandRoom depth
  | .function parameters body, fits =>
      body.nesting_le ((balanced_parameters parameters).fits_append.mp fits).2

theorem Block.nesting_le {depth run : Nat} {tokens : List Token} {node : Node} :
    Block tokens node → Fits depth run tokens → node.nesting + 1 ≤ operandRoom depth
  | .braces opens body closes, fits => by
      obtain ⟨shallow, inside⟩ := fits.inside (by rw [opens]; rfl)
      exact Nat.le_trans (Nat.add_le_add_right (body.nesting_le inside) 2) (room_braces shallow)

theorem Statement.nesting_le {next : Option Terminal} {depth run : Nat} {tokens : List Token}
    {node : Node} : Statement next tokens node → Fits depth run tokens →
      node.nesting ≤ statementRoom depth
  | .barePrint _ _, _ | .bareReturn _ _, _ | .emptyPrint _ _ _, _ => Nat.le_add_left 1 _
  | .printValue word inner, fits | .returnValue word inner, fits => by
      have behind := fits.behind (by rw [word]; rfl)
      exact Nat.succ_le_succ (inner.nesting_le (behind.fewer (Nat.zero_le _)))
  | .ifOnly word condition body _, fits => by
      obtain ⟨first, second⟩ :=
        condition.balanced.fits_append.mp (fits.behind (by rw [word]; rfl))
      have above := Nat.le_trans (condition.nesting_le first) (operandRoom_le .loosest depth 0)
      have below := body.nesting_le second
      simp only [statementRoom, Node.nesting, Node.heightWith, Node.heightWithOption] at *
      omega
  | .ifElse word condition consequence other alternative, fits => by
      obtain ⟨first, behind⟩ :=
        condition.balanced.fits_append.mp (fits.behind (by rw [word]; rfl))
      obtain ⟨second, third⟩ := behind.around consequence.balanced (by rw [other]; rfl)
      have above := Nat.le_trans (condition.nesting_le first) (operandRoom_le .loosest depth 0)
      have below := consequence.nesting_le second
      have also := alternative.nesting_le third
      simp only [statementRoom, Node.nesting, Node.heightWith, Node.heightWithOption] at *
      omega
  | .loop word condition body, fits => by
      obtain ⟨first, second⟩ :=
        condition.balanced.fits_append.mp (fits.behind (by rw [word]; rfl))
      have above := Nat.le_trans (condition.nesting_le first) (operandRoom_le .loosest depth 0)
      have below := body.nesting_le second
      simp only [statementRoom, Node.nesting, Node.heightWith] at *
      omega
  | .function word target tail, fits => by
      have behind := (fits.behind (by rw [word]; rfl)).behind (by rw [target]; rfl)
      exact Nat.succ_le_succ (Nat.le_trans (tail.nesting_le behind) (operandRoom_le _ _ _))
  | .block braces, fits => by
      have within := Nat.le_trans (braces.nesting_le fits) (operandRoom_le .loosest depth 0)
      exact Nat.le_succ_of_le (Nat.le_of_succ_le within)
  | .expression inner _, fits =>
      Nat.le_succ_of_le (inner.nesting_le (fits.fewer (Nat.zero_le _)))
  | .assignment left _ sign right, fits =>
      Nat.succ_le_succ (right.nesting_le (fits.around left.balanced (by rw [sign]; rfl)).2)

theorem Statements.nesting_le {next : Option Terminal} {depth run : Nat} {tokens : List Token}
    {nodes : List Node} : Statements next tokens nodes → Fits depth run tokens →
      Node.heightWithAll 0 nodes ≤ statementRoom depth
  | .none, _ => Nat.zero_le _
  | .last statement, fits => Nat.max_le.mpr ⟨statement.nesting_le fits, Nat.zero_le _⟩
  | .more statement semicolons others, fits => by
      obtain ⟨first, behind⟩ := statement.balanced.fits_append.mp fits
      have rest := (semicolons.balanced.fits_append.mp behind).2
      exact Nat.max_le.mpr ⟨statement.nesting_le first, others.nesting_le rest⟩

end

/-- **Apart from the bodies of branches and loops and from what is called or indexed**, the height
of a tree that the parser returns is bounded by the bound on nesting alone. -/
theorem nesting_le_of_parse {tree : Node} (parsed : parse tokens = .ok tree) :
    tree.nesting ≤ 5 * maxNesting * (maxNesting + 1) := by
  obtain ⟨used, rest, rfl, -, derived⟩ := derived_of_parse parsed
  have nests := nests_of_parse parsed
  have fits := nests_iff_fits.mp nests.of_prefix
  cases derived with
  | program body => exact Nat.succ_le_succ (body.nesting_le fits)

/-! ## Branches in branches -/

/-- One `if` in the other, so many of them, and not a bracket around any. -/
def ladder : Nat → List Char
  | 0 => ['1']
  | rungs + 1 => 'i' :: 'f' :: '(' :: '1' :: ')' :: ladder rungs

/-- The tokens of a ladder that begins at a position. -/
def ladderTokens (position : Nat) : Nat → List Token
  | 0 => [⟨.integer 1, "1", position⟩]
  | rungs + 1 =>
      ⟨.keyword .ifWord, "if", position⟩ :: ⟨.symbol .leftParen, "(", position + 2⟩ ::
        ⟨.integer 1, "1", position + 3⟩ :: ⟨.symbol .rightParen, ")", position + 4⟩ ::
        ladderTokens (position + 5) rungs

/-- What a ladder is read as. -/
def ladderNode : Nat → Node
  | 0 => .integer 1
  | rungs + 1 => .branch (.integer 1) (ladderNode rungs) none

theorem scanned_ladder (position rungs : Nat) :
    Scanned position (ladder rungs) (ladderTokens position rungs) := by
  induction rungs generalizing position with
  | zero => exact .token rfl rfl .done
  | succ rungs ih =>
      exact .token rfl rfl (.token rfl rfl (.token rfl rfl (.token rfl rfl (ih _))))

theorem statement_ladder (position rungs : Nat) :
    Statement (some .endMarker) (ladderTokens position rungs) (ladderNode rungs) := by
  have one (position : Nat) : Expression .loosest [⟨.integer 1, "1", position⟩] (.integer 1) :=
    (Operand.primary (.integer rfl)).expression _
  induction rungs generalizing position with
  | zero => exact .expression (one position) nofun
  | succ rungs ih => exact .ifOnly rfl (.parens rfl (one _) rfl) (ih _) nofun

/-- A ladder closes every bracket before the next one opens. -/
theorem fits_ladder (position rungs size : Nat) :
    Fits 0 0 (ladderTokens position rungs ++ [.endAt size]) := by
  induction rungs generalizing position with
  | zero => rfl
  | succ rungs ih => exact ih (position + 5)

theorem height_ladderNode (rungs : Nat) : (ladderNode rungs).height = rungs + 1 := by
  induction rungs with
  | zero => rfl
  | succ rungs ih =>
      simp only [Node.height, ladderNode, Node.heightWith, Node.heightWithOption] at *
      omega

/-- A ladder is a program, however long it is. -/
theorem read_ladder (rungs : Nat) :
    Session.read (String.ofList (ladder rungs)) = .ok (.program [ladderNode rungs]) := by
  have scan := scanned_ladder 0 rungs
  rw [← String.toList_ofList (l := ladder rungs)] at scan
  refine Session.read_ok_iff.mpr ⟨_, tokenize_ok_iff.mpr ⟨_, rfl, scan⟩, ?_⟩
  exact parse_program (nests_iff_fits.mpr (fits_ladder 0 rungs _)) rfl
    (.program (.last (statement_ladder 0 rungs)))

/-- A ladder is higher than the bound on nesting, and still nests by next to nothing. -/
theorem nesting_le_of_parse_ladder :
    ∃ tokens, parse tokens = .ok (.program [ladderNode 250])
      ∧ (Node.program [ladderNode 250]).height = 252
      ∧ (Node.program [ladderNode 250]).nesting ≤ 5 * maxNesting * (maxNesting + 1) := by
  obtain ⟨tokens, -, parsed⟩ := Session.read_ok_iff.mp (read_ladder 250)
  refine ⟨tokens, parsed, ?_, nesting_le_of_parse parsed⟩
  have rungs := height_ladderNode 250
  simp only [Node.height, Node.heightWith, Node.heightWithAll] at rungs ⊢
  omega

/-- No bound holds for the heights of all trees that the parser returns. -/
theorem height_unbounded :
    ¬ ∃ bound, ∀ tokens tree, parse tokens = .ok tree → tree.height ≤ bound := by
  rintro ⟨bound, bounded⟩
  obtain ⟨tokens, -, parsed⟩ := Session.read_ok_iff.mp (read_ladder bound)
  have height := bounded tokens _ parsed
  have rungs := height_ladderNode bound
  simp only [Node.height, Node.heightWith, Node.heightWithAll] at height rungs
  omega

end Grammar

end Scriptlet
