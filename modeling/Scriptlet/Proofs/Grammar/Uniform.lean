/-
# Proofs.Grammar.Uniform -- a parser does not see where tokens stand

Two lists of tokens are `Abreast` if they have the same terminals and lexemes at the same
places, up to their first end marker.  A parser reads both alike: it takes equally many tokens
off them and returns what differs in the positions of names only, or it fails on both, with the
same expectation at the same place (`Agree`).

`Uniform` says this of a parser for all such lists, and `UniformAt` for those with a given
terminal ahead, which is what a rule knows when it takes a token.  The rules are gone through in
the order in which they are written.  No rule takes an end marker, so there is a token to blame
in every error.
-/
import Mathlib.Data.List.Forall2
import Scriptlet.Proofs.Grammar.Completeness
import Scriptlet.Proofs.Grammar.Render
import Scriptlet.Proofs.Tree.Relabeling

namespace Scriptlet

set_option autoImplicit false

/-! ## Tokens, names and trees at other places -/

/-- Tokens that differ at most in where they stand. -/
structure Token.Twin (token other : Token) : Prop where
  terminal : token.terminal = other.terminal
  lexeme : token.lexeme = other.lexeme

/-- Names that differ at most in where they stand. -/
def Name.Twin (name other : Name) : Prop := name.atStart = other.atStart

/-- Trees that differ at most in where their names stand. -/
def Node.Twin (node other : Node) : Prop :=
  node.relabel Name.atStart = other.relabel Name.atStart

theorem map_eq_of_forall₂ {α β : Type} {f : α → β} {xs ys : List α}
    (same : List.Forall₂ (fun x y => f x = f y) xs ys) : xs.map f = ys.map f := by
  induction same with
  | nil => rfl
  | cons head _ ih => rw [List.map_cons, List.map_cons, head, ih]

/-- Entries of a map with the same key and with values that are twins. -/
structure EntryTwin (entry other : String × Node) : Prop where
  key : entry.1 = other.1
  value : entry.2.Twin other.2

namespace Node.Twin

protected theorem refl (node : Node) : node.Twin node := Eq.refl _

variable {node node' other other' third third' : Node} {nodes nodes' : List Node}

theorem unary (operator : Operator) (twin : node.Twin node') :
    (Node.unary operator node).Twin (.unary operator node') :=
  congrArg (Node.unary operator) twin

theorem binary (operator : Operator) (left : node.Twin node') (right : other.Twin other') :
    (Node.binary operator node other).Twin (.binary operator node' other') :=
  congrArg₂ (Node.binary operator) left right

theorem all (twins : List.Forall₂ Node.Twin nodes nodes') :
    relabelAll Name.atStart nodes = relabelAll Name.atStart nodes' := by
  rw [relabelAll_eq_map, relabelAll_eq_map, map_eq_of_forall₂ twins]

theorem list (twins : List.Forall₂ Node.Twin nodes nodes') :
    (Node.list nodes).Twin (.list nodes') := congrArg Node.list (all twins)

theorem block (twins : List.Forall₂ Node.Twin nodes nodes') :
    (Node.block nodes).Twin (.block nodes') := congrArg Node.block (all twins)

theorem program (twins : List.Forall₂ Node.Twin nodes nodes') :
    (Node.program nodes).Twin (.program nodes') := congrArg Node.program (all twins)

theorem call (callee : node.Twin node') (arguments : List.Forall₂ Node.Twin nodes nodes') :
    (Node.call node nodes).Twin (.call node' nodes') :=
  congrArg₂ Node.call callee (all arguments)

theorem map {entries entries' : List (String × Node)}
    (twins : List.Forall₂ EntryTwin entries entries') :
    (Node.map entries).Twin (.map entries') := by
  refine congrArg Node.map ?_
  rw [relabelEntries_eq_map, relabelEntries_eq_map]
  exact map_eq_of_forall₂ (twins.imp fun _ _ twin => Prod.ext twin.key twin.value)

theorem function {parameters parameters' : List Name}
    (names : List.Forall₂ Name.Twin parameters parameters') (body : node.Twin node') :
    (Node.function parameters node).Twin (.function parameters' node') :=
  congrArg₂ Node.function (map_eq_of_forall₂ names) body

theorem some (twin : node.Twin node') :
    relabelOption Name.atStart (.some node) = relabelOption Name.atStart (.some node') :=
  congrArg Option.some twin

theorem index (base : node.Twin node') (position : other.Twin other') :
    (Node.index node (.some other)).Twin (.index node' (.some other')) :=
  congrArg₂ Node.index base position.some

theorem bareIndex (base : node.Twin node') : (Node.index node none).Twin (.index node' none) :=
  congrArg (Node.index · none) base

theorem print (value : node.Twin node') : (Node.print (.some node)).Twin (.print (.some node')) :=
  congrArg Node.print value.some

theorem result (value : node.Twin node') :
    (Node.result (.some node)).Twin (.result (.some node')) :=
  congrArg Node.result value.some

theorem branch (condition : node.Twin node') (consequence : other.Twin other')
    (alternative : third.Twin third') :
    (Node.branch node other (.some third)).Twin (.branch node' other' (.some third')) :=
  congrArg₂ id (congrArg₂ Node.branch condition consequence) alternative.some

theorem branchOnly (condition : node.Twin node') (consequence : other.Twin other') :
    (Node.branch node other none).Twin (.branch node' other' none) :=
  congrArg₂ (Node.branch · · none) condition consequence

theorem loop (condition : node.Twin node') (body : other.Twin other') :
    (Node.loop node other).Twin (.loop node' other') :=
  congrArg₂ Node.loop condition body

theorem assign {target target' : Name} (names : target.Twin target') (value : node.Twin node') :
    (Node.assign target node).Twin (.assign target' node') :=
  congrArg₂ Node.assign names value

theorem ofName {target target' : Name} (names : target.Twin target') :
    (Node.identifier target).Twin (.identifier target') := congrArg Node.identifier names

theorem relabel_eq_identifier {label : Name → Name} {name : Name}
    (same : node.relabel label = .identifier name) : ∃ inner, node = .identifier inner := by
  cases node with
  | identifier inner => exact ⟨inner, rfl⟩
  | _ => simp [relabel] at same

/-- A name is a twin of names only. -/
theorem identifier {name : Name} (twin : (Node.identifier name).Twin node) :
    ∃ inner, node = .identifier inner ∧ name.Twin inner := by
  obtain ⟨inner, rfl⟩ := relabel_eq_identifier twin.symm
  exact ⟨inner, rfl, Node.identifier.inj twin⟩

end Node.Twin

namespace Grammar

open Scriptlet.Parser

/-- Lists with the same tokens at the same places, up to their first end marker. -/
inductive Abreast : List Token → List Token → Prop where
  | marker {token other : Token} {rest others : List Token} :
      token.Twin other → token.terminal = .endMarker → Abreast (token :: rest) (other :: others)
  | token {token other : Token} {rest others : List Token} :
      token.Twin other → token.terminal ≠ .endMarker → Abreast rest others →
      Abreast (token :: rest) (other :: others)

/-- What is left of two lists when equally many tokens have been taken off them. -/
structure Remain (tokens others rest rest' : List Token) : Prop where
  abreast : Abreast rest rest'
  place : rest.zip rest' <:+ tokens.zip others

/-- What a parser does with two lists. -/
inductive Agree {α β : Type} (results : α → β → Prop) (tokens others : List Token) :
    Except SyntaxError (α × List Token) → Except SyntaxError (β × List Token) → Prop where
  | read {value : α} {other : β} {rest rest' : List Token} :
      results value other → Remain tokens others rest rest' →
      Agree results tokens others (.ok (value, rest)) (.ok (other, rest'))
  | blamed (expected : Expected) {rest rest' : List Token} : Remain tokens others rest rest' →
      Agree results tokens others (.error (.ofRest expected rest)) (.error (.ofRest expected rest'))

/-- Parsers that agree on lists that are abreast. -/
def Uniform {α β : Type} (results : α → β → Prop) (parser : Parser α) (other : Parser β) : Prop :=
  ∀ tokens others, Abreast tokens others →
    Agree results tokens others (parser tokens) (other others)

/-- Parsers that agree where a terminal is ahead. -/
def UniformAt (terminal : Terminal) {α β : Type} (results : α → β → Prop) (parser : Parser α)
    (other : Parser β) : Prop :=
  ∀ tokens others, Abreast tokens others → front? tokens = some terminal →
    Agree results tokens others (parser tokens) (other others)

section

variable {α β γ δ : Type} {results : α → β → Prop} {finals : γ → δ → Prop}
  {tokens others rest rest' : List Token} {terminal : Terminal} {parser : Parser α}
  {other : Parser β}

theorem Abreast.front (abreast : Abreast tokens others) : front? others = front? tokens := by
  cases abreast with
  | marker twin => rw [front?_cons, front?_cons, twin.terminal]
  | token twin => rw [front?_cons, front?_cons, twin.terminal]

theorem Abreast.front_some (abreast : Abreast tokens others) :
    ∃ terminal, front? tokens = some terminal := by
  cases abreast with
  | marker | token => exact ⟨_, rfl⟩

theorem Abreast.second (abreast : Abreast tokens others) (front : front? tokens = some terminal)
    (plain : terminal ≠ .endMarker) : front? others.tail = front? tokens.tail := by
  cases abreast with
  | marker _ ends =>
      rw [front?_cons, ends] at front
      exact absurd (Option.some.inj front).symm plain
  | token _ _ further => exact further.front

theorem Remain.refl (abreast : Abreast tokens others) : Remain tokens others tokens others :=
  ⟨abreast, List.suffix_rfl⟩

theorem Remain.cons {token token' : Token} (left : Remain tokens others rest rest') :
    Remain (token :: tokens) (token' :: others) rest rest' :=
  ⟨left.abreast, left.place.trans (List.suffix_cons _ _)⟩

theorem Agree.further (left : Remain tokens others rest rest')
    {outcome : Except SyntaxError (α × List Token)} {outcome' : Except SyntaxError (β × List Token)}
    (agree : Agree results rest rest' outcome outcome') :
    Agree results tokens others outcome outcome' := by
  cases agree with
  | read same after => exact .read same ⟨after.abreast, after.place.trans left.place⟩
  | blamed expected after =>
      exact .blamed expected ⟨after.abreast, after.place.trans left.place⟩

/-! ## Small parsers -/

theorem Uniform.front (uniform : Uniform results parser other) :
    UniformAt terminal results parser other :=
  fun tokens others abreast _ => uniform tokens others abreast

theorem uniform_pure {value : α} {value' : β} (same : results value value') :
    Uniform results (pure value) (pure value') :=
  fun _ _ abreast => .read same (.refl abreast)

theorem uniform_fail (expected : Expected) : Uniform results (fail expected) (fail expected) :=
  fun _ _ abreast => .blamed expected (.refl abreast)

theorem Uniform.bind {next : α → Parser γ} {next' : β → Parser δ}
    (first : Uniform results parser other)
    (nexts : ∀ value value', results value value' → Uniform finals (next value) (next' value')) :
    Uniform finals (parser >>= next) (other >>= next') := by
  intro tokens others abreast
  have agree := first tokens others abreast
  generalize taken : parser tokens = outcome at agree
  generalize taken' : other others = outcome' at agree
  cases agree with
  | read same left =>
      rw [bind_ok taken, bind_ok taken']
      exact (nexts _ _ same _ _ left.abreast).further left
  | blamed expected left =>
      rw [bind_error taken, bind_error taken']
      exact .blamed expected left

theorem Uniform.map {make : α → γ} {make' : β → δ} (first : Uniform results parser other)
    (makes : ∀ value value', results value value' → finals (make value) (make' value')) :
    Uniform finals (parser >>= fun value => pure (make value))
      (other >>= fun value => pure (make' value)) :=
  first.bind fun value value' same => uniform_pure (makes value value' same)

/-- A parser that looks at the terminal ahead. -/
theorem uniform_ahead {next : Option Terminal → Parser α} {next' : Option Terminal → Parser β}
    (nexts : ∀ terminal,
      UniformAt terminal results (next (some terminal)) (next' (some terminal))) :
    Uniform results (ahead >>= next) (ahead >>= next') := by
  intro tokens others abreast
  obtain ⟨terminal, front⟩ := abreast.front_some
  rw [ahead_bind, ahead_bind, abreast.front, front]
  exact nexts terminal tokens others abreast front

theorem uniform_operatorAhead? {level : Level} {next : Option Operator → Parser α}
    {next' : Option Operator → Parser β} (absent : Uniform results (next none) (next' none))
    (here : ∀ terminal operator, level.operator? terminal = some operator →
      UniformAt terminal results (next (some operator)) (next' (some operator))) :
    Uniform results (operatorAhead? level >>= next) (operatorAhead? level >>= next') := by
  intro tokens others abreast
  obtain ⟨terminal, front⟩ := abreast.front_some
  rw [operatorAhead?_bind, operatorAhead?_bind, abreast.front, front, Option.bind_some]
  cases found : level.operator? terminal with
  | none => exact absent tokens others abreast
  | some operator => exact here terminal operator found tokens others abreast front

/-- A parser that takes the token ahead, if that is no end marker. -/
theorem UniformAt.skip {next : Unit → Parser α} {next' : Unit → Parser β}
    (plain : terminal ≠ .endMarker) (nexts : Uniform results (next ()) (next' ())) :
    UniformAt terminal results (skip >>= next) (skip >>= next') := by
  intro tokens others abreast front
  cases abreast with
  | marker _ ends =>
      rw [front?_cons, ends] at front
      exact absurd (Option.some.inj front).symm plain
  | token twin _ further =>
      rw [skip_bind, skip_bind]
      exact (nexts _ _ further).further (.cons (.refl further))

theorem uniform_accept (sign : Symbol) : Uniform Eq (accept sign) (accept sign) := by
  refine uniform_ahead fun terminal => ?_
  by_cases here : some terminal = some (.symbol sign)
  · rw [if_pos here]
    cases Option.some.inj here
    exact .skip nofun (uniform_pure rfl)
  · rw [if_neg here]
    exact (uniform_pure rfl).front

/-- A parser that takes a symbol if it is ahead and goes on in one way or the other. -/
theorem Uniform.accept {sign : Symbol} {yes no : Parser α} {yes' no' : Parser β}
    (here : Uniform results yes yes') (elsewhere : Uniform results no no') :
    Uniform results (Parser.accept sign >>= fun taken => if taken = true then yes else no)
      (Parser.accept sign >>= fun taken => if taken = true then yes' else no') := by
  refine (uniform_accept sign).bind fun taken taken' same => ?_
  subst same
  cases taken
  · exact elsewhere
  · exact here

theorem uniform_symbol (sign : Symbol) : Uniform Eq (symbol sign) (symbol sign) := by
  refine (uniform_accept sign).bind fun taken taken' same => ?_
  subst same
  cases taken
  · exact uniform_fail _
  · exact uniform_pure rfl

theorem uniform_name : Uniform Name.Twin name name := by
  intro tokens others abreast
  by_cases here : front? tokens = some .name
  · cases abreast with
    | marker _ ends =>
        rw [front?_cons, ends] at here
        cases here
    | token twin _ further =>
        have named := Option.some.inj here
        rw [name_here named, name_here (twin.terminal ▸ named)]
        refine .read ?_ (.cons (.refl further))
        simp [Name.Twin, Name.atStart, Token.named, twin.lexeme]
  · rw [name_elsewhere here, name_elsewhere (by rwa [abreast.front])]
    exact .blamed _ (.refl abreast)

/-! ## Lists of pieces -/

theorem uniform_separated (item : Uniform results parser other) (close : Symbol) (rounds : Nat) :
    Uniform (List.Forall₂ results) (separated parser close rounds)
      (separated other close rounds) := by
  induction rounds with
  | zero => exact uniform_fail _
  | succ rounds ih =>
      refine item.bind fun first first' same => .accept ?_ (.accept ?_ (uniform_fail _))
      · exact ih.map fun _ _ others => .cons same others
      · exact uniform_pure (.cons same .nil)

theorem uniform_listOf (item : Uniform results parser other) (rounds : Nat) (close : Symbol) :
    Uniform (List.Forall₂ results) (listOf rounds parser close) (listOf rounds other close) :=
  .accept (uniform_pure .nil) (uniform_separated item close rounds)

end

/-! ## Expressions -/

/-- A parser of trees that reads lists that are abreast alike. -/
abbrev UniformTree (parser : Parser Node) : Prop := Uniform Node.Twin parser parser

section

variable {parser : Parser Node}

theorem uniform_chainAfter (level : Level) (operand : UniformTree parser) (room : Nat)
    {left left' : Node} (lefts : left.Twin left') :
    Uniform Node.Twin (chainAfter level parser room left) (chainAfter level parser room left') := by
  induction room generalizing left left' with
  | zero =>
      exact uniform_operatorAhead? (uniform_pure lefts) fun _ _ _ => (uniform_fail _).front
  | succ room ih =>
      refine uniform_operatorAhead? (uniform_pure lefts) fun terminal operator found => ?_
      refine .skip ?_ (operand.bind fun right right' rights => ih (lefts.binary operator rights))
      rintro rfl
      cases level <;> cases found

theorem uniform_chain (level : Level) (operand : UniformTree parser) :
    UniformTree (chain level parser) :=
  operand.bind fun _ _ firsts => uniform_chainAfter level operand _ firsts

theorem uniform_comparison (operand : UniformTree parser) : UniformTree (comparison parser) := by
  refine operand.bind fun left left' lefts => ?_
  refine uniform_operatorAhead? (uniform_pure lefts) fun terminal operator found => ?_
  refine .skip ?_ (operand.map fun right right' rights => lefts.binary operator rights)
  rintro rfl
  cases found

theorem uniform_signed (operand : UniformTree parser) : UniformTree (signed parser) := by
  intro tokens others abreast
  induction abreast with
  | @marker token other rest others twin ends =>
      have plain : signOperator? token.terminal = none := by rw [ends]; rfl
      simp only [signed, ← twin.terminal, plain]
      exact operand _ _ (.marker twin ends)
  | @token token other rest others twin plain further ih =>
      cases sign : signOperator? token.terminal with
      | none =>
          simp only [signed, ← twin.terminal, sign]
          exact operand _ _ (.token twin plain further)
      | some operator =>
          simp only [signed, ← twin.terminal, sign]
          generalize signed parser rest = outcome at ih
          generalize signed parser others = outcome' at ih
          cases ih with
          | read same left => exact .read (same.unary operator) left.cons
          | blamed expected left => exact .blamed expected left.cons

theorem uniform_skipSemicolons : Uniform Eq skipSemicolons skipSemicolons := by
  intro tokens others abreast
  induction abreast with
  | @marker token other rest others twin ends =>
      have plain : ¬ token.terminal = .symbol .semicolon := by simp [ends]
      simp only [skipSemicolons, List.dropWhile_cons, ← twin.terminal, plain, decide_false]
      exact .read rfl (.refl (.marker twin ends))
  | @token token other rest others twin plain further ih =>
      simp only [skipSemicolons, List.dropWhile_cons, ← twin.terminal] at ih ⊢
      split
      · exact ih.further (.cons (.refl further))
      · exact .read rfl (.refl (.token twin plain further))

theorem acceptEmptyParens_here {first second : Token} {rest : List Token}
    (opens : first.terminal = .symbol .leftParen) (closes : second.terminal = .symbol .rightParen) :
    acceptEmptyParens (first :: second :: rest) = .ok (true, rest) := if_pos ⟨opens, closes⟩

theorem uniform_acceptEmptyParens : Uniform Eq acceptEmptyParens acceptEmptyParens := by
  intro tokens others abreast
  by_cases empty : front? tokens = some (.symbol .leftParen)
      ∧ front? tokens.tail = some (.symbol .rightParen)
  · obtain ⟨opening, closing⟩ := empty
    cases abreast with
    | marker _ ends => simp [ends] at opening
    | token first _ further =>
        cases further with
        | marker _ ends => simp [ends] at closing
        | token second _ further =>
            have opens := Option.some.inj opening
            have closes := Option.some.inj closing
            rw [acceptEmptyParens_here opens closes,
              acceptEmptyParens_here (first.terminal ▸ opens) (second.terminal ▸ closes)]
            exact .read rfl (.cons (.cons (.refl further)))
  · have apart (opening : front? tokens = some (.symbol .leftParen)) :
        front? tokens.tail ≠ some (.symbol .rightParen) := fun closing => empty ⟨opening, closing⟩
    have apart' (opening : front? others = some (.symbol .leftParen)) :
        front? others.tail ≠ some (.symbol .rightParen) := by
      rw [abreast.front] at opening
      rw [abreast.second opening nofun]
      exact apart opening
    rw [acceptEmptyParens_elsewhere apart, acceptEmptyParens_elsewhere apart']
    exact .read rfl (.refl abreast)

/-- A parser that looks behind the token ahead, if that is no end marker. -/
theorem UniformAt.secondAhead {terminal : Terminal} {next : Option Terminal → Parser Node}
    (plain : terminal ≠ .endMarker)
    (nexts : ∀ second, UniformAt terminal Node.Twin (next second) (next second)) :
    UniformAt terminal Node.Twin (secondAhead >>= next) (secondAhead >>= next) := by
  intro tokens others abreast front
  show Agree _ _ _ (next (front? tokens.tail) tokens) (next (front? others.tail) others)
  rw [abreast.second front plain]
  exact nexts _ tokens others abreast front

theorem uniform_statements {statement : Parser Node} (each : UniformTree statement)
    (rounds : Nat) :
    Uniform (List.Forall₂ Node.Twin) (statements statement rounds)
      (statements statement rounds) := by
  induction rounds with
  | zero => exact uniform_fail _
  | succ rounds ih =>
      refine uniform_ahead fun terminal => ?_
      split
      · exact (uniform_pure .nil).front
      · refine Uniform.front (each.bind fun first first' same => .accept ?_ ?_)
        · exact uniform_skipSemicolons.bind fun _ _ _ => ih.map fun _ _ others => .cons same others
        · exact uniform_pure (.cons same .nil)

end

section

variable {budget : Nat} {nested : Phrase → Parser Node}
  (rules : ∀ phrase, UniformTree (nested phrase))
include rules

theorem uniform_parenthesized : UniformTree (parenthesized nested) :=
  (uniform_symbol _).bind fun _ _ _ => (rules .expression).bind fun _ _ same =>
    (uniform_symbol _).bind fun _ _ _ => uniform_pure same

theorem uniform_block : UniformTree (block budget nested) :=
  (uniform_symbol _).bind fun _ _ _ => (uniform_statements (rules .statement) budget).bind
    fun _ _ body => (uniform_symbol _).bind fun _ _ _ => uniform_pure (.block body)

theorem uniform_functionTail : UniformTree (functionTail budget nested) :=
  (uniform_symbol _).bind fun _ _ _ => (uniform_listOf uniform_name budget _).bind
    fun _ _ names => (uniform_block rules).map fun _ _ body => .function names body

theorem uniform_entry : Uniform EntryTwin (entry nested) (entry nested) := by
  refine uniform_ahead fun terminal => ?_
  cases terminal with
  | string key =>
      exact .skip nofun ((uniform_symbol _).bind fun _ _ _ =>
        (rules .expression).map fun _ _ value => ⟨rfl, value⟩)
  | _ => exact (uniform_fail _).front

theorem uniform_primary : UniformTree (primary budget nested) := by
  refine uniform_ahead fun terminal => ?_
  have arguments := uniform_listOf (rules .expression) budget
  cases terminal with
  | integer value | float value | string value => exact .skip nofun (uniform_pure rfl)
  | name => exact (uniform_name.map fun _ _ names => .ofName names).front
  | keyword word =>
      cases word with
      | trueWord | falseWord | nullWord => exact .skip nofun (uniform_pure rfl)
      | functionWord => exact .skip nofun (uniform_functionTail rules)
      | _ => exact (uniform_fail _).front
  | symbol sign =>
      cases sign with
      | leftParen => exact (uniform_parenthesized rules).front
      | leftBracket => exact .skip nofun ((arguments _).map fun _ _ elements => .list elements)
      | leftBrace =>
          exact .skip nofun ((uniform_listOf (uniform_entry rules) budget _).map
            fun _ _ entries => .map entries)
      | _ => exact (uniform_fail _).front
  | endMarker => exact (uniform_fail _).front

theorem uniform_suffixes (rounds : Nat) {node node' : Node} (bases : node.Twin node') :
    Uniform Node.Twin (suffixes budget nested rounds node)
      (suffixes budget nested rounds node') := by
  induction rounds generalizing node node' with
  | zero => exact uniform_fail _
  | succ rounds ih =>
      refine .accept ?_ (.accept (.accept ?_ ?_) (uniform_pure bases))
      · exact (uniform_listOf (rules .expression) budget _).bind fun _ _ arguments =>
          ih (bases.call arguments)
      · exact ih bases.bareIndex
      · exact (rules .expression).bind fun _ _ position =>
          (uniform_symbol _).bind fun _ _ _ => ih (bases.index position)

theorem uniform_operand : UniformTree (operand budget nested) :=
  (uniform_primary rules).bind fun _ _ bases => uniform_suffixes rules budget bases

theorem uniform_expression : UniformTree (expression budget nested) :=
  uniform_chain _ <| uniform_chain _ <| uniform_comparison <| uniform_chain _ <|
    uniform_chain _ <| uniform_signed (uniform_operand rules)

/-! ## Statements -/

theorem uniform_printTail : UniformTree (printTail budget nested) := by
  refine uniform_acceptEmptyParens.bind fun empty empty' same => ?_
  subst same
  cases empty with
  | true => exact uniform_pure (.refl _)
  | false =>
      refine uniform_ahead fun terminal => ?_
      split
      · exact (uniform_pure (.refl _)).front
      · exact ((uniform_expression rules).map fun _ _ value => .print value).front

theorem uniform_returnTail : UniformTree (returnTail budget nested) := by
  refine uniform_ahead fun terminal => ?_
  split
  · exact (uniform_pure (.refl _)).front
  · exact ((uniform_expression rules).map fun _ _ value => .result value).front

theorem uniform_ifTail : UniformTree (ifTail nested) := by
  refine (uniform_parenthesized rules).bind fun _ _ condition => ?_
  refine (rules .statement).bind fun _ _ consequence => uniform_ahead fun terminal => ?_
  by_cases alternative : some terminal = some (.keyword .elseWord)
  · rw [if_pos alternative, if_pos alternative]
    cases Option.some.inj alternative
    exact .skip nofun ((rules .statement).map fun _ _ alternative =>
      condition.branch consequence alternative)
  · rw [if_neg alternative, if_neg alternative]
    exact (uniform_pure (condition.branchOnly consequence)).front

theorem uniform_whileTail : UniformTree (whileTail nested) :=
  (uniform_parenthesized rules).bind fun _ _ condition =>
    (rules .statement).map fun _ _ body => condition.loop body

theorem uniform_functionStatement :
    UniformAt (.keyword .functionWord) Node.Twin (functionStatement budget nested)
      (functionStatement budget nested) :=
  .skip nofun (uniform_name.bind fun _ _ names =>
    (uniform_functionTail rules).map fun _ _ value => .assign names value)

theorem uniform_assignment : UniformTree (assignment budget nested) := by
  refine (uniform_expression rules).bind fun target target' targets => ?_
  refine uniform_ahead fun terminal => ?_
  by_cases equals : some terminal = some (.symbol .equal)
  · rw [if_pos equals, if_pos equals]
    cases Option.some.inj equals
    by_cases named : ∃ name, target = .identifier name
    · obtain ⟨name, rfl⟩ := named
      obtain ⟨name', rfl, names⟩ := targets.identifier
      exact .skip nofun ((uniform_expression rules).map fun _ _ value => .assign names value)
    · have unnamed' : ¬ ∃ name, target' = .identifier name := by
        rintro ⟨name, rfl⟩
        obtain ⟨inner, rfl, -⟩ := Node.Twin.identifier targets.symm
        exact named ⟨inner, rfl⟩
      split
      · exact absurd ⟨_, rfl⟩ named
      · split
        · exact absurd ⟨_, rfl⟩ unnamed'
        · exact (uniform_fail _).front
  · rw [if_neg equals, if_neg equals]
    exact (uniform_pure targets).front

theorem uniform_statement : UniformTree (statement budget nested) := by
  refine uniform_ahead fun terminal => ?_
  cases terminal with
  | keyword word =>
      cases word with
      | printWord => exact .skip nofun (uniform_printTail rules)
      | ifWord => exact .skip nofun (uniform_ifTail rules)
      | whileWord => exact .skip nofun (uniform_whileTail rules)
      | returnWord => exact .skip nofun (uniform_returnTail rules)
      | functionWord =>
          refine .secondAhead nofun fun second => ?_
          split
          · exact uniform_functionStatement rules
          · exact (uniform_assignment rules).front
      | _ => exact (uniform_assignment rules).front
  | symbol sign =>
      cases sign with
      | leftBrace => exact (uniform_block rules).front
      | _ => exact (uniform_assignment rules).front
  | _ => exact (uniform_assignment rules).front

end

theorem uniform_phrase (budget : Nat) (phrase : Phrase) :
    UniformTree (Grammar.phrase budget phrase) := by
  induction budget generalizing phrase with
  | zero => exact uniform_fail _
  | succ budget ih =>
      cases phrase with
      | expression => exact uniform_expression ih
      | statement => exact uniform_statement ih

/-! ## Programs -/

theorem uniform_program (budget : Nat) : UniformTree (program budget) := by
  refine (uniform_statements (uniform_phrase budget .statement) budget).bind fun _ _ body => ?_
  refine uniform_ahead fun terminal => ?_
  split
  · exact (uniform_pure (.program body)).front
  · exact (uniform_fail _).front

/-- What comes of parsing two lists: trees that are twins, or the same complaint about two tokens at
the same place. -/
inductive ParsedAlike (tokens others : List Token) :
    Except SyntaxError Node → Except SyntaxError Node → Prop where
  | parsed {tree tree' : Node} : tree.Twin tree' → ParsedAlike tokens others (.ok tree) (.ok tree')
  | refused {token other : Token} (expected : Expected) (found : Found) :
      (token, other) ∈ tokens.zip others →
      ParsedAlike tokens others (.error (.unexpected expected found token.position))
        (.error (.unexpected expected found other.position))

section

variable {tokens others : List Token}

theorem tooDeep?_twins (twins : List.Forall₂ Token.Twin tokens others) (depth run : Nat) :
    (tooDeep? depth run tokens = none ∧ tooDeep? depth run others = none)
      ∨ ∃ token other, tooDeep? depth run tokens = some token
        ∧ tooDeep? depth run others = some other ∧ token.Twin other ∧ (token, other) ∈ tokens.zip others := by
  induction twins generalizing depth run with
  | nil => exact .inl ⟨rfl, rfl⟩
  | @cons token other tokens others twin _ ih =>
      simp only [tooDeep?, ← twin.terminal]
      split
      · exact .inr ⟨token, other, rfl, rfl, twin, List.mem_cons_self⟩
      · rcases ih (token.terminal.depthAfter depth) (token.terminal.runAfter run) with none | deep
        · exact .inl none
        · obtain ⟨blamed, blamed', found, found', twin, among⟩ := deep
          exact .inr ⟨blamed, blamed', found, found', twin, List.mem_cons_of_mem _ among⟩

/-- A parser that fails on lists that are abreast blames two tokens at the same place. -/
theorem Remain.refused {rest rest' : List Token} (left : Remain tokens others rest rest')
    (expected : Expected) : ∃ token other found, (token, other) ∈ tokens.zip others
      ∧ SyntaxError.ofRest expected rest = .unexpected expected found token.position
      ∧ SyntaxError.ofRest expected rest' = .unexpected expected found other.position := by
  obtain ⟨abreast, place⟩ := left
  cases abreast with
  | @marker token other _ _ twin _ | @token token other _ _ twin _ _ =>
      have marks : other.isEnd = token.isEnd := by rw [Token.isEnd, Token.isEnd, twin.terminal]
      refine ⟨token, other, _, place.subset (by simp), rfl, ?_⟩
      rw [SyntaxError.ofRest, marks, twin.lexeme]

/-- Lists with the same tokens at other places are parsed to trees with names at other places, or
refused for the same reason. -/
theorem parse_twins (twins : List.Forall₂ Token.Twin tokens others)
    (abreast : Abreast tokens others) :
    ParsedAlike tokens others (parse tokens) (parse others) := by
  unfold parse checkNesting
  rcases tooDeep?_twins twins 0 0 with ⟨flat, flat'⟩ | deep
  · rw [flat, flat', ← twins.length_eq]
    have agree := uniform_program (tokens.length + 1) tokens others abreast
    generalize program (tokens.length + 1) tokens = outcome at agree
    generalize program (tokens.length + 1) others = outcome' at agree
    cases agree with
    | read same _ => exact .parsed same
    | blamed expected left =>
        obtain ⟨token, other, found, among, error, error'⟩ := left.refused expected
        rw [error, error']
        exact .refused expected found among
  · obtain ⟨token, other, found, found', twin, among⟩ := deep
    rw [found, found']
    show ParsedAlike tokens others (.error (.tooDeep token)) (.error (.tooDeep other))
    unfold SyntaxError.tooDeep
    rw [← twin.lexeme]
    exact .refused _ _ among

end

end Grammar

end Scriptlet
