/-
# Proofs.Grammar.Literals -- texts that write literals

A piece of text `Writes` something by a rule of the grammar if its tokens do, wherever it stands,
and nest no deeper than so many brackets.  Integers with or without a sign, quoted texts and the
three constants write expressions; so do lists and maps of what writes expressions, one bracket
deeper (`Writes.list`, `Writes.map`).

A sign counts like a bracket in the check for depth, so there has to be room for one more than
there are brackets.
-/
import Mathlib.Data.List.Forall2
import Scriptlet.Proofs.Grammar.Room
import Scriptlet.Proofs.Token.Phrases

namespace Scriptlet.Grammar

set_option autoImplicit false

/-! ## Depth -/

/-- Tokens that close what they open, with brackets nested so deep at most and no more than one
sign in a row. -/
structure Shallow (depth : Nat) (tokens : List Token) : Prop where
  balanced : Balanced tokens
  fits : ∀ opened, opened + depth < maxNesting → Fits opened 0 tokens

/-- A terminal that is no bracket and no sign. -/
structure Flat (terminal : Terminal) : Prop where
  depth : ∀ depth, terminal.depthAfter depth = depth
  run : ∀ run, terminal.runAfter run = 0

namespace Shallow

variable {depth : Nat} {token last : Token} {tokens others : List Token}

theorem one (flat : Flat token.terminal) : Shallow depth [token] where
  balanced := flat.depth
  fits opened room := by
    rw [fits_cons, flat.depth, flat.run]
    exact ⟨by omega, fits_nil⟩

theorem cons (flat : Flat token.terminal) (inner : Shallow depth tokens) :
    Shallow depth (token :: tokens) where
  balanced opened := by rw [depthBehind_cons, flat.depth, inner.balanced]
  fits opened room := by
    rw [fits_cons, flat.depth, flat.run]
    exact ⟨by omega, inner.fits opened room⟩

theorem around (first : Shallow depth tokens) (flat : Flat token.terminal)
    (second : Shallow depth others) : Shallow depth (tokens ++ token :: others) where
  balanced opened := by
    rw [depthBehind_append, first.balanced, (second.cons flat).balanced]
  fits opened room := by
    rw [first.balanced.fits_append, fits_cons, flat.depth, flat.run]
    exact ⟨first.fits opened room, by omega, second.fits opened room⟩

/-- A sign before a token. -/
theorem signed (sign : token.terminal = .symbol .minus) (flat : Flat last.terminal) :
    Shallow depth [token, last] where
  balanced opened := by
    rw [depthBehind_cons, sign]
    exact flat.depth opened
  fits opened room := by
    rw [fits_cons, sign, fits_cons, flat.depth, flat.run]
    exact ⟨by simp only [Terminal.depthAfter, Terminal.runAfter]; omega,
      by simp only [Terminal.depthAfter]; omega, fits_nil⟩

end Shallow

/-! ## Brackets -/

/-- A pair of brackets, each of them a lexeme whatever stands behind it. -/
structure Brackets (opening closing : Symbol) : Prop where
  opens : ∀ depth, (Terminal.symbol opening).depthAfter depth = depth + 1
  closes : ∀ depth, (Terminal.symbol closing).depthAfter depth = depth - 1
  opensNoRun : ∀ run, (Terminal.symbol opening).runAfter run = 0
  closesNoRun : ∀ run, (Terminal.symbol closing).runAfter run = 0
  first : ∀ rest, firstMatch? (opening.spelling.toList ++ rest)
    = some (.symbol opening, opening.spelling.toList, rest)
  last : ∀ rest, firstMatch? (closing.spelling.toList ++ rest)
    = some (.symbol closing, closing.spelling.toList, rest)
  parts : ∀ rest, Pattern.Parted (closing.spelling.toList ++ rest)

theorem squareBrackets : Brackets .leftBracket .rightBracket where
  opens _ := rfl
  closes _ := rfl
  opensNoRun _ := rfl
  closesNoRun _ := rfl
  first _ := rfl
  last _ := rfl
  parts _ := Pattern.parted_cons.mpr rfl

theorem braces : Brackets .leftBrace .rightBrace where
  opens _ := rfl
  closes _ := rfl
  opensNoRun _ := rfl
  closesNoRun _ := rfl
  first _ := rfl
  last _ := rfl
  parts _ := Pattern.parted_cons.mpr rfl

theorem Shallow.enclosed {depth : Nat} {opening closing : Symbol} {first last : Token}
    {tokens : List Token} (brackets : Brackets opening closing)
    (opens : first.terminal = .symbol opening) (inner : Shallow depth tokens)
    (closes : last.terminal = .symbol closing) :
    Shallow (depth + 1) (first :: (tokens ++ [last])) where
  balanced opened := by
    simp [opens, brackets.opens, inner.balanced _, closes, brackets.closes]
  fits opened room := by
    rw [fits_cons, opens, brackets.opens, brackets.opensNoRun, inner.balanced.fits_append,
      fits_cons, closes, brackets.closes, brackets.closesNoRun]
    exact ⟨by omega, inner.fits _ (by omega), by omega, fits_nil⟩

/-! ## Pieces that write something -/

/-- A piece of text whose tokens write something, without brackets nested deeper than `depth`. -/
inductive Writes {α : Type} (rule : List Token → α → Prop) (depth : Nat) (piece : List Char)
    (value : α) : Prop where
  | intro (tokens : Nat → List Token) :
      Scans Pattern.Parted piece tokens → (∀ position, rule (tokens position) value) →
      (∀ position, Shallow depth (tokens position)) → Writes rule depth piece value

/-- Pieces with commas between them. -/
def commas : List (List Char) → List Char
  | [] => []
  | [piece] => piece
  | piece :: pieces => piece ++ ([','] ++ ([' '] ++ commas pieces))

section

variable {α : Type} {rule : List Token → α → Prop} {depth : Nat} {pieces : List (List Char)}
  {values : List α} {piece : List Char} {value : α}

theorem Writes.imp {β : Type} {other : List Token → β → Prop} {result : β}
    (writes : Writes rule depth piece value)
    (makes : ∀ tokens, rule tokens value → other tokens result) :
    Writes other depth piece result := by
  cases writes with
  | intro tokens scans derives shallow =>
      exact .intro tokens scans (fun position => makes _ (derives position)) shallow

theorem scans_comma : Scans Anything [','] fun position => [⟨.symbol .comma, ",", position⟩] :=
  scans_sign .comma fun _ => rfl

theorem scans_space : Scans Anything [' '] fun _ => [] :=
  scans_gap (List.forall_mem_singleton.mpr rfl)

theorem parted_comma (rest : List Char) : Pattern.Parted ([','] ++ rest) :=
  Pattern.parted_cons.mpr rfl

theorem Writes.separated (each : List.Forall₂ (Writes rule depth) pieces values)
    (nonempty : pieces ≠ []) : Writes (Separated rule) depth (commas pieces) values := by
  induction each with
  | nil => exact absurd rfl nonempty
  | @cons piece value pieces values first rest ih =>
      cases rest with
      | nil => exact first.imp fun _ here => .one here
      | cons second others =>
          obtain ⟨tokens, scans, derives, shallow⟩ := first
          obtain ⟨tokens', scans', derives', shallow'⟩ := ih (List.cons_ne_nil _ _)
          refine .intro _ (scans.append (scans_comma.append (scans_space.append scans' ?_) ?_) ?_)
            (fun position => .more (derives position) rfl (derives' _))
            (fun position => (shallow position).around ⟨fun _ => rfl, fun _ => rfl⟩ (shallow' _))
          · exact fun _ _ => trivial
          · exact fun _ _ => trivial
          · exact fun rest _ => parted_comma _

theorem Writes.enclosed {opening closing : Symbol} (brackets : Brackets opening closing)
    (each : List.Forall₂ (Writes rule depth) pieces values) :
    Writes (Enclosed opening closing rule) (depth + 1)
      (opening.spelling.toList ++ (commas pieces ++ closing.spelling.toList)) values := by
  have opens := scans_sign opening brackets.first
  have closes := scans_sign closing brackets.last
  by_cases nonempty : pieces = []
  · subst nonempty
    cases each
    refine .intro _ ((opens.append closes fun _ _ => trivial).imp fun _ _ => trivial)
      (fun position => .empty rfl rfl) fun position => ?_
    exact .enclosed brackets rfl ⟨fun _ => rfl, fun _ _ => fits_nil⟩ rfl
  · obtain ⟨tokens, scans, derives, shallow⟩ := Writes.separated each nonempty
    have inner := scans.append closes fun rest _ => brackets.parts rest
    exact .intro _ ((opens.append inner fun _ _ => trivial).imp fun _ _ => trivial)
      (fun position => .full rfl (derives _) rfl)
      fun position => .enclosed brackets rfl (shallow _) rfl

/-! ## Literals -/

/-- A lexeme that is a whole expression. -/
theorem Writes.literal {token : Token} {node : Node} (lexed : token.Lexed)
    (flat : Flat token.terminal) (primary : ∀ position, Primary [{ token with position }] node) :
    Writes (Expression .loosest) depth token.lexeme.toList node :=
  .intro _ (scans_lexed lexed) (fun position => (Operand.primary (primary position)).expression _)
    fun _ => .one flat

theorem Writes.keyword {word : Keyword} {node : Node}
    (primary : ∀ token : Token, token.terminal = .keyword word → Primary [token] node) :
    Writes (Expression .loosest) depth word.spelling.toList node :=
  @Writes.literal depth ⟨.keyword word, word.spelling, 0⟩ node (lexed_keyword word)
    ⟨fun _ => rfl, fun _ => rfl⟩ fun _ => primary _ rfl

theorem Writes.natural {n : Nat} {word : Int64} (fits : Integer.ofExact? n = some word) :
    Writes (Expression .loosest) depth n.repr.toList (.integer word) :=
  @Writes.literal depth ⟨.integer word, n.repr, 0⟩ _ (lexed_digits fits)
    ⟨fun _ => rfl, fun _ => rfl⟩ fun _ => .integer rfl

theorem scans_minus : Scans Anything ['-'] fun position => [⟨.symbol .minus, "-", position⟩] :=
  scans_sign .minus fun _ => rfl

theorem Writes.negative {n : Nat} {word : Int64} (fits : Integer.ofExact? n = some word) :
    Writes (Expression .loosest) depth (['-'] ++ n.repr.toList)
      (.unary .negate (.integer word)) := by
  have scans := scans_minus.append (scans_lexed (lexed_digits fits)) fun _ _ => trivial
  refine .intro _ scans (fun position => ?_) fun position =>
    .signed rfl ⟨fun _ => rfl, fun _ => rfl⟩
  have operand : Expression .signed [⟨.integer word, n.repr, position + byteSize ['-']⟩] _ :=
    .unsigned (.primary (.integer rfl))
  have whole : Expression .signed
      (⟨.symbol .minus, "-", position⟩ :: [⟨.integer word, n.repr, position + byteSize ['-']⟩]) _ :=
    .sign rfl operand
  exact whole.loosen (Nat.zero_le _)

theorem Writes.quoted (text : String) :
    ∃ read, Text.Legible read ∧ (Text.Legible text → read = text)
      ∧ Writes (Expression .loosest) depth (Text.quote text).toList (.string read) := by
  obtain ⟨read, lexed, legible, same⟩ := lexed_quote text
  have writes := @Writes.literal depth _ (.string read) lexed ⟨fun _ => rfl, fun _ => rfl⟩
    fun _ => .string rfl
  exact ⟨read, legible, same, writes⟩

/-! ## Lists and maps -/

theorem Writes.list {nodes : List Node}
    (each : List.Forall₂ (Writes (Expression .loosest) depth) pieces nodes) :
    Writes (Expression .loosest) (depth + 1) (['['] ++ (commas pieces ++ [']'])) (.list nodes) :=
  (Writes.enclosed squareBrackets each).imp fun _ elements =>
    (Operand.primary (.list elements)).expression _

theorem Writes.map {entries : List (String × Node)}
    (each : List.Forall₂ (Writes Entry depth) pieces entries) :
    Writes (Expression .loosest) (depth + 1) (['\x7b'] ++ (commas pieces ++ ['\x7d']))
      (.map entries) :=
  (Writes.enclosed braces each).imp fun _ entries => (Operand.primary (.map entries)).expression _

theorem scans_colon : Scans Anything [':'] fun position => [⟨.symbol .colon, ":", position⟩] :=
  scans_sign .colon fun _ => rfl

/-- A quoted key, a colon and what writes the value. -/
theorem Writes.entry {key read : String} {node : Node}
    (lexed : Token.Lexed ⟨.string read, Text.quote key, 0⟩)
    (value : Writes (Expression .loosest) depth piece node) :
    Writes Entry depth ((Text.quote key).toList ++ ([':'] ++ ([' '] ++ piece))) (read, node) := by
  obtain ⟨tokens, scans, derives, shallow⟩ := value
  have behind := scans_colon.append (scans_space.append scans fun _ _ => trivial) fun _ _ => trivial
  refine .intro _ ((scans_lexed lexed).append behind fun rest _ => Pattern.parted_cons.mpr rfl)
    (fun position => .pair rfl rfl (derives _)) fun position => ?_
  exact .cons ⟨fun _ => rfl, fun _ => rfl⟩ (.cons ⟨fun _ => rfl, fun _ => rfl⟩ (shallow _))

end

/-! ## Pieces that are refused -/

/-- Among pieces of which each has tokens or is refused, a refused one refuses all. -/
theorem refused_commas {pieces : List (List Char)}
    (each : ∀ piece ∈ pieces, (∃ tokens, Scans Pattern.Parted piece tokens) ∨ Refused piece)
    (refused : ∃ piece ∈ pieces, Refused piece) : Refused (commas pieces) := by
  induction pieces with
  | nil =>
      obtain ⟨piece, among, -⟩ := refused
      cases among
  | cons piece pieces ih =>
      cases pieces with
      | nil =>
          obtain ⟨_, among, refused⟩ := refused
          rwa [List.mem_singleton.mp among] at refused
      | cons second others =>
          rw [List.forall_mem_cons] at each
          rcases each.1 with ⟨tokens, scans⟩ | first
          · obtain ⟨stuck, among, refused⟩ := refused
            rcases List.mem_cons.mp among with rfl | among
            · exact refused.before fun rest _ => parted_comma _
            · have later := ih each.2 ⟨stuck, among, refused⟩
              refine scans.refused ?_ fun rest _ => parted_comma _
              exact scans_comma.refused (scans_space.refused later fun _ _ => trivial)
                fun _ _ => trivial
          · exact first.before fun rest _ => parted_comma _

theorem refused_enclosed {opening closing : Symbol} (brackets : Brackets opening closing)
    {piece : List Char} (refused : Refused piece) :
    Refused (opening.spelling.toList ++ (piece ++ closing.spelling.toList)) := by
  refine (scans_sign opening brackets.first).refused ?_ fun _ _ => trivial
  exact refused.before fun rest _ => brackets.parts rest

end Scriptlet.Grammar
