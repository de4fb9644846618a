/-
# Proofs.Dialogues -- evaluations as talks with a stack of maps

An evaluation meets the scopes of its session in four ways: it looks names up, assigns them,
opens scopes, and leaves them again.  So it is a talk with whoever keeps the scopes (`Dialogue`),
in which it goes on by the answers that it gets, and what it says can be told from the parts that
it is put together from (`Spoken`).  Every evaluation is such a talk, and it leaves all scopes
that it opens in the opposite order (`Dialogue.Balanced`).  An array of scopes and a stack of
maps are then partners that it cannot tell apart.

With that, whatever is asked of a session, evaluations among the rest, a stack of maps gives
the answers (`serveAll_iff`), and at every moment of it the scopes are `Stacked`.
-/
import Scriptlet.Proofs.Constructs
import Scriptlet.Proofs.ScopeStack

namespace Scriptlet

set_option autoImplicit false

/-! ## Dialogues -/

/-- A talk with the keeper of some scopes, to its end or to where it is broken off. -/
inductive Dialogue (α : Type) where
  | ends (result : α)
  | stops
  | lookup (name : String) (next : Option Value → Dialogue α)
  | assign (name : String) (value : Value) (next : Dialogue α)
  | enter (next : Nat → Dialogue α)
  | leave (caller : Nat) (next : Dialogue α)

namespace Dialogue

variable {α β : Type}

def bind : Dialogue α → (α → Dialogue β) → Dialogue β
  | ends result, after => after result
  | stops, _ => stops
  | lookup name next, after => lookup name fun answer => (next answer).bind after
  | assign name value next, after => assign name value (next.bind after)
  | enter next, after => enter fun caller => (next caller).bind after
  | leave caller next, after => leave caller (next.bind after)

/-- Assigns parameters first. -/
def assignAll : List Name → List Value → Dialogue α → Dialogue α
  | name :: names, value :: values, next => assign name.text value (assignAll names values next)
  | _, _, next => next

/-- The talk with an environment: its result, and the environment afterwards. -/
def inArena : Dialogue α → Environment → Option (α × Environment)
  | ends result, environment => some (result, environment)
  | stops, _ => none
  | lookup name next, environment => (next (environment.lookup? name)).inArena environment
  | assign name value next, environment => next.inArena (environment.assign name value)
  | enter next, environment => (next environment.enter.1).inArena environment.enter.2
  | leave caller next, environment => next.inArena (environment.leave caller)

/-- The talk with a stack of maps. -/
def onStack : Dialogue α → ScopeStack → Option (α × ScopeStack)
  | ends result, stack => some (result, stack)
  | stops, _ => none
  | lookup name next, stack => (next (stack.lookup? name)).onStack stack
  | assign name value next, stack => next.onStack (stack.assign name value)
  | enter next, stack => (next stack.below.length).onStack stack.enter
  | leave _ next, stack => next.onStack stack.leave

/-- Scopes are left in the opposite order to that in which they were opened, these first, and
none is left over. -/
def Balanced : List Nat → Dialogue α → Prop
  | callers, ends _ => callers = []
  | _, stops => True
  | callers, lookup _ next => ∀ answer, Balanced callers (next answer)
  | callers, assign _ _ next => Balanced callers next
  | callers, enter next => ∀ caller, Balanced (caller :: callers) (next caller)
  | callers, leave caller next => ∃ rest, callers = caller :: rest ∧ Balanced rest next

/-- At every moment of the talk something holds of the environment and of the numbers that it
has handed out and not got back, and each number that it gets back is the last one of these. -/
def Passes (holds : List Nat → Environment → Prop) :
    Dialogue α → List Nat → Environment → Prop
  | ends _, callers, environment => holds callers environment
  | stops, callers, environment => holds callers environment
  | lookup name next, callers, environment =>
      holds callers environment ∧ (next (environment.lookup? name)).Passes holds callers environment
  | assign name value next, callers, environment =>
      holds callers environment ∧ next.Passes holds callers (environment.assign name value)
  | enter next, callers, environment => holds callers environment
      ∧ (next environment.enter.1).Passes holds (environment.enter.1 :: callers) environment.enter.2
  | leave caller next, callers, environment => holds callers environment
      ∧ ∃ rest, callers = caller :: rest ∧ next.Passes holds rest (environment.leave caller)

theorem inArena_bind (dialogue : Dialogue α) (after : α → Dialogue β) (environment : Environment) :
    (dialogue.bind after).inArena environment
      = (dialogue.inArena environment).bind fun ended => (after ended.1).inArena ended.2 := by
  induction dialogue generalizing environment with
  | ends | stops => rfl
  | lookup name next ih => exact ih _ environment
  | assign name value next ih => exact ih _
  | enter next ih => exact ih _ _
  | leave caller next ih => exact ih _

theorem inArena_assignAll (names : List Name) (values : List Value) (next : Dialogue α)
    (environment : Environment) : (assignAll names values next).inArena environment
      = next.inArena (Evaluation.bindAll environment names values) := by
  induction names generalizing environment values with
  | nil => rfl
  | cons name names ih =>
      cases values with
      | nil => rfl
      | cons value values => exact ih values _

theorem Balanced.bind {dialogue : Dialogue α} {after : α → Dialogue β} {inner outer : List Nat}
    (balanced : dialogue.Balanced inner) (rest : ∀ result, (after result).Balanced outer) :
    (dialogue.bind after).Balanced (inner ++ outer) := by
  induction dialogue generalizing inner with
  | ends result =>
      obtain rfl := balanced
      exact rest result
  | stops => trivial
  | lookup name next ih => exact fun answer => ih answer (balanced answer)
  | assign name value next ih => exact ih balanced
  | enter next ih => exact fun caller => ih caller (balanced caller)
  | leave caller next ih =>
      obtain ⟨others, rfl, balanced⟩ := balanced
      exact ⟨others ++ outer, rfl, ih balanced⟩

theorem Balanced.assignAll {callers : List Nat} {next : Dialogue α}
    (balanced : next.Balanced callers) (names : List Name) (values : List Value) :
    (Dialogue.assignAll names values next).Balanced callers := by
  induction names generalizing values with
  | nil => exact balanced
  | cons name names ih =>
      cases values with
      | nil => exact balanced
      | cons value values => exact ih values

/-- A talk with the environment that a stack is laid out as goes as the talk with the stack: they
end alike, the numbers in `inner` have been given back and those in `outer` have not. -/
structure Agrees (dialogue : Dialogue α) (inner outer : List Nat) (environment : Environment)
    (stack : ScopeStack) : Prop where
  alike : dialogue.inArena environment
    = (dialogue.onStack stack).map fun ended => (ended.1, ended.2.arena)
  left : ∀ ended, dialogue.onStack stack = some ended → ended.2.callers = outer
  passes : dialogue.Passes Environment.Stacked (inner ++ outer) environment

/-- **A balanced dialogue cannot tell an array of scopes from a stack of maps.** -/
theorem Balanced.agrees {dialogue : Dialogue α} {inner outer : List Nat} {environment : Environment}
    {stack : ScopeStack} (balanced : dialogue.Balanced inner) (laid : environment = stack.arena)
    (handed : stack.callers = inner ++ outer) : dialogue.Agrees inner outer environment stack := by
  have stacked {callers : List Nat} {environment : Environment} {stack : ScopeStack}
      (laid : environment = stack.arena) (handed : stack.callers = callers) :
      Environment.Stacked callers environment := by
    rw [laid, ← handed]
    exact stack.stacked_arena
  -- At each word of the talk the environment is the stack laid out, and the numbers that it has
  -- handed out are those of the maps below the top.
  induction dialogue generalizing inner environment stack with
  | ends result =>
      obtain rfl := balanced
      refine ⟨laid ▸ rfl, fun ended same => ?_, stacked laid handed⟩
      obtain rfl := Option.some.inj same
      exact handed
  | stops => exact ⟨rfl, nofun, stacked laid handed⟩
  | lookup name next ih =>
      have same : environment.lookup? name = stack.lookup? name := laid ▸ stack.lookup?_arena name
      have rest := ih _ (balanced (stack.lookup? name)) laid handed
      refine ⟨?_, rest.left, stacked laid handed, ?_⟩
      · rw [inArena, same]
        exact rest.alike
      · rw [same]
        exact rest.passes
  | assign name value next ih =>
      have same : environment.assign name value = (stack.assign name value).arena :=
        laid ▸ (stack.arena_assign name value).symm
      have rest := ih balanced same handed
      exact ⟨rest.alike, rest.left, stacked laid handed, rest.passes⟩
  | enter next ih =>
      have same : environment.enter = (stack.below.length, stack.enter.arena) :=
        laid ▸ stack.arena_enter
      have more : stack.enter.callers = stack.below.length :: inner ++ outer :=
        congrArg (stack.below.length :: ·) handed
      have rest := ih _ (balanced stack.below.length) rfl more
      refine ⟨?_, rest.left, stacked laid handed, ?_⟩
      · rw [inArena, same]
        exact rest.alike
      · rw [same]
        exact rest.passes
  | leave caller next ih =>
      obtain ⟨others, rfl, balanced⟩ := balanced
      obtain ⟨same, fewer⟩ := stack.arena_leave handed
      have rest := ih balanced (laid ▸ same) fewer
      exact ⟨rest.alike, rest.left, stacked laid handed, _, rfl, rest.passes⟩

end Dialogue

/-! ## What a run says -/

/-- How a run ends, with the count of active calls and all that has been printed. -/
structure Report (α : Type) where
  ending : Except RuntimeError α
  depth : Nat
  printed : String

/-- The outcome of a run that has had its talk with an environment. -/
def Outcome.ofReport {α : Type} : Option (Report α × Environment) → Outcome α
  | none => .unfinished
  | some (⟨.ok result, depth, printed⟩, environment) => .done result ⟨environment, depth, printed⟩
  | some (⟨.error error, depth, printed⟩, environment) =>
      .failed error ⟨environment, depth, printed⟩

/-- What a run says, by the count of active calls and what has been printed before it. -/
def Speech (α : Type) := Nat → String → Dialogue (Report α)

namespace Speech

variable {α β : Type}

def ended (ending : Except RuntimeError α) : Speech α :=
  fun depth printed => .ends ⟨ending, depth, printed⟩

def unfinished : Speech α := fun _ _ => .stops

def bind (first : Speech α) (next : α → Speech β) : Speech β := fun depth printed =>
  (first depth printed).bind fun report =>
    match report.ending with
    | .ok result => next result report.depth report.printed
    | .error error => ended (.error error) report.depth report.printed

def lookup (name : String) : Speech Value := fun depth printed =>
  .lookup name fun
    | some value => ended (.ok value) depth printed
    | none => ended (.error (.unknownIdentifier name)) depth printed

def assign (name : String) (value : Value) : Speech Unit := fun depth printed =>
  .assign name value (ended (.ok ()) depth printed)

/-- Writing says nothing to the keeper of the scopes. -/
def write (sink : Sink) : List String → Speech Unit
  | [] => ended (.ok ())
  | piece :: rest => fun depth printed =>
      if sink printed then ended (.error .sinkFull) depth printed
      else write sink rest depth (printed ++ piece)

/-- A call opens a scope, assigns the parameters, lets the body speak, and leaves the scope. -/
def call (limits : Limits) (parameters : List Name) (body : Speech Flow) (arguments : List Value) :
    Speech Value := fun depth printed =>
  if parameters.length ≠ arguments.length then
    ended (.error (.argumentCount parameters.length arguments.length)) depth printed
  else if limits.calls ≤ depth then
    ended (.error (.recursionLimit limits.calls)) depth printed
  else
    .enter fun caller => .assignAll parameters arguments <|
      (body (depth + 1) printed).bind fun report =>
        .leave caller (.ends ⟨report.ending.map Flow.carried, report.depth - 1, report.printed⟩)

end Speech

open Evaluation in
/-- What a run says, told from the parts that it is put together from. -/
inductive Spoken : {α : Type} → Run α → Speech α → Prop where
  | pure {α : Type} (result : α) : Spoken (pure result) (.ended (.ok result))
  | fail {α : Type} (error : RuntimeError) : Spoken (Run.fail error : Run α) (.ended (.error error))
  | unfinished {α : Type} : Spoken (Run.unfinished : Run α) .unfinished
  | bind {α β : Type} {first : Run α} {next : α → Run β} {speech : Speech α}
      {speeches : α → Speech β} : Spoken first speech →
      (∀ result, Spoken (next result) (speeches result)) →
      Spoken (first >>= next) (speech.bind speeches)
  | lookup (name : String) : Spoken (Run.lookup name) (.lookup name)
  | assign (name : String) (value : Value) : Spoken (Run.assign name value) (.assign name value)
  | write (sink : Sink) (pieces : List String) : Spoken (Run.write sink pieces) (.write sink pieces)
  | call {nested : Node → Run Flow} {limits : Limits} {parameters : List Name} {body : Node}
      {arguments : List Value} {speech : Speech Flow} : Spoken (nested body) speech →
      Spoken (call nested limits parameters body arguments)
        (.call limits parameters speech arguments)

namespace Spoken

variable {α : Type} {run : Run α} {speech : Speech α}

/-- A run does what it says. -/
theorem outcome (spoken : Spoken run speech) (machine : Machine) :
    run machine
      = .ofReport ((speech machine.depth machine.printed).inArena machine.environment) := by
  induction spoken generalizing machine with
  | pure | fail | unfinished | assign => rfl
  | lookup name =>
      simp only [Run.lookup, Speech.lookup, Dialogue.inArena]
      cases machine.environment.lookup? name <;> rfl
  | write sink pieces =>
      induction pieces generalizing machine with
      | nil => rfl
      | cons piece rest ih =>
          simp only [Run.write, Speech.write]
          split
          · rfl
          · exact ih _
  | @bind α β first next speech speeches _ _ firsts nexts =>
      show Run.bind first next machine = _
      simp only [Run.bind, firsts machine, Speech.bind, Dialogue.inArena_bind]
      cases (speech machine.depth machine.printed).inArena machine.environment with
      | none => rfl
      | some ended =>
          obtain ⟨⟨ending, depth, printed⟩, environment⟩ := ended
          cases ending with
          | ok result => exact nexts result ⟨environment, depth, printed⟩
          | error error => rfl
  | @call nested limits parameters body arguments speech _ ih =>
      simp only [Evaluation.call, Speech.call]
      split
      · rfl
      · split
        · rfl
        · rw [ih]
          simp only [Dialogue.inArena, Dialogue.inArena_assignAll, Dialogue.inArena_bind,
            Evaluation.enterCall]
          generalize (speech _ _).inArena _ = ended
          cases ended with
          | none => rfl
          | some ended =>
              obtain ⟨⟨ending, depth, printed⟩, environment⟩ := ended
              cases ending <;> rfl

/-- A run leaves all scopes that it opens. -/
theorem balanced (spoken : Spoken run speech) (depth : Nat) (printed : String) :
    (speech depth printed).Balanced [] := by
  induction spoken generalizing depth printed with
  | pure | fail | assign => rfl
  | unfinished => trivial
  | lookup name =>
      intro answer
      cases answer <;> rfl
  | write sink pieces =>
      induction pieces generalizing printed with
      | nil => rfl
      | cons piece rest ih =>
          simp only [Speech.write]
          split
          · rfl
          · exact ih _
  | bind _ _ firsts nexts =>
      refine @Dialogue.Balanced.bind _ _ _ _ [] [] (firsts depth printed) fun report => ?_
      split
      · exact nexts _ _ _
      · rfl
  | call _ ih =>
      simp only [Speech.call]
      split
      · rfl
      · split
        · rfl
        · intro caller
          refine .assignAll ?_ _ _
          exact @Dialogue.Balanced.bind _ _ _ _ [] [caller] (ih _ _) fun report => ⟨[], rfl, rfl⟩

end Spoken

namespace Evaluation

theorem congruence_spoken (limits : Limits) :
    Congruence limits limits fun run _ => ∃ speech, Spoken run speech where
  pure result := ⟨_, .pure result⟩
  fail error := ⟨_, .fail error⟩
  unfinished := ⟨_, .unfinished⟩
  bind := by
    rintro α β first _ next _ ⟨speech, spoken⟩ nexts
    obtain ⟨speeches, spokens⟩ := Classical.skolem.mp nexts
    exact ⟨_, .bind spoken spokens⟩
  lookup name := ⟨_, .lookup name⟩
  write pieces := ⟨_, .write limits.sink pieces⟩

/-- Every evaluation is a talk with whoever keeps the scopes, by induction on the rounds. -/
theorem evaluate_spoken (limits : Limits) (rounds : Nat) (tree : Node) :
    ∃ speech, Spoken (evaluate limits rounds tree) speech := by
  induction rounds generalizing tree with
  | zero => exact ⟨_, .unfinished⟩
  | succ rounds ih =>
      refine (congruence_spoken limits).step _ (evaluate limits rounds) ?_ (fun child _ => ih child)
        fun target inner value _ => ⟨_, .assign target.text value⟩
      intro parameters body values
      obtain ⟨speech, spoken⟩ := ih body
      exact ⟨_, .call spoken⟩

end Evaluation

/-! ## Requests -/

/-- What can be asked of a session that keeps scopes.  Scopes are left with the number that came
with the one opened last. -/
inductive Request where
  | enter
  | leave
  | assign (name : String) (value : Value)
  | lookup (name : String)
  | own (name : String)
  | ownBindings
  | parentBindings
  | depth
  | evaluate (limits : Limits) (rounds : Nat) (tree : Node)

inductive Answer where
  | nothing
  | number (number : Nat)
  | value (found : Option Value)
  | bindings (entries : Option (List (String × Value)))
  | evaluated (ending : Except RuntimeError Flow) (printed : String)

namespace Environment

/-- The answer to a request, with the numbers to be given back and the environment afterwards.
There is none if no scope is left to be left, or if the evaluation is not finished. -/
def serve (callers : List Nat) (environment : Environment) :
    Request → Option (Answer × List Nat × Environment)
  | .enter =>
      some (.number environment.enter.1, environment.enter.1 :: callers, environment.enter.2)
  | .leave =>
      match callers with
      | [] => none
      | caller :: rest => some (.nothing, rest, environment.leave caller)
  | .assign name value => some (.nothing, callers, environment.assign name value)
  | .lookup name => some (.value (environment.lookup? name), callers, environment)
  | .own name => some (.value (environment.local? name), callers, environment)
  | .ownBindings => some (.bindings environment.localBindings, callers, environment)
  | .parentBindings => some (.bindings environment.parentBindings?, callers, environment)
  | .depth => some (.number environment.depth, callers, environment)
  | .evaluate limits rounds tree =>
      match Evaluation.evaluate limits rounds tree (.start environment) with
      | .done flow after => some (.evaluated (.ok flow) after.printed, callers, after.environment)
      | .failed error after =>
          some (.evaluated (.error error) after.printed, callers, after.environment)
      | .unfinished => none

/-- The answers to requests in turn. -/
def serveAll (callers : List Nat) (environment : Environment) :
    List Request → Option (List Answer × List Nat × Environment)
  | [] => some ([], callers, environment)
  | request :: requests =>
      (environment.serve callers request).bind fun (answer, callers, environment) =>
        (environment.serveAll callers requests).map fun (answers, left) => (answer :: answers, left)

end Environment

namespace ScopeStack

/-- The answer of a stack of maps to a request, and the stack afterwards. -/
inductive Serves (stack : ScopeStack) : Request → Answer → ScopeStack → Prop where
  | enter : Serves stack .enter (.number stack.below.length) stack.enter
  | leave : stack.below ≠ [] → Serves stack .leave .nothing stack.leave
  | assign (name : String) (value : Value) :
      Serves stack (.assign name value) .nothing (stack.assign name value)
  | lookup (name : String) : Serves stack (.lookup name) (.value (stack.lookup? name)) stack
  | own (name : String) : Serves stack (.own name) (.value (stack.local? name)) stack
  | ownBindings : Serves stack .ownBindings (.bindings stack.top) stack
  | parentBindings : Serves stack .parentBindings (.bindings stack.parentBindings?) stack
  | depth : Serves stack .depth (.number stack.depth) stack
  | evaluate {limits : Limits} {rounds : Nat} {tree : Node} {speech : Speech Flow}
      {report : Report Flow} {after : ScopeStack} :
      Spoken (Evaluation.evaluate limits rounds tree) speech →
      (speech 0 "").onStack stack = some (report, after) →
      Serves stack (.evaluate limits rounds tree) (.evaluated report.ending report.printed) after

inductive ServesAll : ScopeStack → List Request → List Answer → ScopeStack → Prop where
  | nil (stack : ScopeStack) : ServesAll stack [] [] stack
  | cons {stack middle after : ScopeStack} {request : Request} {answer : Answer}
      {requests : List Request} {answers : List Answer} : stack.Serves request answer middle →
      ServesAll middle requests answers after →
      ServesAll stack (request :: requests) (answer :: answers) after

/-- The scopes of a stack serve the evaluation of a tree as the stack does. -/
theorem serve_evaluate {limits : Limits} {rounds : Nat} {tree : Node} {speech : Speech Flow}
    (spoken : Spoken (Evaluation.evaluate limits rounds tree) speech) (stack : ScopeStack) :
    stack.arena.serve stack.callers (.evaluate limits rounds tree)
      = ((speech 0 "").onStack stack).map fun (report, after) =>
          (.evaluated report.ending report.printed, after.callers, after.arena) := by
  have agrees := (spoken.balanced 0 "").agrees rfl (Eq.refl stack.callers)
  simp only [Environment.serve, spoken.outcome, Machine.start, agrees.alike]
  cases talk : (speech 0 "").onStack stack with
  | none => rfl
  | some ended =>
      obtain ⟨⟨ending, depth, printed⟩, after⟩ := ended
      have left : after.callers = stack.callers := agrees.left _ talk
      cases ending <;> simp [Outcome.ofReport, left]

/-- The scopes of a stack give the answer that the stack gives. -/
theorem Serves.serve {stack after : ScopeStack} {request : Request} {answer : Answer}
    (serves : stack.Serves request answer after) :
    stack.arena.serve stack.callers request = some (answer, after.callers, after.arena) := by
  cases serves with
  | enter =>
      rw [Environment.serve, arena_enter]
      rfl
  | leave several =>
      obtain ⟨next, rest, below⟩ := List.exists_cons_of_ne_nil several
      have handed : stack.callers = rest.length :: numbers rest := by rw [callers, below, numbers]
      obtain ⟨same, fewer⟩ := stack.arena_leave handed
      rw [handed, Environment.serve, same, fewer]
  | assign name value =>
      rw [Environment.serve, ← arena_assign]
      rfl
  | lookup name => rw [Environment.serve, lookup?_arena]
  | own name => rw [Environment.serve, local?_arena]
  | ownBindings => rw [Environment.serve, localBindings_arena]
  | parentBindings => rw [Environment.serve, parentBindings?_arena]
  | depth => rw [Environment.serve, depth_arena]
  | evaluate spoken talk => rw [serve_evaluate spoken, talk, Option.map_some]

/-- Whatever the scopes of a stack answer, the stack answers. -/
theorem serves_of_serve {stack : ScopeStack} {request : Request} {answer : Answer}
    {left : List Nat × Environment}
    (served : stack.arena.serve stack.callers request = some (answer, left)) :
    ∃ after, stack.Serves request answer after ∧ left = (after.callers, after.arena) := by
  have only {given : Answer} {after : ScopeStack} (serves : stack.Serves request given after) :
      ∃ after, stack.Serves request answer after ∧ left = (after.callers, after.arena) := by
    obtain ⟨rfl, rfl⟩ := Prod.mk.inj (Option.some.inj (served.symm.trans serves.serve))
    exact ⟨after, serves, rfl⟩
  cases request with
  | enter => exact only .enter
  | leave =>
      refine only (.leave fun none => ?_)
      rw [callers, none] at served
      cases served
  | assign name value => exact only (.assign name value)
  | lookup name => exact only (.lookup name)
  | own name => exact only (.own name)
  | ownBindings => exact only .ownBindings
  | parentBindings => exact only .parentBindings
  | depth => exact only .depth
  | evaluate limits rounds tree =>
      obtain ⟨speech, spoken⟩ := Evaluation.evaluate_spoken limits rounds tree
      cases talk : (speech 0 "").onStack stack with
      | none =>
          rw [serve_evaluate spoken, talk] at served
          cases served
      | some ended => exact only (.evaluate spoken talk)

theorem ServesAll.serveAll {stack after : ScopeStack} {requests : List Request}
    {answers : List Answer} (serves : stack.ServesAll requests answers after) :
    stack.arena.serveAll stack.callers requests = some (answers, after.callers, after.arena) := by
  induction serves with
  | nil => rfl
  | cons first _ ih =>
      simp only [Environment.serveAll, first.serve, Option.bind_some, ih, Option.map_some]

theorem servesAll_of_serveAll {stack : ScopeStack} {requests : List Request}
    {answers : List Answer} {left : List Nat × Environment}
    (served : stack.arena.serveAll stack.callers requests = some (answers, left)) :
    ∃ after, stack.ServesAll requests answers after ∧ left = (after.callers, after.arena) := by
  induction requests generalizing stack answers with
  | nil =>
      obtain ⟨rfl, rfl⟩ := Prod.mk.inj (Option.some.inj served)
      exact ⟨stack, .nil stack, rfl⟩
  | cons request requests ih =>
      obtain ⟨⟨answer, reached⟩, first, rest⟩ := Option.bind_eq_some_iff.mp served
      obtain ⟨middle, serves, rfl⟩ := serves_of_serve first
      obtain ⟨⟨others, _⟩, further, same⟩ := Option.map_eq_some_iff.mp rest
      obtain ⟨rfl, rfl⟩ := Prod.mk.inj same
      obtain ⟨after, serves_rest, rfl⟩ := ih further
      exact ⟨after, .cons serves serves_rest, rfl⟩

end ScopeStack

namespace Environment

/-- **The scopes of a session are a stack of maps.**  Whatever requests are made of a session, it
gives the answers that a stack of maps gives, and has the scopes of the stack in the end.  At that
moment, and at every moment of an evaluation that begins then, the scopes are stacked.  And every
evaluation is such a talk with whoever keeps the scopes. -/
theorem serveAll_iff (bindings : List (String × Value)) (requests : List Request)
    (answers : List Answer) (callers : List Nat) (environment : Environment) :
    (serveAll [] (.ofBindings bindings) requests = some (answers, callers, environment)
      ↔ ∃ stack, (ScopeStack.ofBindings bindings).ServesAll requests answers stack
        ∧ (callers, environment) = (stack.callers, stack.arena))
    ∧ (serveAll [] (.ofBindings bindings) requests = some (answers, callers, environment) →
      Stacked callers environment
        ∧ ∀ limits rounds tree speech, Spoken (Evaluation.evaluate limits rounds tree) speech →
          (speech 0 "").Passes Stacked callers environment)
    ∧ ∀ limits rounds tree, ∃ speech, Spoken (Evaluation.evaluate limits rounds tree) speech := by
  have answered (served : serveAll [] (.ofBindings bindings) requests
      = some (answers, callers, environment)) := by
    rw [← ScopeStack.arena_ofBindings] at served
    exact @ScopeStack.servesAll_of_serveAll (.ofBindings bindings) _ _ _ served
  refine ⟨⟨answered, ?_⟩, fun served => ?_, Evaluation.evaluate_spoken⟩
  · rintro ⟨stack, serves, same⟩
    rw [same]
    exact serves.serveAll
  · obtain ⟨stack, -, same⟩ := answered served
    obtain ⟨rfl, rfl⟩ := Prod.mk.inj same
    refine ⟨stack.stacked_arena, fun limits rounds tree speech spoken => ?_⟩
    exact ((spoken.balanced 0 "").agrees rfl (Eq.refl stack.callers)).passes

namespace Sample

/-- A function that assigns its argument in its own scope. -/
def keeping : Value := .function [.ofText "n"] (.block [
  .assign (.ofText "x") (.identifier (.ofText "n")), .identifier (.ofText "x")])

/-- A tree that assigns what a call yields, and then fails. -/
def halfway : Node := .program [
  .assign (.ofText "x") (.call (.identifier (.ofText "f")) [.identifier (.ofText "y")]),
  .identifier (.ofText "z")]

def requests : List Request := [.enter, .assign "y" (.integer 5), .evaluate .default 9 halfway,
  .own "x", .depth, .leave, .own "y", .lookup "x", .parentBindings]

def answers : List Answer := [.number 0, .nothing, .evaluated (.error (.unknownIdentifier "z")) "",
  .value (some (.integer 5)), .number 2, .nothing, .value none, .value (some (.integer 7)),
  .bindings none]

end Sample

/-- A scope in which an evaluation with a call in it fails. -/
theorem serveAll_iff_halfway : ∃ callers environment stack,
    serveAll [] (.ofBindings [("f", Sample.keeping), ("x", .integer 7)]) Sample.requests
        = some (Sample.answers, callers, environment)
      ∧ (ScopeStack.ofBindings [("f", Sample.keeping), ("x", .integer 7)]).ServesAll Sample.requests
        Sample.answers stack
      ∧ environment = stack.arena ∧ Stacked callers environment := by
  have served : serveAll [] (.ofBindings [("f", Sample.keeping), ("x", .integer 7)]) Sample.requests
      = some (Sample.answers, _, _) := rfl
  obtain ⟨answered, stacked, -⟩ := serveAll_iff [("f", Sample.keeping), ("x", .integer 7)]
    Sample.requests Sample.answers _ _
  obtain ⟨stack, serves, same⟩ := answered.mp served
  exact ⟨_, _, stack, served, serves, congrArg Prod.snd same, (stacked served).1⟩

end Environment

end Scriptlet
