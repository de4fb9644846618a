/-
# Proofs.FullSinks -- a sink that fills up cuts the run short

A sink does nothing but end a run whose writing it refuses.  Two evaluations of one tree on one
machine, of which the second has the wider sink, one that takes whatever the first one takes, do the
same until the first one is refused a write.  If that never happens they have the same outcome.  If
it does, the first one fails, and nothing is printed after that; the second one goes on, and if it
ends it has printed more (`Run.CutShort`, `evaluate_cut`).

With the sink that never fills up in the place of the wider one this is what a sink that holds so
many lines comes to (`evaluate_ofLines`).  The wider sink may also be one that differs only after
the refusal, and so it is told that the run does not ask for anything then.
-/
import Scriptlet.Proofs.CallLimits

namespace Scriptlet

set_option autoImplicit false

/-! ## Printing more -/

/-- What the first machine has printed is a proper beginning of what the second one has. -/
def Machine.PrintsMore (before after : Machine) : Prop :=
  ∃ rest, rest ≠ "" ∧ after.printed = before.printed ++ rest

namespace Machine.PrintsMore

variable {before middle after : Machine}

theorem printsOn (more : before.PrintsMore middle) (further : middle.PrintsOn after) :
    before.PrintsMore after := by
  obtain ⟨rest, nonempty, printed⟩ := more
  obtain ⟨others, further⟩ := further
  refine ⟨rest ++ others, ?_, ?_⟩
  · intro none
    exact nonempty (String.append_eq_empty_iff.mp none).1
  · rw [further, printed, String.append_assoc]

theorem print (machine : Machine) {piece : String} (nonempty : piece ≠ "") :
    machine.PrintsMore { machine with printed := machine.printed ++ piece } :=
  ⟨piece, nonempty, rfl⟩

end Machine.PrintsMore

/-! ## Runs that are cut short -/

namespace Outcome

variable {α : Type}

/-- The second outcome is the first one, or the first run has failed at a write that only its own
sink refuses, and the second one, if it ends, has printed more. -/
inductive Cut (sink wider : Sink) : Outcome α → Outcome α → Prop where
  | same (outcome : Outcome α) : Cut sink wider outcome outcome
  | refused {after : Machine} {outcome : Outcome α} :
      sink after.printed = true → wider after.printed = false →
      (∀ later, outcome.machine? = some later → after.PrintsMore later) →
      Cut sink wider (.failed .sinkFull after) outcome

end Outcome

namespace Run

variable {α β : Type} {sink wider : Sink}

/-- The second run does what the first one does, and goes on where that one is refused a write. -/
structure CutShort (sink wider : Sink) (run other : Run α) : Prop where
  cut : ∀ machine, (run machine).Cut sink wider (other machine)
  prints : other.Keeps Machine.PrintsOn

namespace CutShort

theorem self {run : Run α} (prints : run.Keeps Machine.PrintsOn) : run.CutShort sink wider run :=
  ⟨fun machine => .same (run machine), prints⟩

theorem bind {first first' : Run α} {next next' : α → Run β}
    (firsts : first.CutShort sink wider first')
    (nexts : ∀ result, (next result).CutShort sink wider (next' result)) :
    (first >>= next).CutShort sink wider (first' >>= next') := by
  refine ⟨fun machine => ?_, .bind .trans firsts.prints fun result => (nexts result).prints⟩
  have cut := firsts.cut machine
  show (Run.bind first next machine).Cut sink wider (Run.bind first' next' machine)
  unfold Run.bind
  generalize first machine = outcome at cut
  generalize first' machine = outcome' at cut
  cases cut with
  | same =>
      cases outcome with
      | done result after => exact (nexts result).cut after
      | failed | unfinished => exact .same _
  | refused full takes more =>
      refine .refused full takes fun later ended => ?_
      cases outcome' with
      | done result middle =>
          exact (more middle rfl).printsOn ((nexts result).prints middle later ended)
      | failed error middle => exact more later ended
      | unfinished => cases ended

end CutShort

theorem write_prints (sink : Sink) (pieces : List String) :
    (Run.write sink pieces).Keeps Machine.PrintsOn :=
  .write .refl .trans .print sink pieces

/-- A sink that takes the next write takes all pieces up to the first that is not empty. -/
theorem write_more {machine after : Machine} (takes : wider machine.printed = false)
    {pieces : List String} (visible : ∃ piece ∈ pieces, piece ≠ "")
    (ended : (Run.write wider pieces machine).machine? = some after) :
    machine.PrintsMore after := by
  induction pieces with
  | nil => simp at visible
  | cons piece rest ih =>
      simp only [Run.write, takes] at ended
      by_cases empty : piece = ""
      · subst empty
        rw [String.append_empty] at ended
        exact ih (by simpa using visible) ended
      · exact (Machine.PrintsMore.print machine empty).printsOn (write_prints wider rest _ _ ended)

section

variable (wide : ∀ text, wider text = true → sink text = true)
include wide

/-- A write is refused by both sinks, or by the first one only, or by none. -/
theorem write_cut_cons {piece : String} {rest : List String}
    (visible : ∃ later ∈ piece :: rest, later ≠ "")
    (rests : ∀ machine, (Run.write sink rest machine).Cut sink wider (Run.write wider rest machine))
    (machine : Machine) : (Run.write sink (piece :: rest) machine).Cut sink wider
      (Run.write wider (piece :: rest) machine) := by
  by_cases full : sink machine.printed = true
  · have refused : Run.write sink (piece :: rest) machine = .failed .sinkFull machine := by
      simp [Run.write, full]
    rw [refused]
    by_cases tight : wider machine.printed = true
    · have both : Run.write wider (piece :: rest) machine = .failed .sinkFull machine := by
        simp [Run.write, tight]
      rw [both]
      exact .same _
    · have takes := Bool.eq_false_iff.mpr tight
      exact .refused full takes fun later ended => write_more takes visible ended
  · have loose : wider machine.printed ≠ true := fun tight => full (wide _ tight)
    simp only [Run.write, full, loose]
    exact rests _

/-- Writing is cut short where the sink is full, if the last piece is not empty. -/
theorem write_cutShort {last : String} (visible : last ≠ "") (pieces : List String) :
    (Run.write sink (pieces ++ [last])).CutShort sink wider
      (Run.write wider (pieces ++ [last])) := by
  refine ⟨fun machine => ?_, write_prints wider _⟩
  induction pieces generalizing machine with
  | nil => exact write_cut_cons wide ⟨last, by simp, visible⟩ (fun _ => .same _) machine
  | cons piece rest ih => exact write_cut_cons wide ⟨last, by simp, visible⟩ ih machine

end

end Run

/-! ## Evaluations -/

namespace Evaluation

open Run Machine

variable {sink wider : Sink} {calls rounds : Nat} {tree : Node}

section

variable (wide : ∀ text, wider text = true → sink text = true)
include wide

theorem compositional_cutShort (calls : Nat) :
    Compositional ⟨calls, sink⟩ ⟨calls, wider⟩ (CutShort sink wider) where
  pure result := .self (.pure .refl result)
  fail error := .self (.fail .refl error)
  bind := .bind
  lookup name := .self (.lookup .refl name)
  printLine value? := by
    have line : "\n" ≠ "" := by decide
    cases value? with
    | none => exact write_cutShort wide line []
    | some value => exact write_cutShort wide line (value.pieces false)

omit wide in
/-- A call is cut short where its body is. -/
theorem call_cutShort {nested other : Node → Run Flow}
    (runs : ∀ node, (nested node).CutShort sink wider (other node)) (parameters : List Name)
    (body : Node) (arguments : List Value) :
    (call nested ⟨calls, sink⟩ parameters body arguments).CutShort sink wider
      (call other ⟨calls, wider⟩ parameters body arguments) := by
  have prints := call_prints (fun node => (runs node).prints) ⟨calls, wider⟩ parameters body
    arguments
  refine ⟨fun machine => ?_, prints⟩
  have bodies := (runs body).cut (enterCall parameters arguments machine)
  unfold call
  split
  · exact .same _
  · split
    · exact .same _
    · generalize nested body (enterCall parameters arguments machine) = outcome at bodies
      generalize other body (enterCall parameters arguments machine) = outcome' at bodies
      cases bodies with
      | same => exact .same _
      | refused full takes more =>
          refine .refused full takes fun later ended => ?_
          cases outcome' with
          | done flow inner | failed error inner =>
              obtain rfl := Option.some.inj ended
              exact more inner rfl
          | unfinished => cases ended

/-- With a wider sink an evaluation goes on where it was cut short, by induction on the rounds. -/
theorem evaluate_cut (calls rounds : Nat) (tree : Node) :
    (evaluate ⟨calls, sink⟩ rounds tree).CutShort sink wider
      (evaluate ⟨calls, wider⟩ rounds tree) := by
  induction rounds generalizing tree with
  | zero => exact .self .unfinished
  | succ rounds ih =>
      refine (compositional_cutShort wide calls).step_of_unfinished _ _ (call_cutShort ih)
        (.self .unfinished) (fun child _ => ih child) fun target inner value _ => ?_
      exact .self (.assign target.text (fun machine _ => .refl machine) value)

end

/-- A run that has been refused a write does not ask its sink for anything after that: with every
sink that refuses the same writes up to there it fails alike. -/
theorem evaluate_refused {machine after : Machine} {other : Sink}
    (failed : evaluate ⟨calls, sink⟩ rounds tree machine = .failed .sinkFull after)
    (alike : ∀ text rest, text ++ rest = after.printed → other text = sink text) :
    evaluate ⟨calls, other⟩ rounds tree machine = .failed .sinkFull after := by
  -- Both sinks are compared with the one that refuses what both refuse.
  have first := (@evaluate_cut sink (fun text => sink text && other text)
    (fun text both => (Bool.and_eq_true_iff.mp both).1) calls rounds tree).cut machine
  have second := (@evaluate_cut other (fun text => sink text && other text)
    (fun text both => (Bool.and_eq_true_iff.mp both).2) calls rounds tree).cut machine
  have there := alike after.printed "" String.append_empty
  rw [failed] at first
  generalize evaluate ⟨calls, fun text => sink text && other text⟩ rounds tree machine = outcome
    at first second
  cases first with
  | refused full takes more =>
      rw [there, full] at takes
      cases takes
  | same =>
      generalize evaluate ⟨calls, other⟩ rounds tree machine = outcome' at second
      cases second with
      | same => rfl
      | @refused earlier _ full takes more =>
          obtain ⟨rest, -, printed⟩ := more after rfl
          have here := alike earlier.printed rest printed.symm
          rw [← here, full] at takes
          cases takes

/-- **A sink that fills up only cuts the run short.**  If an evaluation ends with a sink that takes
everything, then with one that takes no more once it holds so many lines it ends alike, or it fails
as the sink is full.  What has been printed then is a proper beginning of what is printed otherwise,
and has that many lines; the sink is not asked for anything after the failure; and the scopes and
the count of active calls are as they were. -/
theorem evaluate_ofLines {environment : Environment} {later : Machine} (lines : Nat)
    (rooted : 0 < environment.depth)
    (ended : (evaluate ⟨calls, .endless⟩ rounds tree (.start environment)).machine? = some later) :
    evaluate ⟨calls, .ofLines lines⟩ rounds tree (.start environment)
        = evaluate ⟨calls, .endless⟩ rounds tree (.start environment)
      ∨ ∃ after, evaluate ⟨calls, .ofLines lines⟩ rounds tree (.start environment)
          = .failed .sinkFull after
        ∧ lines ≤ after.printed.toList.count '\n'
        ∧ (∃ rest, rest ≠ "" ∧ later.printed = after.printed ++ rest)
        ∧ (∀ sink : Sink,
          (∀ text rest, text ++ rest = after.printed → sink text = Sink.ofLines lines text) →
          evaluate ⟨calls, sink⟩ rounds tree (.start environment) = .failed .sinkFull after)
        ∧ (Machine.start environment).Kept after := by
  have cut := (@evaluate_cut (.ofLines lines) .endless nofun calls rounds tree).cut
    (.start environment)
  generalize tight : evaluate ⟨calls, .ofLines lines⟩ rounds tree (.start environment) = outcome
    at cut
  generalize evaluate ⟨calls, .endless⟩ rounds tree (.start environment) = outcome' at cut ended
  cases cut with
  | same => exact .inl rfl
  | @refused after _ full _ more =>
      refine .inr ⟨after, rfl, of_decide_eq_true full, more later ended, ?_, ?_⟩
      · exact fun sink alike => evaluate_refused tight alike
      · exact evaluate_keeps _ _ _ _ after (congrArg Outcome.machine? tight) rooted

namespace Sample

/-- A function that prints two lines at once, and then a list. -/
def chatter : Value := .function [] (.block [.print (some (.string "one\ntwo")),
  .print (some (.list [.integer 1, .null]))])

def talk : Node := .program [.print (some (.call (.identifier (.ofText "f")) []))]

def talker : Environment := .ofBindings [("f", chatter)]

end Sample

/-- A sink for one line is full in the middle of a display, inside a call. -/
theorem evaluate_ofLines_display : ∃ later after,
    evaluate ⟨9, .endless⟩ 9 Sample.talk (.start Sample.talker) = .done (.value .null) later
      ∧ later.printed = "one\ntwo\n[1, null]\nnull\n"
      ∧ evaluate ⟨9, .ofLines 1⟩ 9 Sample.talk (.start Sample.talker) = .failed .sinkFull after
      ∧ after.printed = "one\ntwo" ∧ after.depth = 0 ∧ after.environment.depth = 1 := by
  have ended : evaluate ⟨9, .endless⟩ 9 Sample.talk (.start Sample.talker)
      = .done (.value .null) _ := rfl
  have failed : evaluate ⟨9, .ofLines 1⟩ 9 Sample.talk (.start Sample.talker)
      = .failed .sinkFull _ := rfl
  have rooted : 0 < Sample.talker.depth := Nat.one_pos
  have cut := evaluate_ofLines 1 rooted (congrArg Outcome.machine? ended)
  rw [ended, failed] at cut
  rcases cut with same | ⟨after, same, -, -, -, kept⟩
  · cases same
  · cases same
    exact ⟨_, _, rfl, by decide +kernel, rfl, by decide +kernel, kept.depth, kept.environment.depth⟩

end Evaluation

end Scriptlet
