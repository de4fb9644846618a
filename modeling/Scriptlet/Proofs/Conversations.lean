/-
# Proofs.Conversations -- the lines of an interactive session

Up to the line that ends a session, its lines are commands to the debugger and programs.  The
programs are run in order on one environment: each of them takes its `Turn` in the environment that
the one before has left (`Turns`), whatever stands between them and whether or not bindings are
listed.  What the session writes can be told from its lines and these turns (`Dialogue.written`).

So commands do not interfere with programs, and neither do lines that are no programs: without them
the other lines take the same turns (`Turns.thinned`).  Nor does it matter what the reader writes to
ask for a line, or whether the session is left by a line, by an interrupt, at the end of the input
or because no line can be read.

The environment never has more than its root scope (`Environment.IsRoot`), so what is listed are
all bindings, each once and in the order of the bytes of their names (`Environment.IsRoot.lists`).
-/
import Scriptlet.Console.Call
import Scriptlet.Proofs.Assignments
import Scriptlet.Proofs.KeyOrder
import Scriptlet.Proofs.Scripts

namespace Scriptlet

set_option autoImplicit false

/-! ## The root scope -/

namespace Environment

variable {environment : Environment} {bindings : List (String × Value)}

/-- The environment has only a root scope. -/
def IsRoot (environment : Environment) : Prop := ∃ bindings, environment = .ofBindings bindings

theorem assignAll_ofBindings (bindings others : List (String × Value)) :
    (ofBindings bindings).assignAll others = ofBindings (bindings ++ others) := by
  induction others generalizing bindings with
  | nil => rw [List.append_nil]; rfl
  | cons binding others ih =>
      have one : (ofBindings bindings).assign binding.1 binding.2
          = ofBindings (bindings ++ [binding]) := by
        simp [assign, ofBindings, Dictionary.ofList]
      rw [assignAll, List.foldl_cons, one, ← assignAll, ih, List.append_assoc,
        List.singleton_append]

theorem IsRoot.rooted (root : environment.IsRoot) : 0 < environment.depth := by
  obtain ⟨bindings, rfl⟩ := root
  exact Nat.one_pos

theorem IsRoot.assigned {among : String → Prop} {after : Environment} (root : environment.IsRoot)
    (assigned : environment.Assigned among after) : after.IsRoot := by
  obtain ⟨bindings, rfl⟩ := root
  obtain ⟨others, -, rfl⟩ := assigned
  exact ⟨_, assignAll_ofBindings bindings others⟩

theorem lookup?_ofBindings (name : String) :
    (ofBindings bindings).lookup? name = Dictionary.find? name (Dictionary.ofList bindings) := by
  simp only [lookup?, ofBindings, List.size_toArray, List.length_singleton, resolve?,
    List.getElem?_toArray, List.getElem?_cons_zero]
  cases Dictionary.find? name (Dictionary.ofList bindings) <;> rfl

end Environment

namespace Console

open Environment (IsRoot)

/-- The line on which a binding is listed. -/
def listing (entry : String × Value) : String := "  " ++ entry.1 ++ " = " ++ entry.2.display ++ "\n"

/-- The text lists all bindings of the environment, each once and in the order of the bytes of
their names. -/
def Lists (environment : Environment) (text : String) : Prop :=
  ∃ entries : List (String × Value), text = String.join (entries.map listing)
    ∧ (entries.map fun entry => Text.bytes entry.1).Pairwise (· < ·)
    ∧ ∀ name value, (name, value) ∈ entries ↔ environment.lookup? name = some value

theorem lists_bindings {environment : Environment} (root : environment.IsRoot) :
    Lists environment (Dialogue.bindings environment) := by
  obtain ⟨bindings, rfl⟩ := root
  have sorted := Dictionary.isSorted_ofList bindings
  refine ⟨Dictionary.ofList bindings, rfl, ?_, fun name value => ?_⟩
  · refine List.pairwise_map.mpr ((List.pairwise_map.mp sorted).imp ?_)
    exact fun less => Text.lt_iff_bytes_lt.mp less
  · rw [Environment.lookup?_ofBindings, sorted.mem_iff]

end Console

namespace Session

variable {text : String} {environment : Environment} {limits : Limits} {transcript : Transcript}

/-- A text leaves nothing but a root scope behind where there was nothing else. -/
theorem Runs.isRoot (root : environment.IsRoot) (runs : Runs limits text environment transcript) :
    transcript.environment.IsRoot := by
  obtain ⟨rounds, ran⟩ := runs
  rcases run_cases ran with ⟨error, rfl⟩ | ⟨tree, -, ended⟩
  · exact root
  · have assigns := @Evaluation.evaluate_assigns limits rounds tree (fun _ => True)
      (fun _ _ => trivial) (.start environment)
    rcases ended with ⟨flow, after, outcome, rfl⟩ | ⟨error, after, outcome, rfl⟩
    · exact root.assigned (assigns after (congrArg Outcome.machine? outcome) root.rooted)
    · exact root.assigned (assigns after (congrArg Outcome.machine? outcome) root.rooted)

end Session

namespace Console

/-! ## Lines -/

/-- The line ends the session. -/
def Ends (line : String) : Prop := Text.trim line = "exit" ∨ Text.trim line = "quit"

/-- The line turns the listing of bindings on or off. -/
def Toggles (line : String) : Prop := Text.trim line = "debug"

instance : DecidablePred Ends := fun _ => inferInstanceAs (Decidable (_ ∨ _))

instance : DecidablePred Toggles := fun _ => inferInstanceAs (Decidable (_ = _))

/-- The lines that are run: those before the end, without commands. -/
def programs (lines : List String) : List String :=
  (lines.takeWhile fun line => ¬ Ends line).filter fun line => ¬ Toggles line

/-- The line is no program. -/
def Unread (line : String) : Prop := ∃ error, Session.read line = .error error

/-- The line does nothing to the environment: it is a command to the debugger, or is run but is no
program. -/
def IsIdle (line : String) : Prop := Toggles line ∨ ¬ Ends line ∧ Unread line

/-- Some idle elements of the first list are left out in the second. -/
inductive Thinned {α : Type} (idle : α → Prop) : List α → List α → Prop where
  | nil : Thinned idle [] []
  | keep {all rest : List α} (element : α) : Thinned idle all rest →
      Thinned idle (element :: all) (element :: rest)
  | drop {all rest : List α} {element : α} : idle element → Thinned idle all rest →
      Thinned idle (element :: all) rest

/-- What has come of a line that was run. -/
structure Turn where
  line : String
  transcript : Transcript

namespace Turn

/-- The report of the failure if there was one. -/
def errorReport (turn : Turn) : String :=
  match turn.transcript.ending with
  | .finished _ => ""
  | .refused error =>
      let location := Location.ofOffset turn.line error.position
      "Error at line " ++ toString location.line ++ ", column " ++ toString location.column
        ++ ": syntax error: " ++ error.message ++ "\n"
  | .failed error => "Error: runtime error: " ++ error.message ++ "\n"

theorem errorReport_eq (turn : Turn) : turn.errorReport
    = match turn.transcript.ending.complaint? with
      | some complaint =>
          Dialogue.lineFailure (turn.transcript.ending.location? turn.line) complaint
      | none => "" := by
  obtain ⟨line, ending, printed, after⟩ := turn
  have line_number : "Error at line " = "Error at " ++ "line " := rfl
  have refusal : ": syntax error: " = ": " ++ "syntax error: " := rfl
  have failure : "Error: runtime error: " = "Error: " ++ "runtime error: " := rfl
  cases ending with
  | finished flow => rfl
  | refused error =>
      simp only [errorReport, Ending.complaint?, Ending.location?, Dialogue.lineFailure,
        Location.describe, line_number, refusal, String.append_assoc]
      rfl
  | failed error =>
      simp only [errorReport, Ending.complaint?, Ending.location?, Dialogue.lineFailure, failure,
        String.append_assoc]

/-- The line was no program. -/
def IsRefused (turn : Turn) : Prop := ∃ error, turn.transcript.ending = .refused error

end Turn

/-- Lines are run one after the other, each in the environment that the one before has left. -/
inductive Turns : Environment → List String → List Turn → Prop where
  | nil (environment : Environment) : Turns environment [] []
  | cons {environment : Environment} {line : String} {lines : List String}
      {transcript : Transcript} {turns : List Turn} :
      Session.Runs .default line environment transcript →
      Turns transcript.environment lines turns →
      Turns environment (line :: lines) (⟨line, transcript⟩ :: turns)

/-- The environment that some turns leave. -/
def leftBy (environment : Environment) (turns : List Turn) : Environment :=
  turns.foldl (fun _ turn => turn.transcript.environment) environment

/-- Each of the lines comes to an end when its turn has come, be it a failure. -/
def TurnsEnd (environment : Environment) (lines : List String) : Prop :=
  ∀ done line later turns, lines = done ++ line :: later → Turns environment done turns →
    ∃ transcript, Session.Runs .default line (leftBy environment turns) transcript

/-- All that is written, line by line, given what comes of the lines that are run. -/
def Dialogue.written (asked : String) (closing : Closing) :
    Dialogue → List String → List Turn → String
  | _, [], _ => asked ++ closing.farewell
  | state, line :: lines, turns =>
      if Ends line then asked
      else if Toggles line then
        asked ++ (if state.listing then "debugger is off.\n"
          else "debugger is on.\n" ++ bindings state.environment)
        ++ written asked closing { state with listing := !state.listing } lines turns
      else
        match turns with
        | [] => asked
        | turn :: turns =>
            asked ++ turn.transcript.printed ++ turn.errorReport
            ++ (if state.listing then bindings turn.transcript.environment else "")
            ++ written asked closing { state with environment := turn.transcript.environment }
              lines turns

/-- All that a call writes without names of files, given what comes of the lines that are run. -/
def Reader.written (reader : Reader) (listing : Bool) (turns : List Turn) : String :=
  Dialogue.written (reader.asks Dialogue.prompt) reader.closing ⟨.new, listing⟩ reader.lines turns

variable {asked : String} {closing : Closing} {line : String} {lines lines' : List String}
  {environment : Environment} {turns turns' : List Turn} {state : Dialogue} {rounds : Nat}
  {output text : String}

theorem programs_of_ends (ends : Ends line) : programs (line :: lines) = [] := by
  rw [programs, List.takeWhile_cons_of_neg (by simpa using ends)]
  rfl

theorem programs_of_toggles (going : ¬ Ends line) (toggles : Toggles line) :
    programs (line :: lines) = programs lines := by
  rw [programs, List.takeWhile_cons_of_pos (by simpa using going),
    List.filter_cons_of_neg (by simpa using toggles), programs]

theorem programs_of_program (going : ¬ Ends line) (plain : ¬ Toggles line) :
    programs (line :: lines) = line :: programs lines := by
  rw [programs, List.takeWhile_cons_of_pos (by simpa using going),
    List.filter_cons_of_pos (by simpa using plain), programs]

/-- Without some idle lines, the lines to run are the others, and what is left out is refused. -/
theorem programs_thinned (thinned : Thinned IsIdle lines lines') :
    Thinned Unread (programs lines) (programs lines') := by
  induction thinned with
  | nil => exact .nil
  | keep line _ ih =>
      by_cases ends : Ends line
      · rw [programs_of_ends ends, programs_of_ends ends]
        exact .nil
      · by_cases toggles : Toggles line
        · rwa [programs_of_toggles ends toggles, programs_of_toggles ends toggles]
        · rw [programs_of_program ends toggles, programs_of_program ends toggles]
          exact .keep line ih
  | @drop all rest line idle _ ih =>
      by_cases toggles : Toggles line
      · have going : ¬ Ends line := by
          rw [Toggles] at toggles
          rw [Ends, toggles]
          decide
        rwa [programs_of_toggles going toggles]
      · obtain ⟨going, refused⟩ := idle.resolve_left toggles
        rw [programs_of_program going toggles]
        exact .drop refused ih

/-! ## Turns -/

namespace Turns

theorem isRoot (root : environment.IsRoot) (taken : Turns environment lines turns) :
    ∀ turn ∈ turns, turn.transcript.environment.IsRoot := by
  induction taken with
  | nil => exact List.forall_mem_nil _
  | cons runs _ ih =>
      have next := runs.isRoot root
      exact List.forall_mem_cons.mpr ⟨next, ih next⟩

theorem unique (root : environment.IsRoot) (taken : Turns environment lines turns)
    (also : Turns environment lines turns') : turns = turns' := by
  induction taken generalizing turns' with
  | nil => cases also with | nil => rfl
  | cons runs _ ih =>
      cases also with
      | cons runs' rest =>
          obtain rfl := runs.unique root.rooted runs'
          rw [ih (runs.isRoot root) rest]

/-- Lines that all come to an end take their turns. -/
theorem exists_of_turnsEnd (ends : TurnsEnd environment lines) :
    ∃ turns, Turns environment lines turns := by
  induction lines generalizing environment with
  | nil => exact ⟨[], .nil _⟩
  | cons line lines ih =>
      obtain ⟨transcript, runs⟩ := ends [] line lines [] rfl (.nil _)
      have others : TurnsEnd transcript.environment lines := by
        intro done other later turns same taken
        exact ends (line :: done) other later (⟨line, transcript⟩ :: turns)
          (congrArg (line :: ·) same) (.cons runs taken)
      obtain ⟨turns, rest⟩ := ih others
      exact ⟨_, .cons runs rest⟩

/-- Lines that are no programs can be left out: the others take the same turns. -/
theorem thinned (less : Thinned Unread lines lines')
    (taken : Turns environment lines turns) :
    ∃ turns', Turns environment lines' turns' ∧ Thinned Turn.IsRefused turns turns' := by
  induction less generalizing environment turns with
  | nil =>
      cases taken with
      | nil => exact ⟨[], .nil _, .nil⟩
  | keep line _ ih =>
      cases taken with
      | cons runs rest =>
          obtain ⟨turns', others, same⟩ := ih rest
          exact ⟨_, .cons runs others, .keep _ same⟩
  | drop refused _ ih =>
      cases taken with
      | cons runs rest =>
          obtain ⟨error, reads⟩ := refused
          obtain ⟨rounds, ran⟩ := runs
          rw [Session.run_of_error reads] at ran
          obtain rfl := Option.some.inj ran
          obtain ⟨turns', others, same⟩ := ih rest
          exact ⟨turns', others, .drop ⟨error, rfl⟩ same⟩

end Turns

/-! ## What is written -/

namespace Dialogue

theorem written_of_ends (ends : Ends line) :
    written asked closing state (line :: lines) turns = asked := by
  rw [written.eq_def]
  exact if_pos ends

theorem written_of_toggles (going : ¬ Ends line) (toggles : Toggles line) :
    written asked closing state (line :: lines) turns
      = asked ++ (if state.listing then "debugger is off.\n"
          else "debugger is on.\n" ++ bindings state.environment)
        ++ written asked closing { state with listing := !state.listing } lines turns := by
  rw [written.eq_def]
  exact (if_neg going).trans (if_pos toggles)

theorem written_of_program {turn : Turn} (going : ¬ Ends line) (plain : ¬ Toggles line) :
    written asked closing state (line :: lines) (turn :: turns)
      = asked ++ turn.transcript.printed ++ turn.errorReport
        ++ (if state.listing then bindings turn.transcript.environment else "")
        ++ written asked closing { state with environment := turn.transcript.environment }
          lines turns := by
  rw [written.eq_def]
  exact (if_neg going).trans (if_neg plain)

theorem respond_of_ends (ends : Ends line) : respond rounds state line = some ("", none) :=
  if_pos ends

theorem respond_of_toggles (going : ¬ Ends line) (toggles : Toggles line) :
    respond rounds state line
      = some (if state.listing then "debugger is off.\n"
          else "debugger is on.\n" ++ bindings state.environment,
        some { state with listing := !state.listing }) := by
  refine (if_neg going).trans ((if_pos toggles).trans ?_)
  cases state.listing <;> rfl

theorem respond_of_program (going : ¬ Ends line) (plain : ¬ Toggles line) :
    respond rounds state line
      = (Session.run rounds .default line state.environment).map fun transcript =>
        (transcript.printed ++ Turn.errorReport ⟨line, transcript⟩
          ++ (if state.listing then bindings transcript.environment else ""),
        some { state with environment := transcript.environment }) := by
  refine (if_neg going).trans ((if_neg plain).trans ?_)
  unfold runLine
  simp only [Turn.errorReport_eq]
  cases Session.run rounds .default line state.environment <;> rfl

/-- Whatever is written has come of turns. -/
theorem turns_of_transcript
    (ran : transcript rounds asked closing output state lines = some text) :
    ∃ turns, Turns state.environment (programs lines) turns
      ∧ text = output ++ written asked closing state lines turns := by
  induction lines generalizing state output with
  | nil =>
      obtain rfl := Option.some.inj ran
      exact ⟨[], .nil _, String.append_assoc⟩
  | cons line lines ih =>
      unfold transcript at ran
      by_cases ends : Ends line
      · rw [respond_of_ends ends] at ran
        obtain rfl := Option.some.inj ran
        rw [programs_of_ends ends]
        refine ⟨[], .nil _, ?_⟩
        rw [written_of_ends ends, String.append_empty]
      · by_cases toggles : Toggles line
        · rw [respond_of_toggles ends toggles] at ran
          obtain ⟨turns, taken, rfl⟩ := ih ran
          rw [programs_of_toggles ends toggles]
          refine ⟨turns, taken, ?_⟩
          rw [written_of_toggles ends toggles]
          simp only [String.append_assoc]
        · rw [respond_of_program ends toggles] at ran
          cases ended : Session.run rounds .default line state.environment with
          | none =>
              rw [ended] at ran
              cases ran
          | some transcript =>
              rw [ended] at ran
              obtain ⟨turns, taken, rfl⟩ := ih ran
              rw [programs_of_program ends toggles]
              refine ⟨_, .cons ⟨rounds, ended⟩ taken, ?_⟩
              rw [written_of_program ends toggles]
              simp only [String.append_assoc]

/-- The turns are taken and all is written. -/
theorem enough (root : state.environment.IsRoot)
    (taken : Turns state.environment (programs lines) turns) :
    Enough fun rounds => ∀ output,
      transcript rounds asked closing output state lines
        = some (output ++ written asked closing state lines turns) := by
  induction lines generalizing state turns with
  | nil => exact .of_all fun rounds output => congrArg some String.append_assoc
  | cons line lines ih =>
      by_cases ends : Ends line
      · refine .of_all fun rounds output => ?_
        unfold transcript
        rw [respond_of_ends ends, written_of_ends ends]
        exact congrArg some String.append_empty
      · by_cases toggles : Toggles line
        · rw [programs_of_toggles ends toggles] at taken
          have rest := @ih turns { state with listing := !state.listing } root taken
          refine rest.imp fun rounds all output => ?_
          unfold transcript
          rw [respond_of_toggles ends toggles, written_of_toggles ends toggles]
          exact (all _).trans (by simp only [String.append_assoc])
        · rw [programs_of_program ends toggles] at taken
          cases taken with
          | @cons _ _ _ ran turns runs others =>
              have rest := @ih turns { state with environment := ran.environment }
                (runs.isRoot root) others
              refine (runs.enough root.rooted).both rest fun rounds ended all output => ?_
              unfold transcript
              rw [respond_of_program ends toggles, ended, written_of_program ends toggles]
              exact (all _).trans (by simp only [String.append_assoc])

end Dialogue

/-! ## The command line -/

theorem isRoot_new : Environment.new.IsRoot := ⟨[], rfl⟩

theorem exists_call_iff_turns {render : Failure → String} {arguments : Arguments}
    {files : String → Source} {report : Report} (reader : Reader) (unnamed : arguments.names = []) :
    (∃ rounds, call render rounds arguments files reader = some report)
      ↔ ∃ turns, Turns .new (programs reader.lines) turns
        ∧ report = ⟨0, reader.written arguments.listing turns, ""⟩ := by
  simp only [call, unnamed]
  constructor
  · rintro ⟨rounds, ran⟩
    obtain ⟨text, wrote, same⟩ := Option.bind_eq_some_iff.mp ran
    obtain ⟨turns, taken, rfl⟩ := Dialogue.turns_of_transcript wrote
    rw [String.empty_append] at same
    exact ⟨turns, taken, (Option.some.inj same).symm⟩
  · rintro ⟨turns, taken, rfl⟩
    have root : (⟨.new, arguments.listing⟩ : Dialogue).environment.IsRoot := isRoot_new
    obtain ⟨rounds, wrote⟩ := (Dialogue.enough root taken).some
    refine ⟨rounds, ?_⟩
    rw [Dialogue.converse, wrote, String.empty_append]
    rfl

/-- **Commands and lines that are no programs do not interfere with an interactive session.**  Its
lines are run in order on one environment, up to the one that ends it, and it ends without a
failure whatever has become of them; what it writes is what is `written` of its turns.  If all the
lines come to an end there are turns, and only one list of them.  The turns do not depend on
whether bindings are listed at first, and with some idle lines left out they are the same: what a
line prints, how it ends and the environment that it leaves.  And whatever is listed are all
bindings there are, each once and in the order of the bytes of their names. -/
theorem run_lines (render : Failure → String) {arguments : Arguments} (files : String → Source)
    (reader : Reader) (unnamed : arguments.names = []) :
    (∀ report, (∃ rounds, call render rounds arguments files reader = some report)
      ↔ ∃ turns, Turns .new (programs reader.lines) turns
        ∧ report = ⟨0, reader.written arguments.listing turns, ""⟩)
    ∧ (TurnsEnd .new (programs reader.lines) →
      ∃! turns, Turns .new (programs reader.lines) turns)
    ∧ (∀ turns, Turns .new (programs reader.lines) turns →
      ∀ arguments' files' reader', arguments'.names = [] →
        Thinned IsIdle reader.lines reader'.lines →
        ∃ turns', Thinned Turn.IsRefused turns turns'
          ∧ Turns .new (programs reader'.lines) turns'
          ∧ ∃ rounds, call render rounds arguments' files' reader'
            = some ⟨0, reader'.written arguments'.listing turns', ""⟩)
    ∧ ∀ turns, Turns .new (programs reader.lines) turns →
      ∀ environment,
        environment = .new ∨ (∃ turn ∈ turns, environment = turn.transcript.environment) →
        Lists environment (Dialogue.bindings environment) := by
  refine ⟨fun report => exists_call_iff_turns reader unnamed, fun ends => ?_, ?_, ?_⟩
  · obtain ⟨turns, taken⟩ := Turns.exists_of_turnsEnd ends
    exact ⟨turns, taken, fun other also => also.unique isRoot_new taken⟩
  · intro turns taken arguments' files' reader' unnamed' less
    obtain ⟨turns', others, same⟩ := taken.thinned (programs_thinned less)
    exact ⟨turns', same, others,
      (exists_call_iff_turns reader' unnamed').mpr ⟨turns', others, rfl⟩⟩
  · intro turns taken environment among
    apply lists_bindings
    rcases among with rfl | ⟨turn, among, rfl⟩
    · exact isRoot_new
    · exact taken.isRoot isRoot_new turn among

/-- A session with a line that is no program and a command, and one without them that is left
by an interrupt. -/
theorem run_lines_refused : ∃ turns turns',
    Turns .new ["x = 1", ")", "print(x)"] turns ∧ Turns .new ["x = 1", "print(x)"] turns'
      ∧ Thinned Turn.IsRefused turns turns'
      ∧ turns.map (fun turn => turn.transcript.printed) = ["", "", "1\n"]
      ∧ ∃ rounds, call Failure.message rounds ⟨[], false⟩ (fun _ => .missing)
          ⟨id, ["x = 1", "print(x)"], .interrupted⟩
        = some ⟨0, ">> >> 1\n>> CTRL-C\n", ""⟩ := by
  have binds : Session.read "x = 1" = .ok (.program [.assign ⟨"x", some 0⟩ (.integer 1)]) :=
    Session.read_ok_iff.mpr ⟨_, by cbv, by rfl⟩
  have prints : Session.read "print(x)"
      = .ok (.program [.print (some (.identifier ⟨"x", some 6⟩))]) :=
    Session.read_ok_iff.mpr ⟨_, by cbv, by rfl⟩
  have refused : Session.read ")" = .error (.unexpected .expression (.lexeme ")") 0) :=
    @Session.read_of_tokenize _ [⟨.symbol .rightParen, ")", 0⟩, .endAt 1] (by rfl)
  obtain ⟨first, second, ran, ran', silent, loud, fine, fine'⟩ : ∃ first second,
      (Evaluation.evaluate .default 9 (.program [.assign ⟨"x", some 0⟩ (.integer 1)])
        (.start .new)).transcript? = some first
      ∧ (Evaluation.evaluate .default 9 (.program [.print (some (.identifier ⟨"x", some 6⟩))])
        (.start first.environment)).transcript? = some second
      ∧ first.printed = "" ∧ second.printed = "1\n"
      ∧ first.ending.complaint? = none ∧ second.ending.complaint? = none :=
    ⟨_, _, by cbv, by cbv, by rfl, by rfl, by rfl, by rfl⟩
  rw [← Session.run_of_read binds] at ran
  rw [← Session.run_of_read prints] at ran'
  have taken : Turns .new ["x = 1", ")", "print(x)"] [⟨"x = 1", first⟩,
      ⟨")", ⟨.refused (.unexpected .expression (.lexeme ")") 0), "", first.environment⟩⟩,
      ⟨"print(x)", second⟩] :=
    .cons ⟨9, ran⟩ (.cons ⟨0, Session.run_of_error refused 0⟩ (.cons ⟨9, ran'⟩ (.nil _)))
  have others : Turns .new ["x = 1", "print(x)"] [⟨"x = 1", first⟩, ⟨"print(x)", second⟩] :=
    .cons ⟨9, ran⟩ (.cons ⟨9, ran'⟩ (.nil _))
  have less : Thinned IsIdle ["x = 1", ")", "debug", "print(x)"] ["x = 1", "print(x)"] :=
    .keep _ (.drop (.inr ⟨by decide, _, refused⟩) (.drop (.inl (by decide)) (.keep _ .nil)))
  obtain ⟨-, -, alike, -⟩ := @run_lines Failure.message ⟨[], true⟩ (fun _ => .missing)
    ⟨id, ["x = 1", ")", "debug", "print(x)"], .ended⟩ rfl
  obtain ⟨turns', same, also, answered⟩ := alike _ taken ⟨[], false⟩ (fun _ => .missing)
    ⟨id, ["x = 1", "print(x)"], .interrupted⟩ rfl less
  obtain rfl := others.unique isRoot_new also
  refine ⟨_, _, taken, others, same, by simp [silent, loud], ?_⟩
  have written : Reader.written ⟨id, ["x = 1", "print(x)"], .interrupted⟩ false
      [⟨"x = 1", first⟩, ⟨"print(x)", second⟩] = ">> >> 1\n>> CTRL-C\n" := by
    unfold Reader.written
    rw [Dialogue.written_of_program (by decide) (by decide),
      Dialogue.written_of_program (by decide) (by decide)]
    simp only [Turn.errorReport_eq, fine, fine', silent, loud]
    rfl
  rwa [written] at answered

end Console

end Scriptlet
