/-
# Proofs.Scripts -- the files of a command line are one session

The named files are run in order on one environment, up to the first that cannot be read, is no
program or fails.  `AllRun` says that some files run one after the other without a failure, each in
the environment that the one before has left, and `FailsIn` how one file fails in an environment:
what it has printed until then, and what is reported of it.  A call with names of files is then
`Reported` as all of them running, or as the first failure among them (`run_files`).

The report has the name of the file that fails, and a location exactly if the file is no program
(`Blames`).  This is the place to blame in its own text (`Location.ofOffset_append`).  The files
after the first failure are not even looked at, and a file that returns ends without a failure, so
the next one is run.

How a failure is rendered is not known here.  All that is assumed is that its message can be read in
the rendering (`Shows`).
-/
import Scriptlet.Console
import Scriptlet.Proofs.Places
import Scriptlet.Proofs.Sequencing

namespace Scriptlet

set_option autoImplicit false

namespace Console

/-! ## Files one after the other -/

/-- A file runs without a failure in an environment, to its end or until it returns. -/
inductive Succeeds (environment : Environment) : Source → Transcript → Prop where
  | finished {content printed : String} {flow : Flow} {after : Environment} :
      Session.Runs .default content environment ⟨.finished flow, printed, after⟩ →
      Succeeds environment (.text content) ⟨.finished flow, printed, after⟩

/-- A file fails in an environment, after it has printed something; this is the failure. -/
inductive FailsIn (environment : Environment) (name : String) :
    Source → String → Failure → Prop where
  | unread {source : Source} {reason : String} : source.content = .error reason →
      FailsIn environment name source "" ⟨"failed to read " ++ name, some reason⟩
  | refused {before after : String} {location : Location} {error : SyntaxError} :
      Session.read (before ++ after) = .error error → error.position = before.utf8ByteSize →
      location = .behind before →
      FailsIn environment name (.text (before ++ after)) ""
        ⟨name ++ ", line " ++ toString location.line ++ ", column " ++ toString location.column
          ++ ": syntax error: " ++ error.message, none⟩
  | failed {content printed : String} {error : RuntimeError} {after : Environment} :
      Session.Runs .default content environment ⟨.failed error, printed, after⟩ →
      FailsIn environment name (.text content) printed
        ⟨name ++ ": runtime error: " ++ error.message, none⟩

/-- The named files run one after the other and none of them fails. -/
inductive AllRun (files : String → Source) :
    Environment → List String → List Transcript → Environment → Prop where
  | nil (environment : Environment) : AllRun files environment [] [] environment
  | cons {environment after : Environment} {name : String} {names : List String}
      {transcript : Transcript} {transcripts : List Transcript} :
      Succeeds environment (files name) transcript →
      AllRun files transcript.environment names transcripts after →
      AllRun files environment (name :: names) (transcript :: transcripts) after

/-- What some runs have printed. -/
def printedBy (transcripts : List Transcript) : String :=
  String.join (transcripts.map Transcript.printed)

/-- The named file is the first that fails, after others have run; that is what is reported. -/
inductive FailsAt (render : Failure → String) (files : String → Source) (environment : Environment)
    (done : List String) (name : String) : Report → Prop where
  | intro {transcripts : List Transcript} {here : Environment} {printed : String}
      {failure : Failure} :
      AllRun files environment done transcripts here →
      FailsIn here name (files name) printed failure →
      FailsAt render files environment done name
        ⟨1, printedBy transcripts ++ printed, render failure⟩

/-- The report of the named files: that they all run, or the first failure among them. -/
inductive Reported (render : Failure → String) (files : String → Source)
    (environment : Environment) (names : List String) : Report → Prop where
  | complete {transcripts : List Transcript} {after : Environment} :
      AllRun files environment names transcripts after →
      Reported render files environment names ⟨0, printedBy transcripts, ""⟩
  | stopped {done later : List String} {name : String} {report : Report} :
      names = done ++ name :: later → FailsAt render files environment done name report →
      Reported render files environment names report

/-- A file whose program returns among its opening statements. -/
inductive Returns (environment : Environment) : Source → Transcript → Prop where
  | intro {content : String} {opening closing : List Node} {rounds : Nat} {value : Value}
      {after : Machine} :
      Session.read content = .ok (.program (opening ++ closing)) →
      Evaluation.evaluate .default rounds (.program opening) (.start environment)
        = .done (.returned value) after →
      Returns environment (.text content)
        ⟨.finished (.returned value), after.printed, after.environment⟩

/-- Each of the named files that is run comes to an end, be it a failure. -/
def RunsEnd (files : String → Source) (environment : Environment) (names : List String) : Prop :=
  ∀ done name later transcripts here content, names = done ++ name :: later →
    AllRun files environment done transcripts here → files name = .text content →
    ∃ transcript, Session.Runs .default content here transcript

/-- A text can be read in another. -/
def Holds (text part : String) : Prop := ∃ position, Stands text part position

/-- The message of a failure can be read in its rendering. -/
def Shows (render : Failure → String) : Prop := ∀ failure, Holds (render failure) failure.message

/-- A message that begins with the name of a file and a location. -/
def Locates (name : String) (location : Location) (message : String) : Prop :=
  ∃ complaint, message = name ++ ", line " ++ toString location.line ++ ", column "
    ++ toString location.column ++ ": " ++ complaint

/-- The file is a text and no program. -/
def Source.IsRefused (source : Source) : Prop :=
  ∃ content error, source = .text content ∧ Session.read content = .error error

/-- A failure that names a file and has a location exactly if the file is no program: the one to
blame, in the text of the file. -/
structure Blames (name : String) (source : Source) (failure : Failure) : Prop where
  named : Holds failure.message name
  located : source.IsRefused → ∃ before after error, source = .text (before ++ after)
    ∧ Session.read (before ++ after) = .error error ∧ error.position = before.utf8ByteSize
    ∧ Locates name (.behind before) failure.message
  refused : ∀ location, Locates name location failure.message → source.IsRefused

/-- The report with something printed before all that it says is printed. -/
def Report.behind (output : String) (report : Report) : Report :=
  { report with output := output ++ report.output }

@[simp] theorem Report.behind_empty (report : Report) : report.behind "" = report := by
  simp [behind]

theorem Report.behind_append (first second : String) (report : Report) :
    report.behind (first ++ second) = (report.behind second).behind first := by
  simp [behind, String.append_assoc]

@[simp] theorem printedBy_nil : printedBy [] = "" := rfl

@[simp] theorem printedBy_cons (transcript : Transcript) (transcripts : List Transcript) :
    printedBy (transcript :: transcripts) = transcript.printed ++ printedBy transcripts := by
  simp [printedBy]

theorem printedBy_append (first second : List Transcript) :
    printedBy (first ++ second) = printedBy first ++ printedBy second := by
  simp [printedBy]

variable {render : Failure → String} {files files' : String → Source}
  {environment here after : Environment} {name : String} {names done later : List String}
  {transcript : Transcript} {transcripts : List Transcript} {rounds : Nat}
  {output content : String} {report : Report}

/-! ## One file -/

theorem Source.eq_text {source : Source} (reads : source.content = .ok content) :
    source = .text content := by
  cases source with
  | text held => rw [← Except.ok.inj reads]
  | _ => cases reads

/-- A file is read as the text of which it holds the UTF-8 form, and not if it holds none. -/
theorem Source.content_ofBytes?_eq_ok_iff {bytes? : Option ByteArray} :
    (ofBytes? bytes?).content = .ok content ↔ bytes? = some content.toUTF8 := by
  cases bytes? with
  | none => simp [ofBytes?, Source.content]
  | some bytes =>
      rw [ofBytes?, String.fromUTF8?, Option.some.injEq]
      by_cases valid : bytes.IsValidUTF8
      · rw [dif_pos valid]
        simp only [Source.content, Except.ok.injEq]
        refine ⟨fun same => same ▸ rfl, fun same => ?_⟩
        subst same
        rfl
      · rw [dif_neg valid]
        refine iff_of_false nofun fun same => valid ?_
        rw [same]
        exact content.isValidUTF8

theorem Succeeds.rooted {source : Source} (rooted : 0 < environment.depth)
    (succeeds : Succeeds environment source transcript) : 0 < transcript.environment.depth := by
  cases succeeds with
  | finished runs =>
      obtain ⟨rounds, ran⟩ := runs
      rwa [Session.depth_of_run rooted ran]

/-- A file that returns is run until then, and this is no failure. -/
theorem Returns.succeeds {source : Source} (returns : Returns environment source transcript) :
    Succeeds environment source transcript := by
  cases returns with
  | @intro content opening closing rounds value after reads ended =>
      refine .finished ⟨rounds, ?_⟩
      rw [Session.run_of_read reads, Evaluation.evaluate_append_of_stops, ended]
      · rfl
      · intro other same
        rw [ended] at same
        rw [← Option.some.inj same]
        rfl

theorem scriptFailure_refused (name : String) (location : Location) (error : SyntaxError) :
    scriptFailure name (some location) ("syntax error: " ++ error.message)
      = ⟨name ++ ", line " ++ toString location.line ++ ", column " ++ toString location.column
        ++ ": syntax error: " ++ error.message, none⟩ := by
  have comma : ", line " = ", " ++ "line " := rfl
  have colon : ": syntax error: " = ": " ++ "syntax error: " := rfl
  simp only [scriptFailure, Location.describe, comma, colon, String.append_assoc]
  rfl

theorem scriptFailure_failed (name : String) (error : RuntimeError) :
    scriptFailure name none ("runtime error: " ++ error.message)
      = ⟨name ++ ": runtime error: " ++ error.message, none⟩ := by
  have colon : ": runtime error: " = ": " ++ "runtime error: " := rfl
  simp only [scriptFailure, colon, String.append_assoc]

/-- What a text that has run was, as a file. -/
theorem succeeds_or_failsIn (name : String)
    (ran : Session.run rounds .default content environment = some transcript) :
    (transcript.ending.complaint? = none ∧ Succeeds environment (.text content) transcript)
    ∨ ∃ complaint, transcript.ending.complaint? = some complaint
      ∧ FailsIn environment name (.text content) transcript.printed
        (scriptFailure name (transcript.ending.location? content) complaint) := by
  obtain ⟨ending, printed, after⟩ := transcript
  cases ending with
  | finished flow => exact .inl ⟨rfl, .finished ⟨rounds, ran⟩⟩
  | failed error =>
      refine .inr ⟨_, rfl, ?_⟩
      show FailsIn environment name (.text content) printed (scriptFailure name none _)
      rw [scriptFailure_failed]
      exact .failed ⟨rounds, ran⟩
  | refused error =>
      have reads := Session.read_of_refused ran rfl
      rw [Session.run_of_error reads] at ran
      cases ran
      obtain ⟨before, rest, rfl, place, here⟩ := Session.location_of_error reads
      refine .inr ⟨_, rfl, ?_⟩
      rw [Ending.location?, here, scriptFailure_refused]
      exact .refused reads place rfl

/-- A file that succeeds hands on to the others. -/
theorem Succeeds.enough (render : Failure → String) (rooted : 0 < environment.depth)
    (succeeds : Succeeds environment (files name) transcript) :
    Enough fun rounds => ∀ output later,
      runScripts render rounds files output environment (name :: later)
        = runScripts render rounds files (output ++ transcript.printed) transcript.environment
          later := by
  generalize found : files name = source at succeeds
  cases succeeds with
  | finished runs =>
      refine (runs.enough rooted).imp fun rounds ran output later => ?_
      simp only [runScripts, found, Source.content, ran]
      rfl

/-- A file that fails is reported. -/
theorem FailsIn.enough (render : Failure → String) {printed : String} {failure : Failure}
    (rooted : 0 < environment.depth)
    (fails : FailsIn environment name (files name) printed failure) :
    Enough fun rounds => ∀ output later,
      runScripts render rounds files output environment (name :: later)
        = some ⟨1, output ++ printed, render failure⟩ := by
  generalize found : files name = source at fails
  cases fails with
  | unread reason =>
      refine .of_all fun rounds output later => ?_
      simp only [runScripts, found, reason, unreadable, String.append_empty]
  | refused reads place here =>
      refine .of_all fun rounds output later => ?_
      simp only [runScripts, found, Source.content, Session.run_of_error reads,
        Option.bind_eq_bind, Option.bind_some, Ending.complaint?, Ending.location?, place,
        Location.ofOffset_append, scriptFailure_refused, here]
  | failed runs =>
      refine (runs.enough rooted).imp fun rounds ran output later => ?_
      simp only [runScripts, found, Source.content, ran, Option.bind_eq_bind, Option.bind_some,
        Ending.complaint?, Ending.location?, scriptFailure_failed]

/-! ## What is reported -/

theorem Holds.at_front (part after : String) : Holds (part ++ after) part :=
  ⟨0, "", after, by simp, rfl⟩

theorem Holds.at_back (before part : String) : Holds (before ++ part) part :=
  ⟨before.utf8ByteSize, before, "", by simp, rfl⟩

theorem Holds.trans {text middle part : String} (outer : Holds text middle)
    (inner : Holds middle part) : Holds text part := by
  obtain ⟨_, before, after, rfl, -⟩ := outer
  obtain ⟨_, before', after', rfl, -⟩ := inner
  exact ⟨_, before ++ before', after' ++ after, by simp only [String.append_assoc], rfl⟩

/-- A message with a location is longer than the name of the file by more than a few letters. -/
theorem Locates.length_lt {location : Location} {message : String}
    (locates : Locates name location message) : name.length + 16 < message.length := by
  obtain ⟨complaint, rfl⟩ := locates
  have line : ", line ".length = 7 := by decide
  have column : ", column ".length = 9 := by decide
  have colon : ": ".length = 2 := by decide
  simp only [String.length_append, line, column, colon]
  omega

/-- No location stands where the colon is behind the name. -/
theorem not_locates_colon (name rest : String) (location : Location) :
    ¬ Locates name location (name ++ ":" ++ rest) := by
  rintro ⟨complaint, same⟩
  simp only [String.append_assoc, String.append_right_inj] at same
  have heads := congrArg (fun text => text.toList.head?) same
  simp at heads

/-- Whatever becomes of a file that fails, the failure blames it. -/
theorem FailsIn.blames {source : Source} {printed : String} {failure : Failure}
    (fails : FailsIn environment name source printed failure) : Blames name source failure := by
  cases fails with
  | unread reads =>
      refine ⟨.at_back _ _, ?_, fun location locates => ?_⟩
      · rintro ⟨content, error, rfl, -⟩
        cases reads
      · have longer := locates.length_lt
        have short : "failed to read ".length = 15 := by decide
        rw [String.length_append, short] at longer
        omega
  | @refused before after location error reads place here =>
      have locates : Locates name location (name ++ ", line " ++ toString location.line
          ++ ", column " ++ toString location.column ++ ": syntax error: " ++ error.message) := by
        have colon : ": syntax error: " = ": " ++ "syntax error: " := rfl
        exact ⟨"syntax error: " ++ error.message, by simp only [colon, String.append_assoc]⟩
      refine ⟨?_, fun _ => ⟨before, after, error, rfl, reads, place, here ▸ locates⟩,
        fun _ _ => ⟨_, error, rfl, reads⟩⟩
      simp only [String.append_assoc]
      exact .at_front _ _
  | @failed content _ error _ runs =>
      refine ⟨?_, ?_, fun location locates => ?_⟩
      · rw [String.append_assoc]
        exact .at_front _ _
      · rintro ⟨content', error, same, reads⟩
        cases same
        obtain ⟨rounds, ran⟩ := runs
        rw [Session.run_of_error reads] at ran
        cases ran
      · have colon : ": runtime error: " = ":" ++ " runtime error: " := rfl
        rw [colon, ← String.append_assoc, String.append_assoc] at locates
        exact absurd locates (not_locates_colon _ _ _)

/-! ## All files -/

namespace AllRun

theorem rooted (rooted : 0 < environment.depth)
    (ran : AllRun files environment names transcripts after) : 0 < after.depth := by
  induction ran with
  | nil => exact rooted
  | cons first _ ih => exact ih (first.rooted rooted)

theorem append {middle : Environment} {further : List Transcript}
    (first : AllRun files environment done transcripts middle)
    (second : AllRun files middle later further after) :
    AllRun files environment (done ++ later) (transcripts ++ further) after := by
  induction first with
  | nil => exact second
  | cons succeeds _ ih => exact .cons succeeds (ih second)

/-- Only the files that have run matter. -/
theorem congr (ran : AllRun files environment names transcripts after)
    (same : ∀ name ∈ names, files' name = files name) :
    AllRun files' environment names transcripts after := by
  induction ran with
  | nil => exact .nil _
  | cons succeeds _ ih =>
      refine .cons ?_ (ih fun name among => same name (.tail _ among))
      rw [same _ (.head _)]
      exact succeeds

/-- Files that all run hand on to those after them. -/
theorem enough (render : Failure → String) (rooted : 0 < environment.depth)
    (ran : AllRun files environment done transcripts here) :
    Enough fun rounds => ∀ output later,
      runScripts render rounds files output environment (done ++ later)
        = runScripts render rounds files (output ++ printedBy transcripts) here later := by
  induction ran with
  | nil => exact .of_all fun rounds output later => by simp
  | cons succeeds _ ih =>
      refine (succeeds.enough render rooted).both (ih (succeeds.rooted rooted)) ?_
      intro rounds first rest output later
      rw [List.cons_append, first, rest, printedBy_cons, String.append_assoc]

end AllRun

namespace Reported

/-- Files that all run come before what is reported of the others. -/
theorem append (rest : Reported render files here later report)
    (ran : AllRun files environment done transcripts here) :
    Reported render files environment (done ++ later) (report.behind (printedBy transcripts)) := by
  cases rest with
  | complete others =>
      rw [Report.behind, ← printedBy_append]
      exact .complete (ran.append others)
  | stopped same fails =>
      subst same
      cases fails with
      | intro before failure =>
          refine .stopped (List.append_assoc _ _ _).symm ?_
          rw [Report.behind, ← String.append_assoc, ← printedBy_append]
          exact .intro (ran.append before) failure

theorem cons (rest : Reported render files transcript.environment names report)
    (succeeds : Succeeds environment (files name) transcript) :
    Reported render files environment (name :: names) (report.behind transcript.printed) := by
  have whole := rest.append (.cons succeeds (.nil _))
  rwa [printedBy_cons, printedBy_nil, String.append_empty] at whole

theorem first {printed : String} {failure : Failure}
    (fails : FailsIn environment name (files name) printed failure) :
    Reported render files environment (name :: names) ⟨1, printed, render failure⟩ := by
  have stop : FailsAt render files environment [] name ⟨1, "" ++ printed, render failure⟩ :=
    .intro (.nil _) fails
  rw [String.empty_append] at stop
  exact .stopped rfl stop

/-- Whatever the files do is reported. -/
theorem of_runScripts
    (ran : runScripts render rounds files output environment names = some report) :
    ∃ reported, Reported render files environment names reported
      ∧ report = reported.behind output := by
  induction names generalizing output environment with
  | nil =>
      obtain rfl := Option.some.inj ran
      exact ⟨_, .complete (.nil _), by simp [Report.behind]⟩
  | cons name names ih =>
      simp only [runScripts] at ran
      cases found : (files name).content with
      | error reason =>
          rw [found] at ran
          obtain rfl := Option.some.inj ran
          exact ⟨_, first (.unread found), by simp [Report.behind, unreadable]⟩
      | ok content =>
          simp only [found, Option.bind_eq_bind, Option.bind_eq_some_iff] at ran
          obtain ⟨transcript, ran, rest⟩ := ran
          have outcome := succeeds_or_failsIn name ran
          rw [← Source.eq_text found] at outcome
          rcases outcome with ⟨none, succeeds⟩ | ⟨complaint, some, fails⟩
          · rw [none] at rest
            obtain ⟨reported, others, rfl⟩ := ih rest
            exact ⟨_, others.cons succeeds, Report.behind_append _ _ _⟩
          · rw [some] at rest
            obtain rfl := Option.some.inj rest
            exact ⟨_, first fails, rfl⟩

end Reported

/-- The first failure is reported whatever comes after it. -/
theorem FailsAt.enough (rooted : 0 < environment.depth)
    (fails : FailsAt render files environment done name report) :
    Enough fun rounds => ∀ later,
      runScripts render rounds files "" environment (done ++ name :: later) = some report := by
  cases fails with
  | intro ran failure =>
      refine (ran.enough render rooted).both (failure.enough render (ran.rooted rooted)) ?_
      intro rounds before last later
      rw [before, last, String.empty_append]

theorem FailsAt.congr (fails : FailsAt render files environment done name report)
    (same : ∀ other ∈ done ++ [name], files' other = files other) :
    FailsAt render files' environment done name report := by
  cases fails with
  | intro ran failure =>
      refine .intro (ran.congr fun other among => same other (List.mem_append_left _ among)) ?_
      rw [same name (List.mem_append_right _ (.head _))]
      exact failure

namespace Reported

theorem enough (rooted : 0 < environment.depth)
    (reported : Reported render files environment names report) :
    Enough fun rounds => runScripts render rounds files "" environment names = some report := by
  cases reported with
  | complete ran =>
      refine (ran.enough render rooted).imp fun rounds all => ?_
      have whole := all "" []
      rwa [List.append_nil, String.empty_append] at whole
  | stopped same fails =>
      subst same
      exact (fails.enough rooted).imp fun rounds first => first _

theorem iff_runScripts (rooted : 0 < environment.depth) :
    (∃ rounds, runScripts render rounds files "" environment names = some report)
      ↔ Reported render files environment names report := by
  constructor
  · rintro ⟨rounds, ran⟩
    obtain ⟨reported, whole, rfl⟩ := of_runScripts ran
    rwa [Report.behind_empty]
  · exact fun reported => (reported.enough rooted).some

theorem unique {other : Report} (rooted : 0 < environment.depth)
    (reported : Reported render files environment names report)
    (also : Reported render files environment names other) : report = other := by
  obtain ⟨rounds, ran, ran'⟩ :=
    ((reported.enough rooted).both (also.enough rooted) fun _ => And.intro).some
  exact Option.some.inj (ran.symm.trans ran')

/-- Files whose runs come to an end are reported. -/
theorem of_runsEnd (ends : RunsEnd files environment names) :
    ∃ report, Reported render files environment names report := by
  induction names generalizing environment with
  | nil => exact ⟨_, .complete (.nil _)⟩
  | cons name names ih =>
      cases found : (files name).content with
      | error reason => exact ⟨_, first (.unread found)⟩
      | ok content =>
          have text := Source.eq_text found
          obtain ⟨transcript, rounds, ran⟩ :=
            ends [] name names [] environment content rfl (.nil _) text
          have outcome := succeeds_or_failsIn name ran
          rw [← text] at outcome
          rcases outcome with ⟨-, succeeds⟩ | ⟨complaint, -, fails⟩
          · have others : RunsEnd files transcript.environment names := by
              intro done other later transcripts here content same ran
              exact ends (name :: done) other later (transcript :: transcripts) here content
                (congrArg (name :: ·) same) (.cons succeeds ran)
            obtain ⟨report, rest⟩ := ih others
            exact ⟨_, rest.cons succeeds⟩
          · exact ⟨_, first fails⟩

end Reported

/-! ## The command line -/

theorem rooted_new : 0 < Environment.new.depth := Nat.one_pos

theorem exists_call_iff {arguments : Arguments} (reader : Reader)
    (named : arguments.names ≠ []) :
    (∃ rounds, call render rounds arguments files reader = some report)
      ↔ Reported render files .new arguments.names report := by
  rw [← Reported.iff_runScripts rooted_new]
  unfold call
  cases same : arguments.names with
  | nil => exact absurd same named
  | cons name names => rfl

/-- **The files of a command line are one session.**  They are run in order on one environment, up
to the first that cannot be read, is no program or fails, and the outcome is what is `Reported`
then: all that has been printed, and the failure if there is one.  If all runs come to an end there
is an outcome, and only one; its exit code is zero if no file fails.  The first failure is reported
with the name of its file, and with a location in the text of this file exactly if that is no
program; and it is reported so whatever files are named after it and whatever these hold.  A file
that returns ends there, while the others are run on what it has left.  And a file is read as the
text of which it holds the UTF-8 form, and not if it holds none. -/
theorem run_files {render : Failure → String} (shows : Shows render) {arguments : Arguments}
    (files : String → Source) (reader : Reader) (named : arguments.names ≠ []) :
    (∀ report, (∃ rounds, call render rounds arguments files reader = some report)
      ↔ Reported render files .new arguments.names report)
    ∧ (RunsEnd files .new arguments.names →
      ∃! report, Reported render files .new arguments.names report)
    ∧ (∀ report, Reported render files .new arguments.names report → (report.exitCode = 0
      ↔ ∀ done name later failure, arguments.names = done ++ name :: later →
        ¬ FailsAt render files .new done name failure))
    ∧ (∀ done name later report, arguments.names = done ++ name :: later →
      FailsAt render files .new done name report →
      (Holds report.errors name
        ∧ ∃ failure, report.errors = render failure ∧ Blames name (files name) failure)
      ∧ ∀ arguments' files' reader' later', arguments'.names = done ++ name :: later' →
        (∀ other ∈ done ++ [name], files' other = files other) →
        ∃ rounds, call render rounds arguments' files' reader' = some report)
    ∧ (∀ done name later transcripts here transcript,
      arguments.names = done ++ name :: later → AllRun files .new done transcripts here →
      Returns here (files name) transcript →
      ∀ report, Reported render files transcript.environment later report →
        ∃ rounds, call render rounds arguments files reader
          = some (report.behind (printedBy transcripts ++ transcript.printed)))
    ∧ ∀ bytes? content,
      (Source.ofBytes? bytes?).content = .ok content ↔ bytes? = some content.toUTF8 := by
  refine ⟨fun report => exists_call_iff reader named, fun ends => ?_, ?_, ?_, ?_,
    fun _ _ => Source.content_ofBytes?_eq_ok_iff⟩
  · obtain ⟨report, reported⟩ := Reported.of_runsEnd ends
    exact ⟨report, reported, fun other also => also.unique rooted_new reported⟩
  · intro report reported
    constructor
    · intro zero done name later failure same fails
      obtain rfl := reported.unique rooted_new (.stopped same fails)
      cases fails
      cases zero
    · intro none
      cases reported with
      | complete => rfl
      | stopped same fails => exact absurd fails (none _ _ _ _ same)
  · intro done name later report _ fails
    refine ⟨?_, fun arguments' files' reader' later' same agree => ?_⟩
    · cases fails with
      | intro _ failure =>
          have blames := failure.blames
          exact ⟨(shows _).trans blames.named, _, rfl, blames⟩
    · have named' : arguments'.names ≠ [] := by simp [same]
      exact (exists_call_iff reader' named').mpr (.stopped same (fails.congr agree))
  · intro done name later transcripts here transcript same ran returns report rest
    rw [exists_call_iff reader named, same, Report.behind_append]
    exact (rest.cons returns.succeeds).append ran

/-- The message is part of a failure as it is written, with and without a cause. -/
theorem shows_text : Shows Failure.text := by
  intro failure
  have shown (after : String) : Holds ("Error: " ++ (failure.message ++ after)) failure.message :=
    .trans (.at_back _ _) (.at_front _ _)
  unfold Failure.text
  cases failure.cause? <;> simp only [String.append_assoc] <;> exact shown _

namespace Sample

/-- One file returns, one is no program, one fails while it runs, and there are no others. -/
def folder : String → Source
  | "a" => .text "x = 1; print(x); return x; print(2)"
  | "b" => .text "x;\n  )"
  | "c" => .text "print(x); 1 / 0"
  | _ => .missing

/-- What the first file does, and what it would have done without the return. -/
def opening : List Node := [.assign ⟨"x", some 0⟩ (.integer 1),
  .print (some (.identifier ⟨"x", some 13⟩)), .result (some (.identifier ⟨"x", some 24⟩))]

def closing : List Node := [.print (some (.integer 2))]

/-- The tree of the file that fails while it runs. -/
def division : Node := .program [.print (some (.identifier ⟨"x", some 6⟩)),
  .binary .divide (.integer 1) (.integer 0)]

/-- A call that names these files, at a terminal where nobody writes. -/
def outcome (rounds : Nat) (files : String → Source) (names : List String) : Option Report :=
  call Failure.text rounds ⟨names, false⟩ files ⟨id, [], .interrupted⟩

/-- What becomes of a call with the file that is no program among the others. -/
def refusal : Report := ⟨1, "1\n",
  "Error: b, line 2, column 3: syntax error: expected expression, found ')' at position 5\n"⟩

end Sample

/-- A file that returns, before one that is refused on its second line whatever comes after it, one
that is missing, and one that fails after it has printed something. -/
theorem run_files_returning : Shows Failure.text
    ∧ (∃ rounds, Sample.outcome rounds Sample.folder ["a", "b", "c"] = some Sample.refusal)
    ∧ (∃ rounds, Sample.outcome rounds (fun name => if name = "c" then .undecodable
        else Sample.folder name) ["a", "b", "c", "d"] = some Sample.refusal)
    ∧ (∃ rounds, Sample.outcome rounds Sample.folder ["a", "d"] = some ⟨1, "1\n",
        "Error: failed to read d\n\nCaused by:\n    No such file or directory (os error 2)\n"⟩)
    ∧ ∃ rounds, Sample.outcome rounds Sample.folder ["a", "c", "b"] = some ⟨1, "1\n1\n",
        "Error: c: runtime error: division by zero\n"⟩ := by
  have reads : Session.read "x = 1; print(x); return x; print(2)"
      = .ok (.program (Sample.opening ++ Sample.closing)) :=
    Session.read_ok_iff.mpr ⟨_, by cbv, by rfl⟩
  have divides : Session.read "print(x); 1 / 0" = .ok Sample.division :=
    Session.read_ok_iff.mpr ⟨_, by cbv, by rfl⟩
  have refused : Session.read ("x;\n  " ++ ")")
      = .error (.unexpected .expression (.lexeme ")") 5) :=
    @Session.read_of_tokenize _ [⟨.name, "x", 0⟩, ⟨.symbol .semicolon, ";", 1⟩,
      ⟨.symbol .rightParen, ")", 5⟩, .endAt 6] (by rfl)
  obtain ⟨transcript, returns, prints, after, ended, printed⟩ : ∃ transcript,
      Returns .new (Sample.folder "a") transcript ∧ transcript.printed = "1\n" ∧ ∃ after,
      Evaluation.evaluate .default 9 Sample.division (.start transcript.environment)
        = .failed .divisionByZero after ∧ after.printed = "1\n" :=
    ⟨_, @Returns.intro _ _ _ _ 9 _ _ reads (by cbv), by rfl, _, by cbv, by rfl⟩
  have second (environment : Environment) : FailsIn environment "b" (Sample.folder "b") ""
      ⟨"b, line 2, column 3: syntax error: expected expression, found ')' at position 5", none⟩ :=
    @FailsIn.refused environment "b" _ _ _ _ refused (by rfl) rfl
  have third : FailsIn transcript.environment "c" (Sample.folder "c") "1\n"
      ⟨"c: runtime error: division by zero", none⟩ := by
    rw [← printed]
    refine @FailsIn.failed transcript.environment "c" _ _ .divisionByZero after.environment ⟨9, ?_⟩
    rw [Session.run_of_read divides, ended]
    rfl
  have fourth : FailsIn transcript.environment "d" (Sample.folder "d") ""
      ⟨"failed to read d", some "No such file or directory (os error 2)"⟩ := .unread rfl
  -- Each of the calls runs the first file, and then ends with what is reported of the next one.
  have goes {name : String} {others : List String} {printed : String} {failure : Failure}
      (fails : FailsIn transcript.environment name (Sample.folder name) printed failure) :
      ∃ rounds, Sample.outcome rounds Sample.folder ("a" :: name :: others)
        = some ⟨1, "1\n" ++ printed, failure.text⟩ := by
    obtain ⟨-, -, -, -, goes, -⟩ := @run_files _ shows_text ⟨"a" :: name :: others, false⟩
      Sample.folder ⟨id, [], .interrupted⟩ (List.cons_ne_nil _ _)
    have rest := goes [] "a" (name :: others) [] .new transcript rfl (.nil _) returns _
      (.first fails)
    rwa [prints] at rest
  obtain ⟨-, -, -, alike, -⟩ := @run_files _ shows_text ⟨["a", "b", "c"], false⟩ Sample.folder
    ⟨id, [], .interrupted⟩ (by decide)
  have first : FailsAt Failure.text Sample.folder .new ["a"] "b" Sample.refusal := by
    have stop := @FailsAt.intro Failure.text _ _ _ _ _ _ _ _ (.cons returns.succeeds (.nil _))
      (second transcript.environment)
    rw [printedBy_cons, prints] at stop
    exact stop
  refine ⟨shows_text, goes (second _), ?_, goes fourth, goes third⟩
  refine (alike ["a"] "b" ["c"] _ rfl first).2 ⟨["a", "b", "c", "d"], false⟩ _ _ ["c", "d"] rfl ?_
  intro other among
  rw [if_neg]
  rintro rfl
  revert among
  decide

end Console

end Scriptlet
