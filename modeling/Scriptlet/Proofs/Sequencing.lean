/-
# Proofs.Sequencing -- two texts, or both as one

A text, a semicolon and another text are read as one program with the statements of both.
It runs as the first text does, and then, unless that has failed or returned, as the second
one does in the environment that the first one has left (`run_joined`).

The names of the second text stand further on in the joined one, and that is all that can
be told afterwards: functions that were made of them carry their names with them.  So both
runs of the second text are compared with a third one, of the same statements with all
names at the start, which they have in common (`evaluate_elsewhere`).
-/
import Scriptlet.Proofs.Audit
import Scriptlet.Proofs.Grammar.Joining

namespace Scriptlet

set_option autoImplicit false

/-! ## Names in environments -/

namespace Environment

/-- The environment with the names in its functions changed. -/
def relabel (label : Name → Name) (environment : Environment) : Environment :=
  { environment with
    scopes := environment.scopes.map fun scope =>
      { scope with bindings := Value.inEntries (Value.relabel label) scope.bindings } }

variable {label : Name → Name} {environment : Environment}

@[simp] theorem depth_relabel : (environment.relabel label).depth = environment.depth :=
  Array.size_map

theorem resolve?_relabel (name : String) (steps number : Nat) :
    resolve? (environment.relabel label).scopes name steps number
      = (resolve? environment.scopes name steps number).map (Value.relabel label) := by
  induction steps generalizing number with
  | zero => rfl
  | succ steps ih =>
      simp only [resolve?, relabel, Array.getElem?_map]
      cases environment.scopes[number]? with
      | none => rfl
      | some scope =>
          simp only [Option.map_some, Value.find?_inEntries]
          cases Dictionary.find? name scope.bindings with
          | some value => rfl
          | none =>
              cases scope.parent with
              | none => rfl
              | some parent => exact ih parent

theorem lookup?_relabel (name : String) : (environment.relabel label).lookup? name
    = (environment.lookup? name).map (Value.relabel label) := by
  have size : (environment.relabel label).scopes.size = environment.scopes.size := Array.size_map
  rw [lookup?, lookup?, size]
  exact resolve?_relabel name _ _

theorem relabel_assign (name : String) (value : Value) :
    (environment.assign name value).relabel label
      = (environment.relabel label).assign name (value.relabel label) := by
  have scopes : ((environment.assign name value).relabel label).scopes
      = ((environment.relabel label).assign name (value.relabel label)).scopes := by
    apply Array.ext_getElem?
    intro number
    rw [scope_assign]
    simp only [relabel, Array.getElem?_map, scope_assign]
    split
    · rw [Option.map_map, Option.map_map]
      simp only [Function.comp_def, Value.inEntries_insert]
    · rfl
  exact congrArg (Environment.mk · environment.current) scopes

theorem relabel_enter :
    environment.enter.2.relabel label = (environment.relabel label).enter.2 := by
  simp [relabel, enter]

end Environment

/-- The flow with the names in its functions changed. -/
def Flow.relabel (label : Name → Name) : Flow → Flow
  | value carried => value (carried.relabel label)
  | returned carried => returned (carried.relabel label)

namespace Ending

/-- The ending with the names in its functions changed. -/
def relabel (label : Name → Name) : Ending → Ending
  | finished flow => finished (flow.relabel label)
  | refused error => refused error
  | failed error => failed error

/-- Whether more statements would have been run than there were. -/
def runsOn : Ending → Bool
  | finished (.value _) => true
  | _ => false

end Ending

/-! ## Runs of one program at two places -/

theorem Likeness.Flows.eq_relabel {like : Likeness} {flow other : Flow}
    (alike : like.Flows flow other) : other = flow.relabel like.label := by
  cases alike with
  | value carried | returned carried => rw [carried.same, Flow.relabel]

/-- Two outcomes go together if each of them goes together with a third one. -/
theorem Outcome.Matches.span {α β γ : Type} {results : α → γ → Prop} {results' : β → γ → Prop}
    {both : α → β → Prop} {machines machines' bothMachines : Machine → Machine → Prop}
    {outcome : Outcome α} {outcome' : Outcome β} {third : Outcome γ}
    (first : outcome.Matches False results machines third)
    (second : outcome'.Matches False results' machines' third)
    (joins : ∀ {result result' common}, results result common → results' result' common →
      both result result')
    (joinsMachines : ∀ {machine machine' common}, machines machine common →
      machines' machine' common → bothMachines machine machine') :
    outcome.Matches False both bothMachines outcome' := by
  cases first with
  | done result machine =>
      cases second with
      | done result' machine' => exact .done (joins result result') (joinsMachines machine machine')
      | stopped short => exact short.elim
  | failed machine =>
      cases second with
      | failed machine' => exact .failed (joinsMachines machine machine')
      | stopped short => exact short.elim
  | unfinished =>
      cases second with
      | unfinished => exact .unfinished
      | stopped short => exact short.elim
  | stopped short => exact short.elim

/-- A run, some of whose output was there `before`, and the run with all names at the start. -/
def Likeness.atStart (calls : Nat) (before : String) : Likeness where
  holds _ := True
  label := Name.atStart
  limits := ⟨calls, .endless⟩
  environments environment other :=
    0 < environment.depth ∧ other = environment.relabel Name.atStart
  printed text other := text = before ++ other
  mayStop := False
  plain := fun _ => rfl
  rooted := by
    rintro environment _ ⟨rooted, rfl⟩
    exact ⟨rooted, by simpa using rooted⟩
  lookup := by
    rintro environment _ name ⟨-, rfl⟩ -
    exact ⟨Environment.lookup?_relabel name.text, fun value _ _ _ _ _ => trivial⟩
  assign := by
    rintro environment _ name value ⟨rooted, rfl⟩ -
    exact ⟨by simpa using rooted, (Environment.relabel_assign name value).symm⟩
  enter := by
    rintro environment _ ⟨-, rfl⟩
    exact ⟨by simp, Environment.relabel_enter.symm⟩
  write := by
    rintro _ other piece rfl
    exact String.append_assoc
  full := fun _ => rfl

/-- The machine with all names at the start and nothing printed. -/
def Machine.atStart (machine : Machine) : Machine :=
  ⟨machine.environment.relabel Name.atStart, machine.depth, ""⟩

namespace Evaluation

variable {limits : Limits} {rounds : Nat} {machine after : Machine}

/-- A program runs alike wherever it stands in a text, and whatever was printed before. -/
theorem evaluate_elsewhere (calls distance : Nat) (tree : Node)
    (rooted : 0 < machine.environment.depth) :
    (evaluate ⟨calls, .endless⟩ rounds (tree.relabel (Name.moved distance)) machine).Matches False
      (fun flow flow' => flow.relabel Name.atStart = flow'.relabel Name.atStart)
      (fun after after' => after.environment.relabel Name.atStart
          = after'.environment.relabel Name.atStart
        ∧ after.printed = machine.printed ++ after'.printed)
      (evaluate ⟨calls, .endless⟩ rounds tree { machine with printed := "" }) := by
  have everywhere (node : Node) : node.Throughout fun _ => True := fun _ _ => trivial
  have moved : (tree.relabel (Name.moved distance)).relabel Name.atStart
      = tree.relabel Name.atStart := tree.relabel_relabel _ _
  have first := @Likeness.evaluate_matches (.atStart calls machine.printed) _
    (everywhere (tree.relabel (Name.moved distance))) rounds rounds (.inl rfl)
    machine machine.atStart ⟨⟨rooted, rfl⟩, rfl, String.append_empty.symm⟩
  have second := @Likeness.evaluate_matches (.atStart calls "") _ (everywhere tree) rounds rounds
    (.inl rfl) { machine with printed := "" } machine.atStart ⟨⟨rooted, rfl⟩, rfl, rfl⟩
  rw [show (tree.relabel (Name.moved distance)).relabel (Likeness.atStart calls _).label
    = tree.relabel (Likeness.atStart calls "").label from moved] at first
  refine first.span second ?_ ?_
  · intro flow flow' common flows flows'
    exact flows.eq_relabel.symm.trans flows'.eq_relabel
  · intro after after' common machines machines'
    refine ⟨machines.environment.2.symm.trans machines'.environment.2, ?_⟩
    rw [machines.printed, machines'.printed, String.empty_append]

/-! ## Statements one after the other -/

/-- Further statements, unless a return flows out of those before them. -/
def runOn (nested : Node → Run Flow) (further : List Node) : Flow → Run Flow
  | .value carried => sequence nested carried further
  | .returned carried => pure (.returned carried)

theorem sequence_append (nested : Node → Run Flow) (last : Value) (first second : List Node) :
    sequence nested last (first ++ second)
      = sequence nested last first >>= runOn nested second := by
  induction first generalizing last with
  | nil => rfl
  | cons node first ih =>
      rw [List.cons_append, sequence, sequence, bind_assoc]
      refine congrArg (nested node >>= ·) (funext fun flow => ?_)
      cases flow with
      | value carried => exact ih carried
      | returned carried => rfl

variable {opening closing : List Node}

/-- A program that fails or returns does the same with more statements behind it. -/
theorem evaluate_append_of_stops
    (stops : ∀ transcript, (evaluate limits rounds (.program opening) machine).transcript?
      = some transcript → transcript.ending.runsOn = false) :
    evaluate limits rounds (.program (opening ++ closing)) machine
      = evaluate limits rounds (.program opening) machine := by
  cases rounds with
  | zero => rfl
  | succ rounds =>
      simp only [evaluate, step] at stops ⊢
      rw [sequence_append]
      show Run.bind _ _ machine = _
      unfold Run.bind
      cases outcome : sequence (evaluate limits rounds) .null opening machine with
      | done flow after =>
          cases flow with
          | value carried =>
              rw [outcome] at stops
              exact absurd (stops _ rfl) (by simp [Ending.runsOn])
          | returned carried => rfl
      | failed error after => rfl
      | unfinished => rfl

/-- A program with more statements behind it goes on with these, as a program of their own. -/
theorem evaluate_append_of_value {carried : Value} (more : closing ≠ [])
    (ended : evaluate limits rounds (.program opening) machine = .done (.value carried) after) :
    evaluate limits rounds (.program (opening ++ closing)) machine
      = evaluate limits rounds (.program closing) after := by
  cases rounds with
  | zero => cases ended
  | succ rounds =>
      obtain ⟨node, closing, rfl⟩ := List.exists_cons_of_ne_nil more
      simp only [evaluate, step] at ended ⊢
      rw [sequence_append]
      show Run.bind _ _ machine = _
      unfold Run.bind
      rw [ended]
      rfl

end Evaluation

/-! ## Texts one after the other -/

/-- What two texts with a semicolon between them leave behind, by what the first one and then the
second one leave: the same, up to the positions of names.  A second text without statements leaves
the value of the first one as it is. -/
structure Transcript.Sequel (joined : Transcript) (closing : List Node) (ran also : Transcript) :
    Prop where
  printed : joined.printed = ran.printed ++ also.printed
  environment : joined.environment.relabel Name.atStart = also.environment.relabel Name.atStart
  ending : closing ≠ [] → joined.ending.relabel Name.atStart = also.ending.relabel Name.atStart
  value : closing = [] → joined.ending = ran.ending

namespace Outcome

variable {ran also : Transcript} {outcome outcome' : Outcome Flow}

theorem eq_done_of_runsOn (ended : outcome.transcript? = some ran)
    (runsOn : ran.ending.runsOn = true) :
    ∃ carried after, outcome = .done (.value carried) after
      ∧ ran = ⟨.finished (.value carried), after.printed, after.environment⟩ := by
  cases outcome with
  | done flow after =>
      obtain rfl := Option.some.inj ended
      cases flow with
      | value carried => exact ⟨carried, after, rfl, rfl⟩
      | returned carried => cases runsOn
  | failed error after =>
      obtain rfl := Option.some.inj ended
      cases runsOn
  | unfinished => cases ended

theorem Matches.sequel {closing : List Node} (more : closing ≠ [])
    (matching : outcome.Matches False
      (fun flow flow' => flow.relabel Name.atStart = flow'.relabel Name.atStart)
      (fun after after' => after.environment.relabel Name.atStart
          = after'.environment.relabel Name.atStart
        ∧ after.printed = ran.printed ++ after'.printed) outcome')
    (ended : outcome'.transcript? = some also) :
    ∃ joined, outcome.transcript? = some joined ∧ joined.Sequel closing ran also := by
  have unlike {joined : Transcript} (nothing : closing = []) : joined.ending = ran.ending :=
    absurd nothing more
  cases matching with
  | done flows machines =>
      obtain rfl := Option.some.inj ended
      exact ⟨_, rfl, machines.2, machines.1, fun _ => congrArg Ending.finished flows, unlike⟩
  | failed machines =>
      obtain rfl := Option.some.inj ended
      exact ⟨_, rfl, machines.2, machines.1, fun _ => rfl, unlike⟩
  | unfinished => cases ended
  | stopped short => exact short.elim

end Outcome

namespace Session

open Evaluation

variable {first second : String} {opening closing : List Node} {environment : Environment}
  {rounds : Nat} {ran also : Transcript}

theorem read_joined (reads : read first = .ok (.program opening)) (nonempty : opening ≠ [])
    (reads' : read second = .ok (.program closing)) :
    read (first ++ ";" ++ second) = .ok (.program
      (opening ++ closing.map (Node.relabel (Name.moved (first.utf8ByteSize + 1))))) := by
  obtain ⟨tokens, scanned, parsed⟩ := read_ok_iff.mp reads
  obtain ⟨others, scanned', parsed'⟩ := read_ok_iff.mp reads'
  obtain ⟨tokens, rfl, scan⟩ := tokenize_ok_iff.mp scanned
  obtain ⟨others, rfl, scan'⟩ := tokenize_ok_iff.mp scanned'
  unfold read
  rw [tokenize_seam scan scan']
  exact Grammar.parse_joined _ scan.unmarked parsed nonempty scan'.unmarked rfl parsed' rfl rfl

/-- Within one allowance of rounds, two texts in one that the first one stops. -/
theorem run_joined_of_stops {limits : Limits} (reads : read first = .ok (.program opening))
    (nonempty : opening ≠ []) (reads' : read second = .ok (.program closing))
    (ended : run rounds limits first environment = some ran) (stops : ran.ending.runsOn = false) :
    run rounds limits (first ++ ";" ++ second) environment = some ran := by
  rw [run_of_read reads] at ended
  rw [run_of_read (read_joined reads nonempty reads'), ← ended]
  refine congrArg Outcome.transcript? (evaluate_append_of_stops fun transcript same => ?_)
  obtain rfl := Option.some.inj (ended.symm.trans same)
  exact stops

/-- Within one allowance of rounds, two texts in one of which both are run. -/
theorem run_joined_of_runsOn {calls : Nat} (reads : read first = .ok (.program opening))
    (nonempty : opening ≠ []) (reads' : read second = .ok (.program closing))
    (rooted : 0 < environment.depth)
    (ended : run rounds ⟨calls, .endless⟩ first environment = some ran)
    (runsOn : ran.ending.runsOn = true)
    (ended' : run rounds ⟨calls, .endless⟩ second ran.environment = some also) :
    ∃ joined, run rounds ⟨calls, .endless⟩ (first ++ ";" ++ second) environment = some joined
      ∧ joined.Sequel closing ran also := by
  rw [run_of_read reads] at ended
  rw [run_of_read reads'] at ended'
  rw [run_of_read (read_joined reads nonempty reads')]
  obtain ⟨carried, after, outcome, rfl⟩ := Outcome.eq_done_of_runsOn ended runsOn
  by_cases more : closing = []
  · subst more
    rw [List.map_nil, List.append_nil, outcome]
    cases rounds with
    | zero => cases outcome
    | succ rounds =>
        obtain rfl := Option.some.inj ended'
        exact ⟨_, rfl, String.append_empty.symm, rfl, absurd rfl, fun _ => rfl⟩
  · have kept := evaluate_keeps ⟨calls, .endless⟩ rounds (.program opening)
      (.start environment) after (congrArg Outcome.machine? outcome) rooted
    have still_rooted : 0 < after.environment.depth := by
      rw [kept.environment.depth]
      exact rooted
    have restart : { after with printed := "" } = Machine.start after.environment :=
      congrArg (Machine.mk after.environment · "") kept.depth
    have alike := @evaluate_elsewhere rounds after calls (first.utf8ByteSize + 1)
      (.program closing) still_rooted
    rw [restart, Node.relabel, Node.relabelAll_eq_map] at alike
    rw [evaluate_append_of_value (by simpa using more) outcome]
    exact alike.sequel more ended'

/-- **Running two texts one after the other is running both as one**, with a semicolon between
them, if there are statements in the first one.  The text of both is read as the statements of the
first and then those of the second, whose names now stand further on.  If the first text fails or
returns, then that is all that is run of both.  Otherwise the second one is run in the environment
that the first one has left. -/
theorem run_joined {tree : Node} (reads : read first = .ok (.program opening))
    (nonempty : opening ≠ []) (reads' : read second = .ok tree) :
    ∃ closing, tree = .program closing
      ∧ read (first ++ ";" ++ second) = .ok (.program
        (opening ++ closing.map (Node.relabel (Name.moved (first.utf8ByteSize + 1)))))
      ∧ ∀ (calls : Nat) (environment : Environment) (ran : Transcript), 0 < environment.depth →
        Runs ⟨calls, .endless⟩ first environment ran →
        (ran.ending.runsOn = false → ∀ joined,
          Runs ⟨calls, .endless⟩ (first ++ ";" ++ second) environment joined ↔ joined = ran)
        ∧ (ran.ending.runsOn = true → ∀ also,
          Runs ⟨calls, .endless⟩ second ran.environment also →
          (∃ joined, Runs ⟨calls, .endless⟩ (first ++ ";" ++ second) environment joined)
          ∧ ∀ joined, Runs ⟨calls, .endless⟩ (first ++ ";" ++ second) environment joined →
            joined.Sequel closing ran also) := by
  obtain ⟨tokens, -, parsed⟩ := read_ok_iff.mp reads'
  obtain ⟨closing, rfl, -⟩ := proper_of_parse parsed
  refine ⟨closing, rfl, read_joined reads nonempty reads', ?_⟩
  rintro calls environment ran rooted ⟨rounds, ended⟩
  constructor
  · intro stops joined
    have whole : Runs ⟨calls, .endless⟩ (first ++ ";" ++ second) environment ran :=
      ⟨rounds, run_joined_of_stops reads nonempty reads' ended stops⟩
    exact ⟨fun runs => runs.unique rooted whole, fun same => same ▸ whole⟩
  · rintro runsOn also ⟨others, ended'⟩
    have still_rooted : 0 < ran.environment.depth := by
      rwa [depth_of_run rooted ended]
    obtain ⟨joined, whole, sequel⟩ := run_joined_of_runsOn reads nonempty reads' rooted
      (run_more (Nat.le_max_left rounds others) rooted ended) runsOn
      (run_more (Nat.le_max_right rounds others) still_rooted ended')
    refine ⟨⟨joined, _, whole⟩, fun other runs => ?_⟩
    rwa [runs.unique rooted ⟨_, whole⟩]

namespace Sample

/-- A name is bound and looked up. -/
def binding : List Node :=
  [.assign ⟨"x", some 0⟩ (.integer 1), .print (some (.identifier ⟨"x", some 13⟩))]

/-- A function that looks the name up is called and left as a value. -/
def defining : List Node :=
  [.assign ⟨"f", some 0⟩ (.function [⟨"n", some 13⟩]
    (.block [.result (some (.identifier ⟨"x", some 25⟩))])),
    .print (some (.call (.identifier ⟨"f", some 36⟩) [.integer 1])), .identifier ⟨"f", some 43⟩]

/-- Something is printed and then a name looked up that is not bound. -/
def failing : List Node := [.print (some (.integer 1)), .identifier ⟨"x", some 10⟩]

end Sample

/-- A text that binds a name and one with a function that uses it, and then a text that fails before
another one is run. -/
theorem run_joined_function :
    (∃ ran also joined, Runs .default "x = 1; print(x)" .new ran
      ∧ Runs .default "f = function(n) \x7b return x \x7d; print(f(1)); f" ran.environment also
      ∧ Runs .default
        ("x = 1; print(x)" ++ ";" ++ "f = function(n) \x7b return x \x7d; print(f(1)); f")
        .new joined
      ∧ joined.printed = "1\n1\n"
      ∧ joined.ending.relabel Name.atStart = also.ending.relabel Name.atStart)
    ∧ ∃ joined, Runs .default ("print(1); x" ++ ";" ++ "x = 1; print(x)") .new joined
      ∧ joined.printed = "1\n" ∧ joined.ending.runsOn = false := by
  have reads : read "x = 1; print(x)" = .ok (.program Sample.binding) :=
    read_ok_iff.mpr ⟨_, by cbv, by rfl⟩
  have reads' : read "f = function(n) \x7b return x \x7d; print(f(1)); f"
      = .ok (.program Sample.defining) := read_ok_iff.mpr ⟨_, by cbv, by rfl⟩
  have fails : read "print(1); x" = .ok (.program Sample.failing) :=
    read_ok_iff.mpr ⟨_, by cbv, by rfl⟩
  constructor
  · obtain ⟨ran, also, runs, runsOn, runs', prints⟩ : ∃ ran also,
        (evaluate .default 9 (.program Sample.binding) (.start .new)).transcript? = some ran
        ∧ ran.ending.runsOn = true
        ∧ (evaluate .default 9 (.program Sample.defining) (.start ran.environment)).transcript?
          = some also
        ∧ ran.printed ++ also.printed = "1\n1\n" := ⟨_, _, by cbv, by rfl, by cbv, by rfl⟩
    rw [← run_of_read reads] at runs
    rw [← run_of_read reads'] at runs'
    obtain ⟨_, same, -, goes⟩ := run_joined reads (by simp [Sample.binding]) reads'
    cases same
    obtain ⟨-, both⟩ := goes 200 .new ran Nat.one_pos ⟨9, runs⟩
    obtain ⟨⟨joined, ended⟩, sequel⟩ := both runsOn also ⟨9, runs'⟩
    have left := sequel joined ended
    exact ⟨ran, also, joined, ⟨9, runs⟩, ⟨9, runs'⟩, ended, left.printed.trans prints,
      left.ending (by simp [Sample.defining])⟩
  · obtain ⟨ran, runs, stops, prints⟩ : ∃ ran,
        (evaluate .default 9 (.program Sample.failing) (.start .new)).transcript? = some ran
        ∧ ran.ending.runsOn = false ∧ ran.printed = "1\n" := ⟨_, by cbv, by rfl, by rfl⟩
    rw [← run_of_read fails] at runs
    obtain ⟨_, -, -, goes⟩ := run_joined fails (by simp [Sample.failing]) reads
    obtain ⟨same, -⟩ := goes 200 .new ran Nat.one_pos ⟨9, runs⟩
    exact ⟨ran, (same stops ran).mpr rfl, prints, stops⟩

end Session

end Scriptlet
