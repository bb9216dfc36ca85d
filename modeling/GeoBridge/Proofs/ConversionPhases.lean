import GeoBridge.Proofs.Conversions

/-!
Owns the phases that a conversion goes through, so that other things can happen between them.

Owns:
- the phases, and the step from each of them to the next;
- the failures of a command as those of the conversion;
- the run of a tool as its seven steps.
-/

namespace GeoBridge

/-- How far a conversion has come: nothing is done, the coordinate system is staged, the command is
ready, the command is running, the run is over, the hook after it has been told, the side file is
removed, and all is over. -/
inductive ConversionPhase where
  | ready
  | staged (sideFile : Option Path)
  | prepared (sideFile : Option Path) (command : List String)
  | running (sideFile : Option Path) (command : List String)
  | ran (sideFile : Option Path) (ended : Except Failure (List String × CommandOutcome))
  | told (sideFile : Option Path) (ended : Except Failure (List String × CommandOutcome))
      (hooked : Except Failure Unit)
  | removed (ended : Except Failure (List String × CommandOutcome))
      (concluded : Except Failure Unit)
  | ended (result : Except Failure Conversion)

namespace ConversionPhase

/-- Where a conversion goes on once the staging has ended. -/
def afterStaging : Except Failure (Option Path) → ConversionPhase
  | .ok sideFile => .staged sideFile
  | .error failure => .ran none (.error failure)

/-- Where a conversion goes on once the hook before the run has ended. -/
def afterPreparing (sideFile : Option Path) : Except Failure (List String) → ConversionPhase
  | .ok command => .prepared sideFile command
  | .error failure => .ran sideFile (.error failure)

end ConversionPhase

namespace Tool

variable (tool : Tool) (request : Request)

/-- Let the hook complete the command, and add the paths to it. -/
def prepare (sideFile : Option Path) : Action (List String) := do
  Action.enter (.beforeRun (tool.contextOf request sideFile).command request.typeName sideFile)
  let adjusted ← tool.hooks.before (tool.contextOf request sideFile)
  let here ← Action.here
  pure (adjusted ++ tool.pathArguments request here)

/-- The call that runs a command. -/
def callFor (command : List String) : CommandCall :=
  ⟨command, some tool.environment, tool.limit⟩

/-- The failure of a command as that of the conversion. -/
def conversionFailure (command : List String) : Failure → Failure
  | .outside (.timedOut _ _ captured) =>
      .conversion (.timedOut tool.executable tool.limit command captured.content)
  | .outside (.system cause) => .conversion (.notStarted tool.executable cause command)
  | failure => failure

/-- The end of a command, with the command itself. -/
def endOf (command : List String) (ended : Except Failure CommandOutcome) :
    Except Failure (List String × CommandOutcome) :=
  (ended.mapError (tool.conversionFailure command)).map (command, ·)

/-- The conversion that everything before amounts to. -/
def settle (ended : Except Failure (List String × CommandOutcome))
    (concluded : Except Failure Unit) : Action Conversion := do
  Action.ofExcept concluded
  let outcome ← Action.ofExcept ended
  tool.judge request outcome.1 outcome.2

/-- One step of a conversion. -/
def advance : ConversionPhase → Action ConversionPhase
  | .ready => .afterStaging <$> (tool.stage request).outcome
  | .staged sideFile => .afterPreparing sideFile <$> (tool.prepare request sideFile).outcome
  | .prepared sideFile command => do
      let site ← get
      Action.enter (.called (tool.callFor command) site.workspace)
      pure (.running sideFile command)
  | .running sideFile command =>
      (fun ended => .ran sideFile (tool.endOf command ended)) <$>
        (tool.runner (tool.callFor command)).outcome
  | .ran sideFile ended =>
      .told sideFile ended <$> (tool.notifyAfter (reportedExitCode ended)).outcome
  | .told sideFile ended hooked =>
      (fun discarded => .removed ended (discarded.bind fun _ => hooked)) <$>
        (discard sideFile).outcome
  | .removed ended concluded => .ended <$> (tool.settle request ended concluded).outcome
  | .ended result => pure (.ended result)

/-! ### Single steps -/

section Steps

variable (site : Site) (sideFile : Option Path)

theorem advance_ready :
    tool.advance request .ready site =
      .ok (.afterStaging ((tool.stage request).ending site)) ((tool.stage request).after site) :=
  Action.map_outcome _ _ site

theorem advance_staged :
    tool.advance request (.staged sideFile) site =
      .ok (.afterPreparing sideFile ((tool.prepare request sideFile).ending site))
        ((tool.prepare request sideFile).after site) :=
  Action.map_outcome _ _ site

theorem advance_prepared (command : List String) :
    tool.advance request (.prepared sideFile command) site =
      .ok (.running sideFile command)
        (site.entered (.called (tool.callFor command) site.workspace)) := rfl

theorem advance_running (command : List String) :
    let running := tool.runner (tool.callFor command)
    tool.advance request (.running sideFile command) site =
      .ok (.ran sideFile (tool.endOf command (running.ending site))) (running.after site) :=
  Action.map_outcome _ _ site

theorem advance_ran (ended : Except Failure (List String × CommandOutcome)) :
    let telling := tool.notifyAfter (reportedExitCode ended)
    tool.advance request (.ran sideFile ended) site =
      .ok (.told sideFile ended (telling.ending site)) (telling.after site) :=
  Action.map_outcome _ _ site

theorem advance_told (ended : Except Failure (List String × CommandOutcome))
    (hooked : Except Failure Unit) :
    tool.advance request (.told sideFile ended hooked) site =
      .ok (.removed ended (((discard sideFile).ending site).bind fun _ => hooked))
        ((discard sideFile).after site) :=
  Action.map_outcome _ _ site

theorem advance_removed (ended : Except Failure (List String × CommandOutcome))
    (concluded : Except Failure Unit) :
    let settling := tool.settle request ended concluded
    tool.advance request (.removed ended concluded) site =
      .ok (.ended (settling.ending site)) (settling.after site) :=
  Action.map_outcome _ _ site

/-- No step of a conversion fails: the failures are part of the phases. -/
theorem advance_total (phase : ConversionPhase) :
    ∃ next left, tool.advance request phase site = .ok next left := by
  cases phase with
  | ready => exact ⟨_, _, tool.advance_ready request site⟩
  | staged sideFile => exact ⟨_, _, tool.advance_staged request site sideFile⟩
  | prepared sideFile command =>
      exact ⟨_, _, tool.advance_prepared request site sideFile command⟩
  | running sideFile command => exact ⟨_, _, tool.advance_running request site sideFile command⟩
  | ran sideFile ended => exact ⟨_, _, tool.advance_ran request site sideFile ended⟩
  | told sideFile ended hooked => exact ⟨_, _, tool.advance_told request site sideFile ended hooked⟩
  | removed ended concluded => exact ⟨_, _, tool.advance_removed request site ended concluded⟩
  | ended result => exact ⟨_, _, rfl⟩

theorem iterate_ended (count : Nat) (result : Except Failure Conversion) :
    Action.iterate (tool.advance request) count (.ended result) site =
      .ok (.ended result) site := by
  have fixed : tool.advance request (.ended result) = pure (.ended result) := rfl
  rw [Action.iterate_of_fixed fixed]
  rfl

end Steps

/-! ### The steps together -/

variable {tool request} {sideFile : Option Path} {site left : Site}

/-- What is left to do once the command was run, or could not be. -/
def finish (tool : Tool) (request : Request) (sideFile : Option Path)
    (ended : Except Failure (List String × CommandOutcome)) : Action Conversion := do
  tool.conclude sideFile (reportedExitCode ended)
  let outcome ← Action.ofExcept ended
  tool.judge request outcome.1 outcome.2

theorem run_of_begun {ended : Except Failure (List String × CommandOutcome)}
    (begun : tool.stageAndAttempt request site = .ok (sideFile, ended) left) :
    tool.run request site = tool.finish request sideFile ended left :=
  Action.bind_of_ok begun

theorem after_settle (ended : Except Failure (List String × CommandOutcome))
    (concluded : Except Failure Unit) (site : Site) :
    (tool.settle request ended concluded).after site = site := by
  unfold settle
  rw [Action.after_bind, Action.ending_ofExcept, Action.after_ofExcept]
  cases concluded with
  | error failure => rfl
  | ok _ =>
      simp only
      rw [Action.after_bind, Action.ending_ofExcept, Action.after_ofExcept]
      cases ended with
      | error failure => rfl
      | ok outcome => exact after_judge outcome.1 outcome.2 site

theorem conclude_eq (exitCode : Int) (site : Site) :
    (tool.conclude sideFile exitCode).ending site =
      ((discard sideFile).ending ((tool.notifyAfter exitCode).after site)).bind fun _ =>
        (tool.notifyAfter exitCode).ending site := by
  unfold conclude Action.finally_
  rw [Action.ending_bind, Action.ending_of_ok (Action.outcome_eq _ site),
    Action.after_of_ok (Action.outcome_eq _ site)]
  simp only
  rw [Action.ending_bind]
  cases (discard sideFile).ending ((tool.notifyAfter exitCode).after site) with
  | error failure => rfl
  | ok _ => cases (tool.notifyAfter exitCode).ending site <;> rfl

theorem finish_eq (tool : Tool) (request : Request) (sideFile : Option Path)
    (ended : Except Failure (List String × CommandOutcome)) (site : Site) :
    tool.finish request sideFile ended site =
      tool.settle request ended ((tool.conclude sideFile (reportedExitCode ended)).ending site)
        ((tool.conclude sideFile (reportedExitCode ended)).after site) := by
  unfold finish
  cases concluded : tool.conclude sideFile (reportedExitCode ended) site with
  | ok _ left =>
      rw [Action.bind_of_ok concluded, Action.ending_of_ok concluded,
        Action.after_of_ok concluded]
      rfl
  | error failure left =>
      rw [Action.bind_of_error concluded, Action.ending_of_error concluded,
        Action.after_of_error concluded]
      rfl

/-- Once the run is over, three steps finish the conversion. -/
theorem iterate_ran (count : Nat) (ended : Except Failure (List String × CommandOutcome))
    (site : Site) :
    Action.iterate (tool.advance request) (count + 3) (.ran sideFile ended) site =
      .ok (.ended ((tool.finish request sideFile ended).ending site))
        ((tool.finish request sideFile ended).after site) := by
  have finishing := finish_eq tool request sideFile ended site
  rw [conclude_eq, after_conclude] at finishing
  rw [Action.iterate_succ (tool.advance_ran request site sideFile ended),
    Action.iterate_succ (tool.advance_told request _ sideFile ended _),
    Action.iterate_succ (tool.advance_removed request _ ended _), iterate_ended,
    Action.ending_congr finishing, Action.after_congr finishing]

theorem ending_execute (command : List String) (site : Site) :
    (tool.execute command).ending site =
      ((tool.runner (tool.callFor command)).ending
        (site.entered (.called (tool.callFor command) site.workspace))).mapError
          (tool.conversionFailure command) := by
  have called : (Action.call tool.runner (tool.callFor command)).ending site =
      (tool.runner (tool.callFor command)).ending
        (site.entered (.called (tool.callFor command) site.workspace)) := rfl
  have executed : (tool.execute command).ending site =
      ((Action.call tool.runner (tool.callFor command)).ending site).mapError
        (tool.conversionFailure command) := by
    unfold execute
    rw [Action.ending_bind, Action.ending_of_ok (Action.outcome_eq _ site)]
    rw [callFor]
    cases (Action.call tool.runner ⟨command, some tool.environment, tool.limit⟩).ending site with
    | ok outcome => rfl
    | error failure =>
        cases failure with
        | outside fault => cases fault <;> rfl
        | _ => rfl
  rw [executed, called]

theorem attempt_eq_prepare (tool : Tool) (request : Request) (sideFile : Option Path) :
    tool.attempt request sideFile =
      (tool.prepare request sideFile >>= fun command =>
        tool.execute command >>= fun outcome => pure (command, outcome)) := by
  simp only [attempt, prepare, contextOf, bind_assoc, pure_bind]

/-- An attempt is the preparation of a command and then its run. -/
theorem attempt_of_prepared {command : List String}
    (prepared : tool.prepare request sideFile site = .ok command left) :
    let begun := left.entered (.called (tool.callFor command) left.workspace)
    let running := tool.runner (tool.callFor command)
    (tool.attempt request sideFile).ending site = tool.endOf command (running.ending begun) ∧
      (tool.attempt request sideFile).after site = running.after begun := by
  intro begun running
  have whole : tool.attempt request sideFile site =
      (tool.execute command >>= fun outcome => pure (command, outcome)) left := by
    rw [attempt_eq_prepare]
    exact Action.bind_of_ok prepared
  have executed : (tool.execute command).ending left =
      (running.ending begun).mapError (tool.conversionFailure command) :=
    ending_execute command left
  rw [Action.ending_congr whole, Action.after_congr whole, Action.ending_bind, Action.after_bind,
    executed, after_execute, endOf]
  cases running.ending begun <;> exact ⟨rfl, rfl⟩

theorem attempt_of_unprepared {failure : Failure}
    (unprepared : tool.prepare request sideFile site = .error failure left) :
    tool.attempt request sideFile site = .error failure left := by
  rw [attempt_eq_prepare]
  exact Action.bind_of_error unprepared

/-- Once the coordinate system is staged, six steps make the attempt and finish the conversion. -/
theorem iterate_staged (count : Nat) (site : Site) :
    let finishing := tool.finish request sideFile ((tool.attempt request sideFile).ending site)
    let attempted := (tool.attempt request sideFile).after site
    Action.iterate (tool.advance request) (count + 6) (.staged sideFile) site =
      .ok (.ended (finishing.ending attempted)) (finishing.after attempted) := by
  intro finishing attempted
  rw [Action.iterate_succ (tool.advance_staged request site sideFile)]
  cases prepared : tool.prepare request sideFile site with
  | error failure left =>
      have failed := attempt_of_unprepared prepared
      rw [Action.ending_of_error prepared, Action.after_of_error prepared,
        ConversionPhase.afterPreparing, iterate_ran (count + 2)]
      simp only [finishing, attempted, Action.ending_of_error failed,
        Action.after_of_error failed]
  | ok command left =>
      obtain ⟨ended, reached⟩ := attempt_of_prepared prepared
      rw [Action.ending_of_ok prepared, Action.after_of_ok prepared,
        ConversionPhase.afterPreparing,
        Action.iterate_succ (tool.advance_prepared request left sideFile command),
        Action.iterate_succ (tool.advance_running request _ sideFile command), iterate_ran]
      simp only [finishing, attempted, ended, reached]

/-- The seven steps of a conversion do what the run of the tool does, and end as it ends. -/
theorem iterate_ready (tool : Tool) (request : Request) (site : Site) :
    Action.iterate (tool.advance request) 7 .ready site =
      .ok (.ended ((tool.run request).ending site)) ((tool.run request).after site) := by
  rw [Action.iterate_succ (tool.advance_ready request site)]
  cases staging : tool.stage request site with
  | error failure left =>
      have whole := run_of_begun (stageAndAttempt_of_error staging)
      rw [Action.ending_of_error staging, Action.after_of_error staging,
        ConversionPhase.afterStaging, iterate_ran 3, Action.ending_congr whole,
        Action.after_congr whole]
  | ok sideFile left =>
      have whole := run_of_begun (stageAndAttempt_of_ok staging)
      rw [Action.ending_of_ok staging, Action.after_of_ok staging, ConversionPhase.afterStaging,
        iterate_staged 0, Action.ending_congr whole, Action.after_congr whole]

end Tool

end GeoBridge
