import SmolVlaQgf.LauncherStages

/-!
# The runs of the launcher

Whatever the operator, the robot and the processes reply, nothing is switched on before the
stage that allows it, and every end goes through the shutdown.
-/

namespace SmolVlaQgf.LauncherRuns
open FieldText ShellScripts ShellScripts.Script RobotStack SmolvlaLauncher LauncherStages

/-! ## The stages -/

section Launch

variable {known : Set Fact}

def noPromise (_stop : Stop) : Set Fact := ∅

private theorem failing_noPromise : Failing noPromise := ⟨fun _ => rfl, fun _ _ => rfl⟩

private theorem orExit_on {x : Script StopSource Command ℕ} {shown : Set Fact} (status : ℕ)
    (h : Secures Holds (Needs false) false known x
      (fun status => if status = 0 then shown else known) noPromise) :
    Secures Holds (Needs false) true known (orExit x status) (fun _ => shown) noPromise := by
  refine .bind (.tested h) fun tried => .ite (fun hzero => ?_) fun _ => .exit (Set.empty_subset _)
  rw [if_pos hzero]
  exact .pure subset_rfl

private theorem orExit_keeps {command : Command} (status : ℕ) (hneeds : Needs false command = ∅) :
    Secures Holds (Needs false) true known (orExit (Script.run command) status)
      (fun _ => known) noPromise :=
  orExit_on status (run_shows failing_noPromise (hneeds ▸ Set.empty_subset _) fun _ h => Or.inl h)

private theorem confirm_on {prompt : Prompt} {expected : Text} (fact : Fact)
    (hneeds : Needs false (.ask prompt) ⊆ known)
    (hfact : Holds fact ⟨.ask prompt, .exits 0 expected⟩) :
    Secures Holds (Needs false) true known (confirm prompt expected)
      (fun _ => insert fact known) noPromise := by
  refine .bind (G := fun reply =>
    {g | g ∈ known ∨ reply.1 = 0 ∧ reply.2 = expected ∧ g = fact})
    (.capture hneeds ?_ fun _ _ h => h.elim) fun reply => ?_
  · rintro status output g (hg | ⟨rfl, rfl, rfl⟩)
    · exact Or.inl hg
    · exact Or.inr hfact
  · obtain ⟨status, answer⟩ := reply
    refine .bind (G := fun _ => {g | g ∈ known ∨ answer = expected ∧ g = fact})
      (.check (fun hstatus g hg => ?_) fun _ => Set.empty_subset _) fun _ => ?_
    · exact hg.imp_right fun h => ⟨hstatus, h⟩
    · refine .ite (fun hanswer => .pure ?_) fun _ => .exit (Set.empty_subset _)
      rintro g (rfl | hg)
      · exact Or.inr ⟨hanswer, rfl⟩
      · exact Or.inl hg

private theorem startServer_on :
    Secures Holds (Needs false) true known startServer (fun _ => known) noPromise := by
  refine .bind (line_run_keeps failing_noPromise rfl) fun _ => ?_
  refine .bind (line_run_keeps failing_noPromise rfl) fun _ => ?_
  refine .bind (orExit_keeps 1 rfl) fun _ => ?_
  exact line_run_keeps failing_noPromise rfl

private theorem startClient_on :
    Secures Holds (Needs false) true known startClient (fun _ => known) noPromise := by
  refine .bind (line_run_keeps failing_noPromise rfl) fun _ => ?_
  refine .bind (line_run_keeps failing_noPromise rfl) fun _ => ?_
  refine .bind (orExit_keeps 1 rfl) fun _ => ?_
  exact line_run_keeps failing_noPromise rfl

private theorem waitFirstChunk_on :
    Secures Holds (Needs false) true known waitFirstChunk
      (fun _ => insert .firstChunk known) noPromise :=
  .bind (orExit_keeps 1 rfl) fun _ => orExit_on 1
    (run_shows failing_noPromise (Set.empty_subset _)
      (shows_insert _ fun output => confirms_of_subset (List.Subset.refl _) output))

private theorem preArmSafetyCheck_on :
    Secures Holds (Needs false) true known preArmSafetyCheck
      (onlyZero (insert .robotAtRest known)) noPromise := by
  refine .bind (.tested (run_shows failing_noPromise (Set.empty_subset _)
    (shows_insert .robotAtRest fun output => ?_))) fun status =>
      .ite (fun h => .pure ?_) fun _ => .pure ?_
  · exact confirms_of_subset (by simp [errorFree]) output
  · rw [if_pos h]
    exact fun _ hfact => hfact.2
  · exact fun _ hfact => absurd hfact.1 Nat.one_ne_zero

private theorem emitLauncherEvent_on (event : StopSource → String) :
    Secures Holds (Needs false) true known (Script.line (emitLauncherEvent event))
      (fun _ => ∅) noPromise :=
  .line (G := fun _ => ∅) (.withVariables fun _ => (keeps_on failing_noPromise rfl).mono subset_rfl
    (fun _ => Set.empty_subset _) fun _ => subset_rfl) fun _ _ => subset_rfl

/-- Once the policy runs nothing is switched on any more. -/
theorem whileRunning_on (rounds : ℕ) (monitored : Bool) :
    Secures Holds (Needs false) true known (whileRunning rounds monitored)
      (fun _ => ∅) noPromise := by
  induction rounds generalizing monitored with
  | zero => exact .suspended
  | succ rounds ih =>
    refine .bind (capture_on failing_noPromise rfl) fun reply => .ite (fun _ => ?_) fun _ => ?_
    · refine .bind (G := fun _ => known) (.assign fun _ h => h) fun _ => ?_
      exact .bind (emitLauncherEvent_on _) fun _ => .pure subset_rfl
    · refine .ite (fun _ => ?_) fun _ => ih false
      refine .bind (.tested (keeps_on failing_noPromise rfl)) fun running => ?_
      refine .ite (fun _ => ih true) fun _ => ?_
      refine .bind (.tested (keeps_on failing_noPromise rfl)) fun completed => ?_
      refine .ite (fun _ => ?_) fun _ => ih false
      refine .bind (G := fun _ => known) (.assign fun _ h => h) fun _ => ?_
      exact .bind (emitLauncherEvent_on _) fun _ => .pure subset_rfl

private theorem stages_on (rounds : ℕ) :
    Secures Holds (Needs false) true known (stages rounds) (fun _ => ∅) noPromise := by
  have hlost := failing_noPromise
  refine .bind startServer_on fun _ => ?_
  refine .bind (line_stack hlost (startStack_on failing_unlessFailed)) fun _ => ?_
  refine .bind (line_shows hlost preArmSafetyCheck_on) fun _ => ?_
  refine .bind (confirm_on .armTyped ?_ rfl) fun _ => ?_
  · simp [Needs, Set.insert_subset_iff]
  refine .bind (line_stack hlost (prepareStack_on failing_unlessFailed (Or.inl rfl))) fun _ => ?_
  refine .bind (line_run_keeps hlost rfl) fun _ => ?_
  refine .bind startClient_on fun _ => ?_
  refine .bind waitFirstChunk_on fun _ => ?_
  refine .bind (line_stack hlost (enterServo_on failing_unlessFailed ?_ (Or.inl rfl))) fun _ => ?_
  · simp
  refine .bind (confirm_on .moveTyped ?_ rfl) fun _ => ?_
  · simp [Needs, Set.insert_subset_iff]
  refine .bind (line_stack hlost (enablePolicy_on failing_unlessFailed ?_ ?_)) fun _ => ?_
  · simp
  · simp
  exact .bind (line_run_keeps hlost rfl) fun _ => whileRunning_on rounds true

private theorem guardedStages_on (rounds : ℕ) :
    Secures Holds (Needs false) true known (guardedStages rounds) (fun _ => ∅) noPromise := by
  refine .bind (.tested (.orElse (keeps_on failing_noPromise rfl)
    (fun _ _ => keeps_on failing_noPromise rfl) subset_rfl)) fun running => ?_
  refine .ite (fun _ => .exit (Set.empty_subset _)) fun _ => ?_
  exact .bind (line_run_keeps failing_noPromise rfl) fun _ => stages_on rounds

private theorem handleSignal_on {number : ℕ} {handler : Script StopSource Command Unit}
    (h : handleSignal number = some handler) :
    Secures Holds (Needs false) true known handler (fun _ => ∅) fun _ => ∅ := by
  obtain ⟨name, -, rfl⟩ := Option.map_eq_some_iff.mp h
  exact .bind (G := fun _ => known) (.assign fun _ h => h) fun _ => emitLauncherEvent_on _

private theorem launcher_on (rounds : ℕ) :
    Secures Holds (Needs false) true ∅ (launcher rounds) (fun _ => ∅) noPromise := by
  refine .bind (line_run_keeps failing_noPromise rfl) fun _ => ?_
  refine .trapExit (guardedStages_on rounds) (fun _ _ h => handleSignal_on h) (fun status => ?_)
    (fun _ => rfl) (rounds + 1)
  exact (cleanup_off status).mono subset_rfl (fun _ => Set.empty_subset _)
    fun _ => Set.empty_subset _

end Launch

/-! ## Whole runs -/

def launch (rounds : ℕ) (replies : List Reply) :
    List (Event Command) × Option (Except Stop ℕ × StopSource) :=
  (launcher rounds true "normal_exit").play replies

/-- At every moment of a launch, each command has been issued after all that it needs had been
seen: the prompts after the checks, power, enable and gripper after `ARM`, each stage of the
robot after the confirmation of the one before it, the policy after `MOVE`. -/
theorem launch_guarded (rounds : ℕ) (replies : List Reply) :
    Guarded Holds (Needs false) (launch rounds replies).1 := by
  have hsecured := (launcher_on rounds "normal_exit" [] _ _ .nil (fun _ h => h.elim)
    (Dialogue.run_play _ replies)).1
  rw [List.nil_append] at hsecured
  exact hsecured

private theorem cleanup_settles {exitCode : ℕ} {source : StopSource} {events : List (Event Command)}
    {result : Except Stop ℕ × StopSource}
    (h : (cleanup exitCode).Run true source events (some result)) :
    Guarded Holds (Needs true) events ∧ ∀ fact ∈ shutdownTargets, Seen Holds fact events := by
  have hsecures : Secures Holds (Needs true) true ∅ (cleanup exitCode)
      (fun _ => shutdownTargets) fun _ => shutdownTargets := cleanup_off exitCode
  obtain ⟨hguarded, hattained⟩ := hsecures source [] events _ .nil (fun _ h => h.elim) h
  rw [List.nil_append] at hguarded hattained
  refine ⟨hguarded, ?_⟩
  obtain ⟨status | stop, source'⟩ := result
  · exact hattained
  · exact hattained

theorem ended_of_settled {events : List (Event Command)}
    (h : ∀ fact ∈ shutdownTargets, Seen Holds fact events)
    (hcut : ∀ event ∈ events, ¬CutsShort event) {target : Target}
    (htarget : target ≠ .service .gripperOpen) : ∃ event ∈ events, Ended target event := by
  have hmem : .settled target ∈ shutdownTargets := by
    cases target with
    | service service => cases service <;> simp_all [shutdownTargets, shutdownServices]
    | process process => cases process <;> simp [shutdownTargets]
  obtain ⟨event, hevent, hended | hshort⟩ := h _ hmem
  · exact ⟨event, hevent, hended⟩
  · exact absurd hshort (hcut event hevent)

/-- What a shutdown ends before it stops the server, in its order. -/
def endedFirst : List Target :=
  [.service .policyEnabled, .service .motionEnabled, .service .gripperEnabled,
    .service .robotEnabled, .service .poweredOn, .process .policyClient]

/-- Policy, motion, gripper, robot, power, client and server have been ended one after the
other. -/
def EndsInOrder (events : List (Event Command)) : Prop :=
  ∃ endings : List (Event Command), endings.Sublist events ∧
    List.Forall₂ Ended (endedFirst ++ [.process .policyServer]) endings

theorem needs_of_ended {target : Target} {event : Event Command} (h : Ended target event) :
    turnedToBefore target ⊆ Needs true event.command := by
  cases target with
  | service service =>
    rcases h with hcall | ⟨status, services, rfl, -⟩
    · rw [hcall]
      exact subset_rfl
    · exact subset_rfl
  | process process =>
    rw [show event.command = .stopProcess process from h]
    exact subset_rfl

private theorem endsInOrder_of_guarded {events : List (Event Command)}
    (hguarded : Guarded Holds (Needs true) events)
    (hseen : ∀ fact ∈ shutdownTargets, Seen Holds fact events)
    (hcut : ∀ event ∈ events, ¬CutsShort event) : EndsInOrder events := by
  have hended : ∀ target, ∀ event ∈ events, Holds (.settled target) event → Ended target event :=
    fun _ event hevent h => h.resolve_right (hcut event hevent)
  have hchain : (endedFirst.map Fact.settled ++ [Fact.settled (.process .policyServer)]).IsChain
      fun fact next => ∀ event ∈ events, Holds next event → fact ∈ Needs true event.command := by
    simp only [endedFirst, List.map_cons, List.map_nil, List.cons_append, List.nil_append,
      List.isChain_cons_cons, List.isChain_singleton, and_true]
    refine ⟨?_, ?_, ?_, ?_, ?_, ?_⟩ <;> intro event hevent h <;>
      apply needs_of_ended (hended _ event hevent h) <;>
      simp [turnedToBefore, settledBefore, settledBeforeStop, shutdownServices]
  obtain ⟨endings, hsublist, hall⟩ := hguarded.inOrder hchain (hseen _ (Or.inl rfl))
  have hmap : endedFirst.map Fact.settled ++ [Fact.settled (.process .policyServer)] =
      (endedFirst ++ [Target.process .policyServer]).map Fact.settled := rfl
  rw [hmap, List.forall₂_map_left_iff, List.forall₂_iff_get] at hall
  refine ⟨endings, hsublist, List.forall₂_iff_get.mpr ⟨hall.1, fun i hi hi' => ?_⟩⟩
  exact hended _ _ (hsublist.subset (List.get_mem endings ⟨i, hi'⟩)) (hall.2 i hi hi')

def succeed (n : ℕ) : List Reply := List.replicate n (.exits 0 [])

def fail (n : ℕ) : List Reply := List.replicate n (.exits 1 [])

def reported : Reply := .exits 0 "success=True".toList

/-- No launcher runs, the server and the observation stack come up, and `ARM` is typed. -/
def startReplies : List Reply :=
  succeed 1 ++ fail 2 ++ succeed 6 ++ fail 3 ++ succeed 19 ++ [.exits 0 "ARM".toList]

/-- The robot is powered and enabled, the first chunk comes, and `MOVE` is typed. -/
def moveReplies : List Reply :=
  succeed 1 ++ fail 2 ++ [reported] ++ succeed 1 ++ [reported] ++ succeed 1 ++
    [reported, reported] ++ succeed 12 ++ [reported] ++ succeed 2 ++ [.exits 0 "MOVE".toList]

/-- The policy is enabled, and `STOP` is typed. -/
def stopReplies : List Reply :=
  succeed 1 ++ [reported] ++ succeed 2 ++ [.exits 0 "STOP".toList] ++ succeed 1

/-- The shutdown finds the service of the policy, the arm and the gripper. -/
def shutdownReplies : List Reply :=
  succeed 4 ++ [.exits 0 "/smolvla/set_enabled".toList, reported] ++ succeed 1 ++ [reported] ++
    succeed 1 ++ [reported] ++ succeed 1 ++ [reported, reported] ++ succeed 8

def stoppedReplies : List Reply := startReplies ++ moveReplies ++ stopReplies ++ shutdownReplies

/-- The replies with which the launcher finds a running server, or else a running client. -/
def FindsRunning (replies : List Reply) : Prop :=
  ∃ loaded first rest, replies = .exits 0 loaded :: .exits 0 first :: rest ∨
    ∃ status second, replies =
      .exits 0 loaded :: .exits (status + 1) first :: .exits 0 second :: rest

/-- The replies to a launcher that finds the server of another one running. -/
def refusedReplies : List Reply := succeed 2 ++ shutdownReplies

end SmolVlaQgf.LauncherRuns
