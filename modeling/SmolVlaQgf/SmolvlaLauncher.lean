import SmolVlaQgf.RobotStack

/-!
# The staged launcher

`run_smolvla_orin.sh`: the policy server and the observation stack first, power and enable
after `ARM`, the policy after `MOVE`, and a trap that stops everything on any exit and on `INT`,
`TERM` and `HUP`. The loop of the running policy, and the signals that interrupt the handler of
another one, are followed for a number of rounds.
-/

namespace SmolVlaQgf.SmolvlaLauncher
open FieldText ShellScripts ShellScripts.Script RobotStack

/-- The variable `STOP_SOURCE` -/
abbrev StopSource := String

def emitLauncherEvent (event : StopSource → String) : Script StopSource Command ℕ :=
  withVariables fun source => run (.appendEvent (event source))

def preArmSafetyCheck : Script StopSource Command ℕ := do
  let status ← tested (run (.waitString .safetyStatus 4
    ["connected=1", "feedback_valid=1", "robot_powered_on=0", "robot_enabled=0",
      "robot_emergency_stop=0", "robot_protective_stop=0", "robot_socket_connected=1",
      "robot_error_code=0", "motion_enabled=0"]))
  if status = 0 then return 0 else return 1

/-- `... || exit 1`, as after a process that has died or a status that has not come. -/
def orExit (x : Script StopSource Command ℕ) (status : ℕ) : Script StopSource Command Unit := do
  let tried ← tested x
  if tried = 0 then return () else exit status

/-- A prompt that only one answer passes; the end of input is a failing line. -/
def confirm (prompt : Prompt) (expected : Text) : Script StopSource Command Unit := do
  let (status, answer) ← capture (.ask prompt)
  check status
  if answer = expected then return () else exit 0

def startServer : Script StopSource Command Unit := do
  line (run (.startProcess .policyServer))
  line (run (.sleep 1))
  orExit (run (.processAlive .policyServer)) 1
  line (run .waitForServer)

def startClient : Script StopSource Command Unit := do
  line (run (.startProcess .policyClient))
  line (run (.sleep 2))
  orExit (run (.processAlive .policyClient)) 1
  line (run .startLogStreams)

/-- The status of a client whose first chunk is complete and whose gate is closed. -/
def firstChunkReady : List String :=
  ["connected=1", "action_enabled=0", "observation_ready=1", "policy_chunk_ready=1",
    "action_queue_size=50", "expected_action_chunk_size=50"]

def waitFirstChunk : Script StopSource Command Unit := do
  orExit (run (.waitString .policyStatus 180
    ["connected=1", "action_enabled=0", "observation_ready=1"])) 1
  orExit (run (.waitString .policyStatus 180 firstChunkReady)) 1

/-- The monitor has ended: it saw the completion, or it failed and only `STOP` remains. -/
def completionMonitorEnded (next : Script StopSource Command ℕ) :
    Script StopSource Command ℕ := do
  let completed ← tested (run .waitCompletionMonitor)
  if completed = 0 then
    assign fun _ => "task_completed_returned_home"
    line (emitLauncherEvent fun _ => "event=task_completed source=returned_home")
    return 0
  else next

/-- The loop of the running policy; `monitored` while the completion monitor is looked at. -/
def whileRunning : ℕ → Bool → Script StopSource Command ℕ
  | 0, _ => suspended
  | rounds + 1, monitored => do
      let (status, answer) ← capture .pollOperator
      if status = 0 ∧ answer = "STOP".toList then
        assign fun _ => "operator_typed_stop"
        line (emitLauncherEvent fun _ => "event=operator_stop source=typed_STOP")
        return 0
      else if monitored then
        let running ← tested (run .completionMonitorAlive)
        if running = 0 then whileRunning rounds true
        else completionMonitorEnded (whileRunning rounds false)
      else whileRunning rounds false

/-- From the observation stack to the policy. -/
def stages (rounds : ℕ) : Script StopSource Command ℕ := do
  startServer
  line (stack .start)
  line preArmSafetyCheck
  confirm .arm "ARM".toList
  line (stack .prepare)
  line (run .waitForJointStates)
  startClient
  waitFirstChunk
  line (stack .servo)
  confirm .move "MOVE".toList
  line (stack .enablePolicy)
  line (run .startCompletionMonitor)
  whileRunning rounds true

/-- The script after its traps are set: a second launcher is refused. -/
def guardedStages (rounds : ℕ) : Script StopSource Command ℕ := do
  let running ← tested
    (orElse (run (.processAlive .policyServer)) (run (.processAlive .policyClient)))
  if running = 0 then exit 3 else
  line (run .clearLogs)
  stages rounds

def trappedSignal (number : ℕ) : Option String :=
  if number = 2 then some "INT" else if number = 15 then some "TERM"
  else if number = 1 then some "HUP" else none

/-- `handle_signal`, which the traps run; its exit code is that of a process so killed. -/
def handleSignal (number : ℕ) : Option (Script StopSource Command Unit) :=
  (trappedSignal number).map fun name => do
    assign fun _ => "signal_" ++ name
    line (emitLauncherEvent fun source => "event=operator_interrupt source=" ++ source)

/-- The excerpts of the logs at the end stay out. -/
def cleanup (exitCode : ℕ) : Script StopSource Command ℕ := do
  line (run .print)
  line (emitLauncherEvent fun source => "event=launcher_cleanup source=" ++ source)
  line (run .print)
  line (orElse (stack .stop) (return 0))
  line (run (.stopProcess .policyClient))
  line (run (.stopProcess .policyServer))
  line (orElse (run .stopLogStreams) (return 0))
  line (run .print)
  exit exitCode

def launcher (rounds : ℕ) : Script StopSource Command ℕ := do
  line (run .loadEnvironment)
  trapExit (rounds + 1) handleSignal cleanup (guardedStages rounds)

end SmolVlaQgf.SmolvlaLauncher
