import SmolVlaQgf.FieldText
import SmolVlaQgf.ShellScripts

/-!
# The robot stack script

`ubuntu_smolvla_stack.sh`: one action of it starts cameras, arm and gripper, prepares the
robot, enters servo mode, moves the policy gate or stops everything. Pings, processes, ROS
services and status texts are commands; a polling loop is one command. Of what only prints, the
lines whose failure can keep a shutdown from going on are kept.
-/

namespace SmolVlaQgf.RobotStack
open FieldText ShellScripts ShellScripts.Script

inductive Component where
  | cameras
  | arm
  | gripper
  deriving DecidableEq

inductive Service where
  | policyEnabled
  | motionEnabled
  | gripperEnabled
  | gripperOpen
  | robotEnabled
  | poweredOn
  deriving DecidableEq

def Service.name : Service → String
  | .policyEnabled => "/smolvla/set_enabled"
  | .motionEnabled => "/right_arm/set_motion_enabled"
  | .gripperEnabled => "/right_arm/set_gripper_enabled"
  | .gripperOpen => "/right_arm/set_gripper_open"
  | .robotEnabled => "/right_arm/set_robot_enabled"
  | .poweredOn => "/right_arm/set_powered_on"

/-- The topics `wait_for_string_topic.py` listens to. -/
inductive StatusTopic where
  | safetyStatus
  | gripperStatus
  | policyStatus
  deriving DecidableEq

inductive Process where
  | policyServer
  | policyClient
  deriving DecidableEq

inductive Prompt where
  | arm
  | move
  deriving DecidableEq

/-- The commands of the stack script, and of the launcher that runs it; `listServices` lists
all services, to look for one of them. -/
inductive Command where
  | configReadable
  | pingController
  | gripperDeviceExists
  | findConflicts
  | findGripperOwners
  | startComponent (component : Component)
  | stopComponent (component : Component)
  | componentAlive (component : Component)
  | sleep (seconds : ℕ)
  | waitService (service : Service) (timeout : ℕ)
  | checkCameraFps
  | listServices (wanted : Service)
  | callService (service : Service) (value : Bool)
  | waitString (topic : StatusTopic) (timeout : ℕ) (contains : List String)
  | loadEnvironment
  | processAlive (process : Process)
  | clearLogs
  | startProcess (process : Process)
  | stopProcess (process : Process)
  | waitForServer
  | waitForJointStates
  | startLogStreams
  | ask (prompt : Prompt)
  | startCompletionMonitor
  | pollOperator
  | completionMonitorAlive
  | waitCompletionMonitor
  | stopLogStreams
  | appendEvent (event : String)
  | print
  | waitChild
  deriving DecidableEq

variable {V : Type}

/-! ## Helpers -/

/-- The class `[[:space:]]` -/
def isBlank (c : Char) : Bool := c = ' ' || (9 ≤ c.toNat && c.toNat ≤ 13)

/-- The regular expression `success[=:][[:space:]]*(true|True)` at the start of a text. -/
def successAt (text : Text) : Bool :=
  "success".toList.isPrefixOf text &&
    match text.drop 7 with
    | [] => false
    | c :: rest =>
        (c = '=' || c = ':') &&
          ("true".toList.isPrefixOf (rest.dropWhile isBlank) ||
            "True".toList.isPrefixOf (rest.dropWhile isBlank))

/-- The `grep` of `call_bool`, line by line. -/
def reportsSuccess (output : Text) : Bool :=
  (output.splitOn '\n').any fun line => line.tails.any successAt

def alive (component : Component) : Script V Command ℕ := run (.componentAlive component)

def requireAlive (component : Component) : Script V Command ℕ := do
  let status ← tested (alive component)
  if status = 0 then return 0 else return 1

def callBool (service : Service) (value : Bool) : Script V Command ℕ := do
  let (status, output) ← capture (.callService service value)
  if status = 0 ∧ reportsSuccess output then return 0 else return 1

def listed (service : Service) (services : Text) : Bool :=
  decide (service.name.toList ∈ services.splitOn '\n')

def serviceAvailable (service : Service) : Script V Command ℕ := do
  let (status, services) ← capture (.listServices service)
  if status = 0 ∧ listed service services then return 0 else return 1

def tryBool (service : Service) (value : Bool) : Script V Command ℕ := do
  let status ← tested (serviceAvailable service)
  if status = 0 then orElse (callBool service value) (return 0) else
  line (run .print)
  return 0

def waitStatus (timeout : ℕ) (contains : List String) : Script V Command ℕ :=
  run (.waitString .safetyStatus timeout contains)

def waitGripperStatus (timeout : ℕ) (contains : List String) : Script V Command ℕ :=
  run (.waitString .gripperStatus timeout contains)

/-- `$(...)` drops newlines at the end. -/
def preflight : Script V Command ℕ := do
  let readable ← tested (run .configReadable)
  if readable ≠ 0 then return 1 else
  let reachable ← tested (run .pingController)
  if reachable ≠ 0 then return 1 else
  let device ← tested (run .gripperDeviceExists)
  if device ≠ 0 then return 1 else
  let (_, conflicts) ← capture .findConflicts
  if !conflicts.all (· = '\n') then return 1 else
  let (_, owners) ← capture .findGripperOwners
  if !owners.all isBlank then return 1 else return 0

/-! ## The actions -/

/-- The block tested by `start_stack`, up to its last line; `set -e` is ignored in it. -/
def observationChecks : List (Script V Command ℕ) :=
  [run (.sleep 2), requireAlive .cameras, requireAlive .arm, requireAlive .gripper,
    run (.waitService .poweredOn 20), run (.waitService .robotEnabled 20),
    run (.waitService .motionEnabled 20), run (.waitService .gripperEnabled 20)]

def startStack : Script V Command ℕ := do
  let running ← tested (orElse (orElse (alive .arm) (alive .gripper)) (alive .cameras))
  if running = 0 then exit 3 else
  line preflight
  line (run (.startComponent .cameras))
  line (run (.startComponent .arm))
  line (run (.startComponent .gripper))
  let status ← tested (lines (observationChecks ++ [run .checkCameraFps]))
  if status = 0 then return 0 else
  line (run (.stopComponent .gripper))
  line (run (.stopComponent .arm))
  line (run (.stopComponent .cameras))
  return 1

/-- The fields of a robot without an error, an emergency stop or a protective stop. -/
def errorFree : List String :=
  ["robot_error_code=0", "robot_emergency_stop=0", "robot_protective_stop=0"]

/-- The `else` branches of `prepare_stack`. -/
def powerOn : Script V Command ℕ := do
  line (callBool .poweredOn true)
  waitStatus 20 ("robot_powered_on=1" :: errorFree)

def enableRobot : Script V Command ℕ := do
  line (orElse (waitStatus 3 (["robot_powered_on=1", "robot_enabled=0"] ++ errorFree)) powerOn)
  line (callBool .robotEnabled true)
  waitStatus 20 ("robot_enabled=1" :: errorFree)

def openGripper : Script V Command ℕ := do
  line (callBool .gripperEnabled true)
  line (callBool .gripperOpen true)
  waitGripperStatus 10 ["enabled=1", "requested_open=1"]

def prepareStack : Script V Command ℕ := do
  line (orElse (waitStatus 3
    (["robot_powered_on=1", "robot_enabled=1", "motion_enabled=0", "servo_mode_entered=0"] ++
      errorFree)) enableRobot)
  openGripper

def enterServo : Script V Command ℕ := do
  line (run (.waitService .policyEnabled 20))
  line (waitStatus 10 (["robot_powered_on=1", "robot_enabled=1"] ++ errorFree))
  line (callBool .motionEnabled true)
  waitStatus 15 ("motion_enabled=1" :: errorFree)

def armStack : Script V Command ℕ := do
  line prepareStack
  enterServo

def enablePolicy : Script V Command ℕ := callBool .policyEnabled true

def switchOff (component : Component) (service : Service) : Script V Command ℕ := do
  let status ← tested (alive component)
  if status = 0 then orElse (callBool service false) (return 0) else tryBool service false

def disablePolicy : Script V Command ℕ := do
  line (tryBool .policyEnabled false)
  switchOff .arm .motionEnabled

def resetRound : Script V Command ℕ := do
  line (tryBool .policyEnabled false)
  line (orElse (callBool .motionEnabled false) (return 0))
  line (waitStatus 10 (["robot_powered_on=1", "robot_enabled=1"] ++ errorFree ++
    ["motion_enabled=0"]))
  openGripper

/-- The arm is asked once for both of its last two services. -/
def disableRobot : Script V Command ℕ := do
  let status ← tested (alive .arm)
  if status = 0 then
    line (orElse (callBool .robotEnabled false) (return 0))
    orElse (callBool .poweredOn false) (return 0)
  else
    line (tryBool .robotEnabled false)
    tryBool .poweredOn false

def stopStack : Script V Command ℕ := do
  line (tryBool .policyEnabled false)
  line (switchOff .arm .motionEnabled)
  line (switchOff .gripper .gripperEnabled)
  line disableRobot
  line (run (.stopComponent .gripper))
  line (run (.stopComponent .arm))
  run (.stopComponent .cameras)

inductive Action where
  | start
  | prepare
  | servo
  | arm
  | enablePolicy
  | disablePolicy
  | stop
  | resetRound
  deriving DecidableEq

def Action.body : Action → Script V Command ℕ
  | .start => startStack
  | .prepare => prepareStack
  | .servo => enterServo
  | .arm => armStack
  | .enablePolicy => RobotStack.enablePolicy
  | .disablePolicy => RobotStack.disablePolicy
  | .stop => stopStack
  | .resetRound => RobotStack.resetRound

/-- The script, up to its status report and its usage text. -/
def stackScript (action : Action) : Script Unit Command ℕ := do
  line (run .loadEnvironment)
  action.body

def stack (action : Action) : Script V Command ℕ := child .waitChild (stackScript action)

end SmolVlaQgf.RobotStack
