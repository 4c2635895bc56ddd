import SmolVlaQgf.GuidedPolicies

/-!
# The policy server with guidance

`SendPolicyInstructions` loads a policy with the code of LeRobot, then checks its environment and
the checkpoint of the critic, and installs the critic. The policy is in place before the checks: if
one of them fails, the client gets an error, but chunks are served by the policy without guidance
until instructions are accepted.
-/

namespace SmolVlaQgf.QgfPolicyServer
open ExactFloats QGuidance HookedComputations QgfInstallation GuidedPolicies

variable {K M I B N R : Type} {h n d : ℕ}

/-! ## Instructions -/

structure Environment where
  criticPath : Option String
  beta : Option String
  gradClipNorm : Option String

/-- What is read of a checkpoint; building the critic may fail. -/
structure Checkpoint (K : Type) (h : ℕ) where
  criticArch : Option String
  actionDim : ℤ
  critic : Except QgfError (VisualTransformerCritic K h)

/-- The files, and the texts of Python; `float` has no value where it raises. -/
structure Python (K : Type) (h : ℕ) where
  isFile : String → Bool
  pathText : String → String
  reprText : Option String → String
  float : String → Option (PyFloat K)
  floatText : PyFloat K → String
  load : String → Except QgfError (Checkpoint K h)

/-- What the code of LeRobot does with instructions: a policy is loaded, possibly before an error
is raised, or they are ignored. -/
inductive Loading (M : Type) where
  | loaded (model : M) (rtcEnabled : Bool)
  | raisedAfter (model : M) (rtcEnabled : Bool)
  | raised
  | ignored

/-- What a server guides its policy with. -/
structure Guidance (K : Type) (h : ℕ) where
  critic : VisualTransformerCritic K h
  beta : PyFloat K
  gradClipNorm : PyFloat K

section Instructions

variable [Field K] [LinearOrder K] (python : Python K h)

/-- `_positive_env_float` -/
def positiveEnvFloat (name : String) (value : Option String) : Except QgfError (PyFloat K) :=
  match value with
  | none => .error (.runtimeError (name ++ " must be set for the QGF policy server."))
  | some text =>
      match python.float text with
      | none => .error (.runtimeError (name ++ " must be a finite positive number."))
      | some value =>
          if value.le (.finite 0) then
            .error (.runtimeError
              (name ++ " must be positive, got " ++ python.floatText value ++ "."))
          else .ok value

/-- NaN and infinity are accepted, since neither is at most zero. -/
theorem positiveEnvFloat_eq_ok_iff {name : String} {given : Option String} {value : PyFloat K} :
    positiveEnvFloat python name given = .ok value ↔
      given.bind python.float = some value ∧ value.le (.finite 0) = false := by
  cases given with
  | none => simp [positiveEnvFloat]
  | some text =>
    rw [positiveEnvFloat, Option.bind_some]
    cases python.float text with
    | none => simp
    | some number =>
      cases hle : number.le (.finite 0) with
      | true =>
        have hne : number = value → value.le (.finite 0) = true := fun h => h ▸ hle
        simpa [hle] using hne
      | false =>
        have hle' : number = value → value.le (.finite 0) = false := fun h => h ▸ hle
        simpa [hle] using hle'

omit [Field K] [LinearOrder K] in
/-- `load_action_chunk_critic` -/
def loadActionChunkCritic (path : String) :
    Except QgfError (VisualTransformerCritic K h × Checkpoint K h) := do
  let checkpoint ← python.load path
  let criticArch := checkpoint.criticArch.getD "mlp"
  if criticArch ∉ ["mlp", "transformer", "visual_transformer"] then
    throw (.guidance (.valueError
      ("Unsupported critic_arch=" ++ python.reprText (some criticArch) ++ ".")))
  let critic ← checkpoint.critic
  return (critic, checkpoint)

/-- The checks after a policy has been loaded. -/
def serverGuidance (environment : Environment) : Except QgfError (Guidance K h) := do
  let criticPath := environment.criticPath.getD ""
  if ¬python.isFile criticPath then
    throw (.runtimeError ("SMOLVLA_QGF_CRITIC_PATH must point to the deployed " ++
      "single-critic checkpoint; got " ++ python.pathText criticPath ++ "."))
  let beta ← positiveEnvFloat python "SMOLVLA_QGF_BETA" environment.beta
  let gradClipNorm ← positiveEnvFloat python "SMOLVLA_QGF_GRAD_CLIP_NORM" environment.gradClipNorm
  let (critic, metadata) ← loadActionChunkCritic python criticPath
  if metadata.criticArch ≠ some "visual_transformer" then
    throw (.runtimeError ("The real-robot QGF server requires a visual_transformer critic, not " ++
      python.reprText metadata.criticArch ++ "."))
  if metadata.actionDim ≠ 8 then
    throw (.runtimeError "The deployed Armstrong critic must use eight action channels.")
  return ⟨critic, beta, gradClipNorm⟩

omit [LinearOrder K] in
def serverArgs (guidance : Guidance K h) (adapter : ℕ) : InstallArgs K h where
  critic := .adapter adapter
  config := ⟨guidance.beta, some guidance.gradClipNorm, .finite 0, .finite 0⟩
  criticActionDim := 8
  taskFeatureDim := 0
  taskFeatureSource := .tokens

end Instructions

/-! ## The server -/

/-- The objects that have been made, with the numbers of policies and adapters. -/
structure Server (K M : Type) (h n : ℕ) where
  world : World K M h n
  critics : ℕ → VisualTransformerCritic K h
  policy : Option ℕ
  policies : ℕ
  adapters : ℕ

/-- A policy as `from_pretrained` returns it. -/
def loadedPolicy (model : M) (rtcEnabled : Bool) : SmolVLAPolicy K M h where
  model := model
  getActionChunk := .original
  rtcEnabledMethod := .original
  gafOriginalGetActionChunk := none
  gafOriginalRtcEnabled := none
  rtcProcessor := .original
  configRtcEnabled := rtcEnabled
  modelConfigRtcEnabled := rtcEnabled
  modelRtcProcessor := .original
  gafQgfProcessor := none
  gafVisualCritic := none

namespace Server

variable (s : Server K M h n)

/-- `self.policy = ...` -/
def setPolicy (model : M) (rtcEnabled : Bool) : Server K M h n :=
  { s with
    world := s.world.setPolicy s.policies (loadedPolicy model rtcEnabled)
    policy := some s.policies
    policies := s.policies + 1 }

/-- The policies after the code of LeRobot, and whether it has returned. -/
def load : Loading M → Bool × Server K M h n
  | .loaded model rtcEnabled => (true, s.setPolicy model rtcEnabled)
  | .raisedAfter model rtcEnabled => (false, s.setPolicy model rtcEnabled)
  | .raised => (false, s)
  | .ignored => (true, s)

def newAdapter (critic : VisualTransformerCritic K h) : Server K M h n :=
  { s with
    critics := fun object => if object = s.adapters then critic else s.critics object
    world := { s.world with visualTokens := fun object =>
      if object = s.adapters then none else s.world.visualTokens object }
    adapters := s.adapters + 1 }

end Server

inductive Request (K M B N : Type) (n : ℕ) where
  | instructions (environment : Environment) (loading : Loading M)
  | chunk (batch : PolicyBatch K B n) (noise : Option N)

inductive Response (R : Type) where
  | instructions (result : Except QgfError Unit)
  | chunk (result : Except QgfError R)

section Requests

variable [Field K] [LinearOrder K] (smolvla : SmolVLA K M I B N R h n d) (python : Python K h)

/-- `SendPolicyInstructions` -/
def sendPolicyInstructions (environment : Environment) (loading : Loading M)
    (s : Server K M h n) : Except QgfError Unit × Server K M h n :=
  match s.load loading with
  | (false, s) => (.error .raised, s)
  | (true, s) =>
      match serverGuidance python environment with
      | .error error => (.error error, s)
      | .ok guidance =>
          match s.policy with
          | none => (.error .raised, s)
          | some p =>
              (.ok (), { s.newAdapter guidance.critic with
                world := installSmolvlaQgf p (serverArgs guidance s.adapters)
                  (s.newAdapter guidance.critic).world })

def serverMachine : Machine (Request K M B N n) (Response R) (Server K M h n) := fun request s =>
  match request with
  | .instructions environment loading =>
      let (result, s) := sendPolicyInstructions python environment loading s
      (.instructions result, s)
  | .chunk batch noise =>
      match s.policy with
      | none => (.chunk (.error .raised), s)
      | some p =>
          let (result, world) := getActionChunk smolvla s.critics p batch noise s.world
          (.chunk result, { s with world := world })

end Requests

/-! ## What is served -/

structure ServedPolicy (K M : Type) (h : ℕ) where
  model : M
  rtcEnabled : Bool
  guidance : Option (Guidance K h)

/-- The served policy after the code of LeRobot, and whether it has returned. -/
def loadServed (served : Option (ServedPolicy K M h)) :
    Loading M → Bool × Option (ServedPolicy K M h)
  | .loaded model rtcEnabled => (true, some ⟨model, rtcEnabled, none⟩)
  | .raisedAfter model rtcEnabled => (false, some ⟨model, rtcEnabled, none⟩)
  | .raised => (false, served)
  | .ignored => (true, served)

section Served

variable [Field K] [LinearOrder K] (smolvla : SmolVLA K M I B N R h n d) (python : Python K h)

/-- Instructions load a policy without guidance; then it is guided if all checks pass. -/
def serveInstructions (environment : Environment) (loading : Loading M)
    (served : Option (ServedPolicy K M h)) :
    Except QgfError Unit × Option (ServedPolicy K M h) :=
  match loadServed served loading with
  | (false, served) => (.error .raised, served)
  | (true, served) =>
      match serverGuidance python environment, served with
      | .error error, served => (.error error, served)
      | .ok _, none => (.error .raised, none)
      | .ok guidance, some policy => (.ok (), some { policy with guidance := some guidance })

def servedChunk (served : Option (ServedPolicy K M h)) (batch : PolicyBatch K B n)
    (noise : Option N) : Except QgfError R :=
  match served with
  | none => .error .raised
  | some policy =>
      match policy.guidance with
      | none => unguidedChunk smolvla (loadedPolicy policy.model policy.rtcEnabled) batch noise
      | some guidance => (guidedChunk smolvla (fun _ => guidance.critic) policy.model
          (serverArgs guidance 0) batch noise).1

def servedMachine :
    Machine (Request K M B N n) (Response R) (Option (ServedPolicy K M h)) := fun request served =>
  match request with
  | .instructions environment loading =>
      let (result, served) := serveInstructions python environment loading served
      (.instructions result, served)
  | .chunk batch noise => (.chunk (servedChunk smolvla served batch noise), served)

end Served

/-! ## Refinement -/

section Refinement

variable [Field K] [LinearOrder K] {smolvla : SmolVLA K M I B N R h n d} {python : Python K h}

variable {s : Server K M h n} {served : Option (ServedPolicy K M h)}
  {fresh : ℕ → SmolVLAPolicy K M h} {installations : Installations K h}

omit [LinearOrder K] in
def GuidedBy (critics : ℕ → VisualTransformerCritic K h) (adapters : ℕ)
    (own : List (Installation K h)) : Option (Guidance K h) → Prop
  | none => own = []
  | some guidance => ∃ past diagnostics adapter, adapter < adapters ∧
      critics adapter = guidance.critic ∧ own = past ++ [⟨serverArgs guidance adapter, diagnostics⟩]

structure Serves (s : Server K M h n) (fresh : ℕ → SmolVLAPolicy K M h)
    (installations : Installations K h) (served : Option (ServedPolicy K M h)) : Prop where
  allFresh : ∀ p, Fresh (fresh p)
  represents : Represents fresh s.world installations
  unused : ∀ p, s.policies ≤ p → installations p = []
  none_iff : s.policy = none ↔ served = none
  current : ∀ p policy, s.policy = some p → served = some policy → p < s.policies ∧
    fresh p = loadedPolicy policy.model policy.rtcEnabled ∧
    GuidedBy s.critics s.adapters (installations p) policy.guidance

def IsServed (s : Server K M h n) (served : Option (ServedPolicy K M h)) : Prop :=
  ∃ fresh installations, Serves s fresh installations served

omit [LinearOrder K] in
/-- A policy that has been loaded is served without guidance. -/
theorem serves_setPolicy (hserves : Serves s fresh installations served) (model : M)
    (rtcEnabled : Bool) :
    IsServed (s.setPolicy model rtcEnabled) (some ⟨model, rtcEnabled, none⟩) := by
  refine ⟨fun p => if p = s.policies then loadedPolicy model rtcEnabled else fresh p,
    installations, ?_, ?_, ?_, ?_, ?_⟩
  · intro p
    by_cases hp : p = s.policies
    · rw [if_pos hp]
      exact ⟨rfl, rfl, rfl, rfl⟩
    · rw [if_neg hp]
      exact hserves.allFresh p
  · intro p
    have hdescribes := hserves.represents p
    by_cases hp : p = s.policies
    · have hunused := hserves.unused p (hp ▸ Nat.le_refl _)
      rw [hunused] at hdescribes ⊢
      generalize hempty : ([] : List (Installation K h)) = own at hdescribes
      cases hdescribes with
      | fresh hpolicy hprocessors =>
        refine .fresh ?_ hprocessors
        simp [Server.setPolicy, World.setPolicy, hp]
      | guided => simp at hempty
    · simpa [Server.setPolicy, World.setPolicy, hp] using hdescribes
  · exact fun p hp => hserves.unused p (Nat.le_of_succ_le hp)
  · simp [Server.setPolicy]
  · intro p policy hp hpolicy
    obtain rfl : s.policies = p := Option.some.inj hp
    cases hpolicy
    exact ⟨Nat.lt_succ_self _, if_pos rfl, hserves.unused _ (Nat.le_refl _)⟩

omit [LinearOrder K] in
private theorem load_agree (hserved : IsServed s served) (loading : Loading M) :
    Agree IsServed (s.load loading) (loadServed served loading) := by
  obtain ⟨fresh, installations, hserves⟩ := hserved
  cases loading with
  | loaded model rtcEnabled => exact ⟨rfl, serves_setPolicy hserves model rtcEnabled⟩
  | raisedAfter model rtcEnabled => exact ⟨rfl, serves_setPolicy hserves model rtcEnabled⟩
  | raised => exact ⟨rfl, fresh, installations, hserves⟩
  | ignored => exact ⟨rfl, fresh, installations, hserves⟩

omit [LinearOrder K] in
theorem serves_install {p : ℕ} {policy : ServedPolicy K M h}
    (hserves : Serves s fresh installations (some policy)) (hp : s.policy = some p)
    (guidance : Guidance K h) :
    IsServed { s.newAdapter guidance.critic with
      world := installSmolvlaQgf p (serverArgs guidance s.adapters)
        (s.newAdapter guidance.critic).world }
      (some { policy with guidance := some guidance }) := by
  obtain ⟨hlt, hfresh, -⟩ := hserves.current p policy hp rfl
  have hrep : Represents fresh (s.newAdapter guidance.critic).world installations :=
    hserves.represents
  refine ⟨fresh, installations.set p (installations p ++ [⟨serverArgs guidance s.adapters, []⟩]),
    hserves.allFresh, represents_install hserves.allFresh hrep p _, ?_, ?_, ?_⟩
  · intro q hq
    have hne : q ≠ p := by
      rintro rfl
      exact absurd hlt (Nat.not_lt.mpr hq)
    rw [Installations.set, if_neg hne]
    exact hserves.unused q hq
  · have hpolicy : (s.newAdapter guidance.critic).policy = some p := hp
    simp [hpolicy]
  · intro q served hq hserved
    obtain rfl : p = q := Option.some.inj (hp.symm.trans hq)
    cases hserved
    exact ⟨hlt, hfresh, installations p, [], s.adapters, Nat.lt_succ_self _, if_pos rfl,
      if_pos rfl⟩

private theorem instructions_agree (hserved : IsServed s served) (environment : Environment)
    (loading : Loading M) :
    Agree IsServed (sendPolicyInstructions python environment loading s)
      (serveInstructions python environment loading served) := by
  obtain ⟨hreturned, hloaded⟩ := load_agree hserved loading
  rw [sendPolicyInstructions, serveInstructions]
  generalize s.load loading = first at hreturned hloaded ⊢
  generalize loadServed served loading = second at hreturned hloaded ⊢
  obtain ⟨returned, s⟩ := first
  obtain ⟨returned', served⟩ := second
  obtain rfl : returned = returned' := hreturned
  cases returned with
  | false => exact ⟨rfl, hloaded⟩
  | true =>
    cases serverGuidance python environment with
    | error error => exact ⟨rfl, hloaded⟩
    | ok guidance =>
      obtain ⟨fresh, installations, hserves⟩ := hloaded
      dsimp only at hserves ⊢
      cases hpolicy : s.policy with
      | none =>
        obtain rfl := hserves.none_iff.mp hpolicy
        exact ⟨rfl, fresh, installations, hserves⟩
      | some p =>
        cases served with
        | none => exact absurd (hserves.none_iff.mpr rfl) (by simp [hpolicy])
        | some policy => exact ⟨rfl, serves_install hserves hpolicy guidance⟩

/-! ## Chunks -/

/-- Of the adapters, a chunk depends on the critic of its own. -/
theorem guidedChunk_adapter {critics : ℕ → VisualTransformerCritic K h} {guidance : Guidance K h}
    {adapter : ℕ} (hcritic : critics adapter = guidance.critic) (model : M)
    (batch : PolicyBatch K B n) (noise : Option N) :
    guidedChunk smolvla critics model (serverArgs guidance adapter) batch noise =
      guidedChunk smolvla (fun _ => guidance.critic) model (serverArgs guidance 0) batch noise := by
  have hfeatures : batchFeatures smolvla critics model (serverArgs guidance adapter) batch =
      batchFeatures smolvla (fun _ => guidance.critic) model (serverArgs guidance 0) batch := by
    simp only [batchFeatures, batchTokens, encodeVisualTokens, expectedShape, taskFeatures,
      serverArgs, hcritic]
  have hvelocity : ∀ features, guidedVelocity smolvla critics (serverArgs guidance adapter)
      features = guidedVelocity smolvla (fun _ => guidance.critic) (serverArgs guidance 0)
        features := by
    intro features
    funext query
    simp only [guidedVelocity, guidedStep, serverArgs, hcritic]
  rw [guidedChunk, guidedChunk, hfeatures]
  simp only [hvelocity]

private theorem chunk_agree (hserved : IsServed s served) (batch : PolicyBatch K B n)
    (noise : Option N) :
    Agree IsServed (serverMachine smolvla python (.chunk batch noise) s)
      (servedMachine smolvla python (.chunk batch noise) served) := by
  obtain ⟨fresh, installations, hserves⟩ := hserved
  obtain hp | ⟨p, hp⟩ := Option.eq_none_or_eq_some s.policy
  · obtain rfl := hserves.none_iff.mp hp
    have hserver : serverMachine smolvla python (.chunk batch noise) s =
        (.chunk (.error .raised), s) := by simp only [serverMachine, hp]
    rw [hserver]
    exact ⟨rfl, fresh, installations, hserves⟩
  · obtain ⟨policy, rfl⟩ := Option.ne_none_iff_exists'.mp fun hnone =>
      Option.some_ne_none p (hp.symm.trans (hserves.none_iff.mpr hnone))
    have hserver : serverMachine smolvla python (.chunk batch noise) s =
        (.chunk (getActionChunk smolvla s.critics p batch noise s.world).1,
          { s with world := (getActionChunk smolvla s.critics p batch noise s.world).2 }) := by
      simp only [serverMachine, hp]
    obtain ⟨hlt, hfresh, hguided⟩ := hserves.current p policy hp rfl
    obtain ⟨hresult, hrep⟩ := represents_chunk smolvla s.critics batch noise hserves.allFresh
      hserves.represents p
    rw [GuidedPolicies.guidance] at hresult hrep
    rw [hserver, servedMachine, servedChunk]
    cases hguidance : policy.guidance with
    | none =>
      have hown : installations p = [] := by rwa [hguidance] at hguided
      rw [hown] at hresult hrep
      refine ⟨?_, fresh, installations, hserves.allFresh, hrep, hserves.unused, hserves.none_iff,
        hserves.current⟩
      have hchunk := Outcome.chunk.inj hresult
      rw [hfresh] at hchunk
      exact congrArg Response.chunk hchunk
    | some guidance =>
      rw [hguidance] at hguided
      obtain ⟨past, diagnostics, adapter, hadapter, hcritic, hown⟩ := hguided
      rw [hown, List.getLast?_concat, List.dropLast_concat] at hresult hrep
      refine ⟨?_, fresh, _, hserves.allFresh, hrep, ?_, hserves.none_iff, ?_⟩
      · have hchunk := Outcome.chunk.inj hresult
        dsimp only at hchunk
        rw [hfresh, guidedChunk_adapter hcritic] at hchunk
        exact congrArg Response.chunk hchunk
      · intro q hq
        have hne : q ≠ p := by
          rintro rfl
          exact absurd hlt (Nat.not_lt.mpr hq)
        exact (if_neg hne).trans (hserves.unused q hq)
      · intro q other hq hother
        obtain rfl : p = q := Option.some.inj (hp.symm.trans hq)
        obtain rfl : policy = other := Option.some.inj hother
        rw [hguidance]
        exact ⟨hlt, hfresh, past, _, adapter, hadapter, hcritic, if_pos rfl⟩

variable (smolvla python)

private theorem request_agree (request : Request K M B N n) (hserved : IsServed s served) :
    Agree IsServed (serverMachine smolvla python request s)
      (servedMachine smolvla python request served) := by
  cases request with
  | instructions environment loading =>
    obtain ⟨hresult, hserved⟩ : Agree IsServed (sendPolicyInstructions python environment loading s)
        (serveInstructions python environment loading served) :=
      instructions_agree hserved environment loading
    exact ⟨congrArg Response.instructions hresult, hserved⟩
  | chunk batch noise => exact chunk_agree hserved batch noise

/-! ## Histories -/

structure Started (s : Server K M h n) : Prop where
  policy : s.policy = none
  fresh : ∀ p, Fresh (s.world.policy p)
  processors : ∀ p, s.world.processors p = []

omit [Field K] [LinearOrder K] in
def chunkRequest (entry : PolicyBatch K B n × Option N) : Request K M B N n :=
  .chunk entry.1 entry.2

/-- The policy that instructions load is served in place of the earlier one. -/
theorem serveInstructions_of_loading {loading : Loading M} {model : M} {rtcEnabled returned : Bool}
    (hloading : loadServed (h := h) (K := K) none loading =
      (returned, some ⟨model, rtcEnabled, none⟩)) (environment : Environment)
    (served : Option (ServedPolicy K M h)) :
    (serveInstructions python environment loading served).2 = some ⟨model, rtcEnabled,
      if returned then (serverGuidance python environment).toOption else none⟩ := by
  have hload : loadServed served loading = (returned, some ⟨model, rtcEnabled, none⟩) := by
    cases loading with
    | loaded => exact hloading
    | raisedAfter => exact hloading
    | raised => cases hloading
    | ignored => cases hloading
  rw [serveInstructions, hload]
  cases returned with
  | false => rfl
  | true => cases serverGuidance python environment <;> rfl

theorem run_chunks (entries : List (PolicyBatch K B n × Option N))
    (served : Option (ServedPolicy K M h)) :
    ((servedMachine smolvla python).run (entries.map chunkRequest) served).2 = served := by
  induction entries with
  | nil => rfl
  | cons entry entries ih => exact ih

end Refinement

/-! ## A missing critic -/

/-- The first entry of a chunk after one denoising step from zero, of two images of one token; the
gradient of every value is one in this entry. -/
def twoCameras : SmolVLA ℚ Unit Unit Unit Unit ℚ 1 1 8 where
  torch := ⟨id, Rat.sqrt, fun _ _ _ entry => if entry.2.val = 0 then 1 else 0⟩
  notFinite := fun _ _ inputs _ => ⟨inputs.velocityT, ⟨0, 0, 0, 0, 0, 0, 0⟩⟩
  textHiddenFeatures := fun _ _ _ => .error .runtimeError
  prepareImages := fun _ _ => .ok [(), ()]
  embedImage := fun _ _ => ⟨1, 1, [[[0]]], by simp⟩
  getActionChunk := fun _ _ _ =>
    .ask ⟨fun _ _ => 0, .scalar 1, fun _ _ _ => 0⟩ fun velocity =>
      .done (velocity (Fin.last 0) (Fin.last 0, 0))
  rtc := fun _ _ => .error .raised

def oneFile : Python ℚ 1 where
  isFile := fun path => path = "critic.pt"
  pathText := fun text => if text = "" then "." else text
  reprText := fun text => text.elim "None" fun text => "'" ++ text ++ "'"
  float := fun text => if text = "2" then some (.finite 2) else if text = "nan" then some .nan
    else none
  floatText := fun value => if value = .nan then "nan" else "2.0"
  load := fun _ => .ok ⟨some "visual_transformer", 8, .ok ⟨⟨1, 8, 1, 1, 2⟩, fun _ _ _ _ => 0⟩⟩

def startedServer : Server ℚ Unit 1 1 where
  world := ⟨fun _ => loadedPolicy () false, fun _ => [], fun _ => none⟩
  critics := fun _ => noCritic
  policy := none
  policies := 0
  adapters := 0

def doubledGuidance : Guidance ℚ 1 where
  critic := ⟨⟨1, 8, 1, 1, 2⟩, fun _ _ _ _ => 0⟩
  beta := .finite 2
  gradClipNorm := .finite 2

private theorem guidedChunk_doubledGuidance :
    (guidedChunk twoCameras (fun _ => doubledGuidance.critic) () (serverArgs doubledGuidance 0)
      oneBatch none).1 = .ok (-1 / 2) := by
  have hvalue : (guidedChunk twoCameras (fun _ => doubledGuidance.critic) ()
      (serverArgs doubledGuidance 0) oneBatch none).1.toOption = some (-1 / 2) := by
    decide +kernel
  cases hchunk : (guidedChunk twoCameras (fun _ => doubledGuidance.critic) ()
      (serverArgs doubledGuidance 0) oneBatch none).1 with
  | error error => simp [hchunk, Except.toOption] at hvalue
  | ok value => simpa [hchunk, Except.toOption] using hvalue

end SmolVlaQgf.QgfPolicyServer
