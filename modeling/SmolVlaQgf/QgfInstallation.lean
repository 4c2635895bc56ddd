import SmolVlaQgf.HookedComputations
import SmolVlaQgf.QGuidance
import SmolVlaQgf.TokenBags

/-!
# Guidance installed in a policy

`install_smolvla_qgf` replaces a method and the denoising hook of a policy object. The new method
prepares the features of its batch in the processor that it was made for; the hook, which the model
asks in every denoising step, reads them from the processor that was installed last. A critic of
images is reached through an adapter object that keeps the tokens of the images.
-/

namespace SmolVlaQgf.QgfInstallation
open ExactFloats Tensors TokenBags CriticDataset QGuidance HookedComputations

variable {K M I B N R : Type} {h n d : ℕ}

/-! ## Batches -/

structure Rows (K : Type) (n : ℕ) where
  width : ℕ
  row : Fin n → List K
  rectangular : ∀ b, (row b).length = width

/-- A state, of rank two, or of rank three with one matrix for every observed step. -/
inductive StateTensor (K : Type) (n : ℕ) where
  | matrix (rows : Rows K n)
  | history (steps : List (Rows K n))

/-- What is read of a batch; `rest` is for SmolVLA itself. -/
structure PolicyBatch (K B : Type) (n : ℕ) where
  state : Option (StateTensor K n)
  languageTokens : Option (Tensor ℤ)
  languageAttentionMask : Option (Tensor Bool)
  rest : B

/-- A `KeyError`, an `IndexError`, an error with a text, and one that torch or SmolVLA raises. -/
inductive QgfError where
  | keyError (key : String)
  | indexError
  | features (error : BatchError)
  | guidance (error : GuidanceError)
  | raised

def QgfError.runtimeError (message : String) : QgfError := .guidance (.runtimeError message)

/-- `_latest_state` -/
def latestState (batch : PolicyBatch K B n) : Except QgfError (Rows K n) :=
  match batch.state with
  | none => .error (.keyError "observation.state")
  | some (.matrix rows) => .ok rows
  | some (.history steps) =>
      match steps.getLast? with
      | none => .error .indexError
      | some rows => .ok rows

/-! ## Tokens of images -/

/-- A tensor of rank three: for every example its tokens. -/
structure VisualTokens (K : Type) where
  count : ℕ
  width : ℕ
  examples : List (List (List K))
  rectangular : ∀ tokens ∈ examples, tokens.length = count ∧ ∀ token ∈ tokens, token.length = width

namespace VisualTokens

/-- `torch.cat((first, second), dim=1)` -/
def cat (first second : VisualTokens K) : Except QgfError (VisualTokens K) :=
  if hsame : first.examples.length = second.examples.length ∧ first.width = second.width then
    .ok {
      count := first.count + second.count
      width := first.width
      examples := List.zipWith (· ++ ·) first.examples second.examples
      rectangular := by
        intro tokens htokens
        obtain ⟨left, hleft, right, hright, rfl⟩ : ∃ left ∈ first.examples,
            ∃ right ∈ second.examples, left ++ right = tokens := by
          obtain ⟨i, hi, rfl⟩ := List.mem_iff_getElem.mp htokens
          rw [List.length_zipWith] at hi
          rw [List.getElem_zipWith]
          exact ⟨_, List.getElem_mem _, _, List.getElem_mem _, rfl⟩
        have hfirst := first.rectangular left hleft
        have hsecond := second.rectangular right hright
        refine ⟨by rw [List.length_append, hfirst.1, hsecond.1], fun token htoken => ?_⟩
        rcases List.mem_append.mp htoken with htoken | htoken
        · exact hfirst.2 token htoken
        · exact (hsecond.2 token htoken).trans hsame.2.symm }
  else .error .raised

end VisualTokens

/-- `VisualTransformerCriticConfig`, without the sizes of the network. -/
structure VisualTransformerCriticConfig where
  stateDim : ℕ
  actionDim : ℕ
  actionHorizon : ℕ
  visualTokenDim : ℕ
  visualTokens : ℕ

/-- A critic of images: its `forward` after the checks of the shapes. -/
structure VisualTransformerCritic (K : Type) (h : ℕ) where
  config : VisualTransformerCriticConfig
  forward : {n d : ℕ} → (Fin n → List K) → VisualTokens K → Batch (Fin h) K n d → Fin n → K

/-- The checks of `VisualTransformerCriticModule.forward`, in order. -/
def VisualTransformerCriticConfig.check (config : VisualTransformerCriticConfig) (h width : ℕ)
    (state : Rows K n) (tokens : VisualTokens K) : Except QgfError Unit :=
  if (h, width) ≠ (config.actionHorizon, config.actionDim) then
    .error (.guidance (.valueError ("Expected action chunk [B," ++ toString config.actionHorizon ++
      "," ++ toString config.actionDim ++ "], got " ++ shapeText [n, h, width] ++ ".")))
  else if state.width ≠ config.stateDim then
    .error (.guidance (.valueError ("Expected state [B," ++ toString config.stateDim ++ "], got " ++
      shapeText [n, state.width] ++ ".")))
  else if (tokens.count, tokens.width) ≠ (config.visualTokens, config.visualTokenDim) then
    .error (.guidance (.valueError ("Expected visual tokens [B," ++ toString config.visualTokens ++
      "," ++ toString config.visualTokenDim ++ "], got " ++
      shapeText [tokens.examples.length, tokens.count, tokens.width] ++ ".")))
  else .ok ()

/-! ## Objects -/

inductive CriticObject (K : Type) (h : ℕ) where
  | plain (critic : CriticArgument (Fin h) K)
  | adapter (object : ℕ)

/-- The arguments of `install_smolvla_qgf`; the numbers of a configuration are any floats. -/
structure InstallArgs (K : Type) (h : ℕ) where
  critic : CriticObject K h
  config : QGuidanceConfig (PyFloat K)
  criticActionDim : ℤ
  taskFeatureDim : ℤ
  taskFeatureSource : TaskFeatureSource

structure SmolVLAQGFProcessor (K M : Type) (h n : ℕ) where
  args : InstallArgs K h
  policyModel : Option M
  visualPolicy : Option ℕ
  obsFeatures : Option (Rows K n)
  taskFeatures : Option (Grid K)
  diagnostics : List (Diagnostics K)

/-- `_get_action_chunk` of SmolVLA, or the function that an installation has made. -/
inductive ChunkMethod where
  | original
  | withQgf (processor : ℕ) (originalGetActionChunk : ChunkMethod)

/-- `_rtc_enabled` of SmolVLA, or `lambda: False`. -/
inductive RtcEnabledMethod where
  | original
  | false

inductive RtcProcessor where
  | original
  | qgf (processor : ℕ)

/-- A policy; the two configurations tell whether their `rtc_config` is enabled. -/
structure SmolVLAPolicy (K M : Type) (h : ℕ) where
  model : M
  getActionChunk : ChunkMethod
  rtcEnabledMethod : RtcEnabledMethod
  gafOriginalGetActionChunk : Option ChunkMethod
  gafOriginalRtcEnabled : Option RtcEnabledMethod
  rtcProcessor : RtcProcessor
  configRtcEnabled : Bool
  modelConfigRtcEnabled : Bool
  modelRtcProcessor : RtcProcessor
  gafQgfProcessor : Option ℕ
  gafVisualCritic : Option (CriticObject K h)

/-- `_rtc_enabled()` of a policy. -/
def SmolVLAPolicy.rtcEnabled (policy : SmolVLAPolicy K M h) : Bool :=
  match policy.rtcEnabledMethod with
  | .original => policy.configRtcEnabled
  | .false => false

/-- All policies, the processors that were made for each of them, and the tokens that the adapters
keep. -/
structure World (K M : Type) (h n : ℕ) where
  policy : ℕ → SmolVLAPolicy K M h
  processors : ℕ → List (SmolVLAQGFProcessor K M h n)
  visualTokens : ℕ → Option (VisualTokens K)

/-- A denoising step: the chunk, its time and the velocity without guidance. -/
structure DenoiseQuery (K : Type) (h n d : ℕ) where
  xT : Batch (Fin h) K n d
  time : TimeTensor (Fin h) K n d
  originalDenoiseStepPartial : Batch (Fin h) K n d → Batch (Fin h) K n d

/-- What is used of torch and of SmolVLA. `getActionChunk` asks for the velocity of every step;
`rtc` is its own processor; `notFinite` is the step that torch computes with a configuration that
holds an infinity or NaN. -/
structure SmolVLA (K M I B N R : Type) (h n d : ℕ) where
  torch : TorchOps (Fin h) K
  notFinite : QGuidanceConfig (PyFloat K) → CriticArgument (Fin h) K → StepInputs (Fin h) K n d →
    ℤ → Guided (Fin h) K n d
  textHiddenFeatures : M → HiddenFeatures K
  prepareImages : M → PolicyBatch K B n → Except QgfError (List I)
  embedImage : M → I → VisualTokens K
  getActionChunk : M → PolicyBatch K B n → Option N →
    Hooked (DenoiseQuery K h n d) (Batch (Fin h) K n d) R
  rtc : M → DenoiseQuery K h n d → Except QgfError (Batch (Fin h) K n d)

namespace World

variable (w : World K M h n) (p : ℕ)

def setPolicy (policy : SmolVLAPolicy K M h) : World K M h n :=
  { w with policy := fun q => if q = p then policy else w.policy q }

def setProcessors (processors : List (SmolVLAQGFProcessor K M h n)) : World K M h n :=
  { w with processors := fun q => if q = p then processors else w.processors q }

def updateProcessor (id : ℕ)
    (update : SmolVLAQGFProcessor K M h n → SmolVLAQGFProcessor K M h n) : World K M h n :=
  w.setProcessors p ((w.processors p).modify id update)

def setVisualTokens (object : ℕ) (tokens : VisualTokens K) : World K M h n :=
  { w with visualTokens := fun other => if other = object then some tokens
      else w.visualTokens other }

end World

/-! ## Features of a batch -/

section Methods

variable (smolvla : SmolVLA K M I B N R h n d) (critics : ℕ → VisualTransformerCritic K h)

/-- The shape that `encode_smolvla_visual_tokens` expects for `_gaf_visual_critic`. -/
def expectedShape : Option (CriticObject K h) → Option (ℕ × ℕ)
  | some (.adapter object) =>
      some ((critics object).config.visualTokens, (critics object).config.visualTokenDim)
  | _ => none

/-- `encode_smolvla_visual_tokens` for a policy with this model and this `_gaf_visual_critic`. -/
def encodeVisualTokens (model : M) (gafVisualCritic : Option (CriticObject K h))
    (batch : PolicyBatch K B n) : Except QgfError (VisualTokens K) := do
  let images ← smolvla.prepareImages model batch
  match images with
  | [chest, wrist] =>
      let tokens ← (smolvla.embedImage model chest).cat (smolvla.embedImage model wrist)
      match expectedShape critics gafVisualCritic with
      | none => return tokens
      | some (count, width) =>
          if (tokens.count, tokens.width) ≠ (count, width) then
            throw (.runtimeError (
              "Runtime SmolVLA visual-token shape differs from the trained critic: " ++
              shapeText [tokens.count, tokens.width] ++ " != " ++ shapeText [count, width] ++ "."))
          else return tokens
  | _ => throw (.runtimeError (
      "Real-robot QGF requires exactly two image views (chest and wrist); SmolVLA received " ++
        toString images.length ++ "."))

variable [Field K] [LinearOrder K]

/-- `_task_features_from_batch` with the arguments of an installation. -/
def taskFeatures (args : InstallArgs K h) (policyModel : Option M) (batch : PolicyBatch K B n) :
    Except QgfError (Option (Grid K)) :=
  (taskFeaturesFromBatch smolvla.torch.sqrt batch.languageTokens batch.languageAttentionMask
    args.taskFeatureDim args.taskFeatureSource
      (policyModel.map smolvla.textHiddenFeatures)).mapError .features

/-- `set_batch_features` of a processor of a policy. -/
def setBatchFeatures (p id : ℕ) (batch : PolicyBatch K B n) (w : World K M h n) :
    Except QgfError Unit × World K M h n :=
  match (w.processors p)[id]? with
  | none => (.error .raised, w)
  | some processor =>
      match latestState batch with
      | .error error => (.error error, w)
      | .ok obsFeatures =>
          let w := w.updateProcessor p id fun processor =>
            { processor with obsFeatures := some obsFeatures }
          match taskFeatures smolvla processor.args processor.policyModel batch with
          | .error error => (.error error, w)
          | .ok taskFeatures =>
              let w := w.updateProcessor p id fun processor =>
                { processor with taskFeatures := taskFeatures }
              match processor.args.critic, processor.policyModel, processor.visualPolicy with
              | .plain _, _, _ => (.ok (), w)
              | .adapter _, none, _ => (.error (.runtimeError
                  "Visual QGF critic requires the active SmolVLA policy model."), w)
              | .adapter _, some _, none => (.error (.runtimeError
                  "Visual QGF critic adapter was installed without a policy wrapper."), w)
              | .adapter object, some _, some visualPolicy =>
                  match encodeVisualTokens smolvla critics (w.policy visualPolicy).model
                      (w.policy visualPolicy).gafVisualCritic batch with
                  | .error error => (.error error, w)
                  | .ok tokens => (.ok (), w.setVisualTokens object tokens)

/-! ## Denoising -/

omit [Field K] [LinearOrder K] in
/-- Task features of another number of examples cannot be concatenated with the state. -/
def taskRows (n : ℕ) : Option (Grid K) → Except QgfError (Option (Fin n → List K))
  | none => .ok none
  | some grid =>
      if hrows : grid.rows.length = n then .ok (some fun b => grid.rows.get (b.cast hrows.symm))
      else .error .raised

omit [Field K] [LinearOrder K] in
/-- The checks of a call of an adapter, up to the network. -/
def adapterTokens (critic : VisualTransformerCritic K h) (visualTokens : Option (VisualTokens K))
    (obsFeatures : Rows K n) (width : ℕ) : Except QgfError (VisualTokens K) :=
  match visualTokens with
  | none => .error (.runtimeError "QGF visual tokens were not prepared for this observation.")
  | some tokens =>
      if tokens.examples.length ≠ n then
        .error (.runtimeError ("QGF visual-token batch size does not match proprioception: " ++
          toString tokens.examples.length ++ " != " ++ toString n ++ "."))
      else (critic.config.check h width obsFeatures tokens).map fun _ => tokens

omit [Field K] [LinearOrder K] in
def adapterCritic (critic : VisualTransformerCritic K h) (tokens : VisualTokens K) :
    Critic (Fin h) K where
  call := fun inputs => critic.forward inputs.obsFeatures tokens inputs.actionChunk

def checkConfig (config : QGuidanceConfig (PyFloat K)) : Except GuidanceError Unit := do
  if config.beta.le (.finite 0) then
    throw (.valueError "QGuidanceConfig.beta must be positive.")
  if config.uncertaintyScale.lt (.finite 0) then
    throw (.valueError "QGuidanceConfig.uncertainty_scale must be non-negative.")
  if config.minGate.lt (.finite 0) ∨ (PyFloat.finite 1).lt config.minGate then
    throw (.valueError "QGuidanceConfig.min_gate must be in [0, 1].")

omit [Field K] [LinearOrder K] in
/-- The numbers of a configuration, if all of them are finite. -/
def exactConfig (config : QGuidanceConfig (PyFloat K)) : Option (QGuidanceConfig K) :=
  match config with
  | ⟨.finite beta, none, .finite uncertaintyScale, .finite minGate⟩ =>
      some ⟨beta, none, uncertaintyScale, minGate⟩
  | ⟨.finite beta, some (.finite gradClipNorm), .finite uncertaintyScale, .finite minGate⟩ =>
      some ⟨beta, some gradClipNorm, uncertaintyScale, minGate⟩
  | _ => none

def qGuided (config : QGuidanceConfig (PyFloat K)) (critic : CriticArgument (Fin h) K)
    (inputs : StepInputs (Fin h) K n d) (criticActionDim : ℤ) :
    Except QgfError (Guided (Fin h) K n d) :=
  match exactConfig config with
  | none => .ok (smolvla.notFinite config critic inputs criticActionDim)
  | some config =>
      (qGuidedVelocity smolvla.torch critic inputs config (some criticActionDim)).mapError .guidance

/-- The guided velocity and its diagnostics for given features; the tokens are those of the
adapter. -/
def guidedStep (args : InstallArgs K h) (visualTokens : Option (VisualTokens K))
    (obsFeatures : Rows K n) (taskFeatures : Option (Grid K)) (query : DenoiseQuery K h n d) :
    Except QgfError (Guided (Fin h) K n d) := do
  (checkConfig args.config).mapError .guidance
  let width ← (criticWidth d (some args.criticActionDim)).mapError .guidance
  let inputs : StepInputs (Fin h) K n d := {
    obsFeatures := obsFeatures.row
    actionT := query.xT
    velocityT := query.originalDenoiseStepPartial query.xT
    timeT := query.time
    proprio := none
    taskFeatures := none }
  match args.critic with
  | .plain critic =>
      let _ ← (asCriticList critic).mapError .guidance
      let taskFeatures ← taskRows n taskFeatures
      qGuided smolvla args.config critic { inputs with taskFeatures := taskFeatures }
        args.criticActionDim
  | .adapter object =>
      let tokens ← adapterTokens (critics object) visualTokens obsFeatures width.1
      qGuided smolvla args.config (.single (adapterCritic (critics object) tokens)) inputs
        args.criticActionDim

def keptTokens (w : World K M h n) (args : InstallArgs K h) : Option (VisualTokens K) :=
  match args.critic with
  | .plain _ => none
  | .adapter object => w.visualTokens object

/-- `denoise_step` of a processor of a policy. -/
def denoiseStep (p id : ℕ) :
    Hook QgfError (World K M h n) (DenoiseQuery K h n d) (Batch (Fin h) K n d) := fun query w =>
  match (w.processors p)[id]? with
  | none => (.error .raised, w)
  | some processor =>
      match processor.obsFeatures with
      | none =>
          (.error (.runtimeError "QGF obs_features were not set before denoise_step()."), w)
      | some obsFeatures =>
          match guidedStep smolvla critics processor.args (keptTokens w processor.args)
              obsFeatures processor.taskFeatures query with
          | .error error => (.error error, w)
          | .ok guided => (.ok guided.velocity, w.updateProcessor p id fun processor =>
              { processor with diagnostics := processor.diagnostics ++ [guided.diagnostics] })

/-- How the model of a policy gets the velocity of a step. -/
def modelHook (p : ℕ) :
    Hook QgfError (World K M h n) (DenoiseQuery K h n d) (Batch (Fin h) K n d) := fun query w =>
  if (w.policy p).modelConfigRtcEnabled then
    match (w.policy p).modelRtcProcessor with
    | .original => (smolvla.rtc (w.policy p).model query, w)
    | .qgf id => denoiseStep smolvla critics p id query w
  else (.ok (query.originalDenoiseStepPartial query.xT), w)

def callChunkMethod (p : ℕ) (batch : PolicyBatch K B n) (noise : Option N) :
    ChunkMethod → World K M h n → Except QgfError R × World K M h n
  | .original, w =>
      (smolvla.getActionChunk (w.policy p).model batch noise).run (modelHook smolvla critics p) w
  | .withQgf id originalGetActionChunk, w =>
      match setBatchFeatures smolvla critics p id batch w with
      | (.error error, w) => (.error error, w)
      | (.ok (), w) => callChunkMethod p batch noise originalGetActionChunk w

/-- `policy._get_action_chunk(batch, noise)` -/
def getActionChunk (p : ℕ) (batch : PolicyBatch K B n) (noise : Option N) (w : World K M h n) :
    Except QgfError R × World K M h n :=
  callChunkMethod smolvla critics p batch noise (w.policy p).getActionChunk w

end Methods

/-! ## Installation -/

def newProcessor (p : ℕ) (model : M) (args : InstallArgs K h) : SmolVLAQGFProcessor K M h n where
  args := args
  policyModel := some model
  visualPolicy := some p
  obsFeatures := none
  taskFeatures := none
  diagnostics := []

/-- `install_smolvla_qgf` for a policy; the processor is the last one of the policy. -/
def installSmolvlaQgf (p : ℕ) (args : InstallArgs K h) (w : World K M h n) : World K M h n :=
  let policy := w.policy p
  let processor := newProcessor p policy.model args
  let id := (w.processors p).length
  let originalGetActionChunk := policy.gafOriginalGetActionChunk.getD policy.getActionChunk
  let originalRtcEnabled := policy.gafOriginalRtcEnabled.getD policy.rtcEnabledMethod
  (w.setProcessors p (w.processors p ++ [processor])).setPolicy p {
    model := policy.model
    getActionChunk := .withQgf id originalGetActionChunk
    rtcEnabledMethod := .false
    gafOriginalGetActionChunk := some originalGetActionChunk
    gafOriginalRtcEnabled := some originalRtcEnabled
    rtcProcessor := .qgf id
    configRtcEnabled := true
    modelConfigRtcEnabled := true
    modelRtcProcessor := .qgf id
    gafQgfProcessor := some id
    gafVisualCritic := some args.critic }

/-! ## Histories -/

/-- An installation, or a chunk that is asked for. -/
inductive Event (K B N : Type) (h n : ℕ) where
  | install (p : ℕ) (args : InstallArgs K h)
  | chunk (p : ℕ) (batch : PolicyBatch K B n) (noise : Option N)

inductive Outcome (R : Type) where
  | installed
  | chunk (result : Except QgfError R)

def objects [Field K] [LinearOrder K] (smolvla : SmolVLA K M I B N R h n d)
    (critics : ℕ → VisualTransformerCritic K h) :
    Machine (Event K B N h n) (Outcome R) (World K M h n) := fun event w =>
  match event with
  | .install p args => (.installed, installSmolvlaQgf p args w)
  | .chunk p batch noise =>
      let (result, w) := getActionChunk smolvla critics p batch noise w
      (.chunk result, w)

end SmolVlaQgf.QgfInstallation
