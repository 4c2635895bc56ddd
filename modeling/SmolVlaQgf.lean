import SmolVlaQgf.TransitionRuns
import SmolVlaQgf.EventLogs
import SmolVlaQgf.PeriodicRepresentatives
import SmolVlaQgf.FloatRounding
import SmolVlaQgf.Binary64
import SmolVlaQgf.Streaks
import SmolVlaQgf.CallHistories
import SmolVlaQgf.ExactFloats
import SmolVlaQgf.DecimalText
import SmolVlaQgf.FieldText
import SmolVlaQgf.PolicySafetyGuard
import SmolVlaQgf.GripperFilter
import SmolVlaQgf.TaskCompletion
import SmolVlaQgf.GripperHistory
import SmolVlaQgf.CompletionHistory
import SmolVlaQgf.InitialGrasp
import SmolVlaQgf.ArmstrongConfiguration
import SmolVlaQgf.ArmstrongAdapter
import SmolVlaQgf.AdapterOperations
import SmolVlaQgf.ActionOutcomes
import SmolVlaQgf.GateSteps
import SmolVlaQgf.GateLifecycle
import SmolVlaQgf.GuardRejection
import SmolVlaQgf.StopInterleavings
import SmolVlaQgf.RolloutStatus
import SmolVlaQgf.RolloutMonitorRace
import SmolVlaQgf.AsyncPolicyClient
import SmolVlaQgf.EpisodeReset
import SmolVlaQgf.ActionTimesteps
import SmolVlaQgf.FilteredPositions
import SmolVlaQgf.CameraVideo
import SmolVlaQgf.VideoFifo
import SmolVlaQgf.EpisodeRecorder
import SmolVlaQgf.CaptureValidation
import SmolVlaQgf.RecordedFrameIndices
import SmolVlaQgf.TransitionTable
import SmolVlaQgf.EpisodeDataset
import SmolVlaQgf.EpisodeFinalizer
import SmolVlaQgf.EpisodeCommit
import SmolVlaQgf.ResourceInvariants
import SmolVlaQgf.FinalizerEffects
import SmolVlaQgf.CollectionSession
import SmolVlaQgf.KeptEpisodes
import SmolVlaQgf.PairedCollection
import SmolVlaQgf.CommittedEpisodes
import SmolVlaQgf.ConcurrentFinalizers
import SmolVlaQgf.ConcurrentCommits
import SmolVlaQgf.GuardedTargetSafety
import SmolVlaQgf.ComparisonTable
import SmolVlaQgf.ComparedSessions
import SmolVlaQgf.DiscoveredEpisodes
import SmolVlaQgf.CommittedDiscovery
import SmolVlaQgf.AlignedSamples
import SmolVlaQgf.TerminalLabels
import SmolVlaQgf.FifoChannels
import SmolVlaQgf.FallibleTraversals
import SmolVlaQgf.PolicyActionTopics
import SmolVlaQgf.RowActions
import SmolVlaQgf.Tensors
import SmolVlaQgf.TaskFeatures
import SmolVlaQgf.CriticTargets
import SmolVlaQgf.CriticDataset
import SmolVlaQgf.ValidationIsolation
import SmolVlaQgf.RetrievalLeak
import SmolVlaQgf.InitialPose
import SmolVlaQgf.HoldingStill
import SmolVlaQgf.TurnInvariance
import SmolVlaQgf.StableDwell
import SmolVlaQgf.NearestEntries
import SmolVlaQgf.JoinedObservations
import SmolVlaQgf.ChunkHorizon
import SmolVlaQgf.NextObservations
import SmolVlaQgf.LengthPrefixedRecords
import SmolVlaQgf.VideoArchive
import SmolVlaQgf.EpisodeNumbers
import SmolVlaQgf.TextSearch
import SmolVlaQgf.CohortStatistics
import SmolVlaQgf.OrderedTables
import SmolVlaQgf.QuotaSelections
import SmolVlaQgf.StratifiedSplit
import SmolVlaQgf.RolloutSplit
import SmolVlaQgf.DiscountedSegments
import SmolVlaQgf.DiscountedReturns
import SmolVlaQgf.SuccessToGo
import SmolVlaQgf.ChunkColumns
import SmolVlaQgf.ChunkWindows
import SmolVlaQgf.BlendedTargets
import SmolVlaQgf.ClippedGradients
import SmolVlaQgf.QGuidance
import SmolVlaQgf.GuidedSteps
import SmolVlaQgf.TokenBags
import SmolVlaQgf.TokenCancellation
import SmolVlaQgf.RunningBest
import SmolVlaQgf.CheckpointSelection
import SmolVlaQgf.ValidationFrames
import SmolVlaQgf.TransitionOrder
import SmolVlaQgf.JointReadings
import SmolVlaQgf.StatusGates
import SmolVlaQgf.BatchMeans
import SmolVlaQgf.ValidationLoss
import SmolVlaQgf.CounterfactualSplit
import SmolVlaQgf.BreakingLoops
import SmolVlaQgf.StepInfos
import SmolVlaQgf.BranchScores
import SmolVlaQgf.CounterfactualBranch
import SmolVlaQgf.FileTrees
import SmolVlaQgf.PrecomputedFeatures
import SmolVlaQgf.ShellScripts
import SmolVlaQgf.RobotStack
import SmolVlaQgf.SmolvlaLauncher
import SmolVlaQgf.LauncherStages
import SmolVlaQgf.LauncherRuns
import SmolVlaQgf.PreloadedChunks
import SmolVlaQgf.RolloutCollection
import SmolVlaQgf.CollectedRollouts
import SmolVlaQgf.CollectedDataset
import SmolVlaQgf.ArrayMemory
import SmolVlaQgf.SimulatorSnapshots
import SmolVlaQgf.RestoredSnapshots
import SmolVlaQgf.BranchStarts
import SmolVlaQgf.HookedComputations
import SmolVlaQgf.QgfInstallation
import SmolVlaQgf.GuidedPolicies
import SmolVlaQgf.QgfPolicyServer
import SmolVlaQgf.RaisingLoops
import SmolVlaQgf.ProbeCollection
import SmolVlaQgf.ProbedGroups
import SmolVlaQgf.RankedSnapshots
