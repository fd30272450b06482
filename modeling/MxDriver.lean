import MxDriver.IndexedTally
import MxDriver.ReferenceLedger
import MxDriver.TransitionSystem
import MxDriver.LeaseStateMachine
import MxDriver.RecordLocks
import MxDriver.OpenFiles
import MxDriver.LeaseDevice
import MxDriver.LeaseSlotDomain
import MxDriver.LeaseProofBinding
import MxDriver.LeaseDirect
import MxDriver.LeaseSectionEffects
import MxDriver.LeaseProofEffects
import MxDriver.OpenFilePins
import MxDriver.LeaseSystem
import MxDriver.LeaseSteps
import MxDriver.LeaseReplyEffects
import MxDriver.LeaseCallEffects
import MxDriver.LeaseStepEffects
import MxDriver.LeaseReferences
import MxDriver.LeaseSections
import MxDriver.LeaseBindings
import MxDriver.LeaseBalance
import MxDriver.LeaseBalanceSteps
import MxDriver.LeaseAccounting
import MxDriver.LeaseAccountingSteps
import MxDriver.LeaseStateView
import MxDriver.LeaseQuiescence
import MxDriver.LeaseAnchor
import MxDriver.LeaseAcquireCall
import MxDriver.LeaseProofPins
import MxDriver.LeaseTransferProofs
import MxDriver.LeaseProofCoverage
import MxDriver.LeaseAnchorReliance
import MxDriver.LeaseAnchorRelianceSteps
import MxDriver.LeaseStateMachineEffects
import MxDriver.LeaseCounters
import MxDriver.LeaseCountersExact
import MxDriver.LeaseCountersRuns
import MxDriver.ScatterGather
import MxDriver.PrpCommand
import MxDriver.PrpExpressible
import MxDriver.PrpReadBack
import MxDriver.PrpEmission
import MxDriver.PrpFaithful
import MxDriver.PrpAcceptance
import MxDriver.ParallelSplit
import MxDriver.ParallelSplitSlices
import MxDriver.ParallelSplitMoves
import MxDriver.DmaSystem
import MxDriver.DmaMoves
import MxDriver.DmaViewOk
import MxDriver.DmaViewDrain
import MxDriver.DmaSteps
import MxDriver.DmaEffects
import MxDriver.DmaInvariant
import MxDriver.DmaMappings
import MxDriver.DmaRelease
import MxDriver.DmaIdTable
import MxDriver.DmaCounters
import MxDriver.DmaZombies
import MxDriver.DmaOutstanding
import MxDriver.DmaIdle
import MxDriver.PollingProgram
import MxDriver.AdminQueue
import MxDriver.AdminProtocol
import MxDriver.AdminPrograms
import MxDriver.AdminSequences
import MxDriver.DeviceLifecycle
import MxDriver.DeviceTeardown
import MxDriver.DeviceStop
import MxDriver.DeviceRuns
import MxDriver.RingBuffer
import MxDriver.QueuePair
import MxDriver.QueuePairFifo
import MxDriver.FallibleProgram
import MxDriver.ResourceLedger
import MxDriver.SubmitCall
import MxDriver.SubmitLedger
import MxDriver.SubmitBalanced
import MxDriver.SubmitReturns
import MxDriver.SubmitSettled
import MxDriver.SubmitThread
import MxDriver.SubmitOrder
import MxDriver.MailboxIndex
import MxDriver.MailboxContext
import MxDriver.MailboxPublish
import MxDriver.MailboxSend
import MxDriver.MailboxSendSafe
import MxDriver.MailboxReceive
import MxDriver.MailboxDelivery
import MxDriver.LeaseFamilies
import MxDriver.LeaseWorkloadAdmission
import MxDriver.LeaseTopology
import MxDriver.SlotIdentity
import MxDriver.LeaseSlotClaims
import MxDriver.LeaseRefusals
import MxDriver.LeaseFileReferences
import MxDriver.LeaseCallFailures
import MxDriver.LeaseGeneration
import MxDriver.Liveness
import MxDriver.LivenessVerdict
import MxDriver.BarMap
import MxDriver.BarMapExclusive
import MxDriver.EventNode
import MxDriver.EventDelivery
import MxDriver.EventPollers
import MxDriver.DeviceRegistry
import MxDriver.RegistryExact
import MxDriver.KillableRef
import MxDriver.NodeAccess
import MxDriver.NodeFence
import MxDriver.TransferWait
import MxDriver.TransferWaitAnswer
import MxDriver.TransferWaitBounds
import MxDriver.MarkedResources
import MxDriver.SavedSettings
import MxDriver.PciAttach
import MxDriver.PciAttachBalance
import MxDriver.PciAttachRestores
import MxDriver.Transcripts
import MxDriver.LeasePolicy
import MxDriver.LeaseFollowsPolicy
import MxDriver.LeasePolicyRuns
import MxDriver.AlignedRuns
import MxDriver.BufferMapping
import MxDriver.BufferLimits
import MxDriver.BufferMoved
