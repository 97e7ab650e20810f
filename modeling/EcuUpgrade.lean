import EcuUpgrade.Lib.Runs
import EcuUpgrade.Lib.BigEndian
import EcuUpgrade.Lib.TrueDivision
import EcuUpgrade.Lib.Blocks
import EcuUpgrade.Lib.TrackedReads
import EcuUpgrade.Lib.BlockTransfer
import EcuUpgrade.Lib.Programs
import EcuUpgrade.Lib.Mailbox
import EcuUpgrade.Lib.WrappedClock
import EcuUpgrade.Lib.Schedules
import EcuUpgrade.Lib.ShiftRegister
import EcuUpgrade.Lib.Paths
import EcuUpgrade.Lib.ShellWords
import EcuUpgrade.Lib.FlagBit
import EcuUpgrade.Lib.Memory
import EcuUpgrade.Lib.Segmentation
import EcuUpgrade.Lib.Rounds
import EcuUpgrade.Lib.Requester
import EcuUpgrade.Server.State
import EcuUpgrade.Server.Handlers
import EcuUpgrade.Server.Services
import EcuUpgrade.Server.Frames
import EcuUpgrade.Server.Runs
import EcuUpgrade.Server.TransferServices
import EcuUpgrade.Server.Pending
import EcuUpgrade.Server.Effects
import EcuUpgrade.Server.Events
import EcuUpgrade.Server.Polls
import EcuUpgrade.Server.Responses
import EcuUpgrade.Server.Dependence
import EcuUpgrade.Server.Reset
import EcuUpgrade.Server.Silence
import EcuUpgrade.Transfer.Invariant
import EcuUpgrade.Transfer.Decoder
import EcuUpgrade.Security.Unlock
import EcuUpgrade.Security.Installation
import EcuUpgrade.Security.Lock
import EcuUpgrade.Security.Sessions
import EcuUpgrade.Security.RateLimit
import EcuUpgrade.Security.Expiry
import EcuUpgrade.Security.StaleBytes
import EcuUpgrade.Security.SuppressBit
import EcuUpgrade.Client.ProgramSoc
import EcuUpgrade.Client.Verdict
import EcuUpgrade.Client.RequestMachine
import EcuUpgrade.Client.Encoders
import EcuUpgrade.Client.FileTransferRequest
import EcuUpgrade.Client.Requests
import EcuUpgrade.Client.Dialogue
import EcuUpgrade.Client.Codec
import EcuUpgrade.Client.Answers
import EcuUpgrade.Client.DownloadSequence
import EcuUpgrade.Client.UpgradeRoutine
import EcuUpgrade.Client.JointRun
import EcuUpgrade.Client.DownLoadFw
import EcuUpgrade.Transfer.Channel
import EcuUpgrade.Transfer.Delivery
import EcuUpgrade.Transfer.Retry
import EcuUpgrade.Transfer.Insertions
import EcuUpgrade.Transfer.Failures
import EcuUpgrade.Identifiers.ReadList
import EcuUpgrade.Identifiers.Store
import EcuUpgrade.Security.KeyAlgorithm
import EcuUpgrade.Security.Seeds
import EcuUpgrade.Routines.Checksum
import EcuUpgrade.Transfer.Confinement
import EcuUpgrade.Security.ShellCommands
import EcuUpgrade.Transport.Poll
import EcuUpgrade.Transport.NoLoss
import EcuUpgrade.Transport.Buffer
import EcuUpgrade.Transport.Contract
import EcuUpgrade.Transport.Connections
import EcuUpgrade.Transport.Suppression
import EcuUpgrade.IsoTp.Link
import EcuUpgrade.IsoTp.Receiver
import EcuUpgrade.IsoTp.Sender
import EcuUpgrade.IsoTp.FlowControl
import EcuUpgrade.IsoTp.Network
import EcuUpgrade.IsoTp.Exchange
import EcuUpgrade.Campaign.Modules
import EcuUpgrade.Campaign.Actions
import EcuUpgrade.Campaign.Safety
import EcuUpgrade.Campaign.Progress
import EcuUpgrade.Campaign.Outcome
import EcuUpgrade.Campaign.Pass
import EcuUpgrade.Campaign.JobRun
