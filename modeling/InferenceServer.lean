import InferenceServer.Blaze.SlotInvariant
import InferenceServer.Blaze.TaskConservation
import InferenceServer.Blaze.RequestConservation
import InferenceServer.Blaze.CancelEffect
import InferenceServer.Blaze.TokenAttribution
import InferenceServer.PrefixCache.KvAlignment
import InferenceServer.PrefixCache.HashLaws
import InferenceServer.Gateway.PrefixRouting
import InferenceServer.Gateway.Accounting
import InferenceServer.Gateway.AtMostOnce
import InferenceServer.Ipc.SequenceCodec
import InferenceServer.Sockets.TcpDelivery
import InferenceServer.Sockets.ZmqSendQueue
import InferenceServer.Disaggregation.StreamTermination
import InferenceServer.Disaggregation.NoOrphan
import InferenceServer.Sessions.ResponseContinuity
import InferenceServer.Sessions.EvictionPolicy
import InferenceServer.Sessions.InFlightHolds
import InferenceServer.Slots.CalledBackOnce
import InferenceServer.Slots.SessionCap
import InferenceServer.Slots.SlotOwnership
import InferenceServer.Services.QueueDepth
import InferenceServer.Services.AnsweredOnce
import InferenceServer.Sessions.CopyCredits
import InferenceServer.Transport.MultiHostSender
import InferenceServer.Transport.ChannelRecovery
import InferenceServer.Transport.ChunkWalk
import InferenceServer.Transport.SlotCopies
import InferenceServer.Transport.StagingSafety
import InferenceServer.RemoteKv.Settlement
import InferenceServer.Dynamo.PrefillCarriers
import InferenceServer.Jobs.CancelOrClaim
import InferenceServer.Jobs.MergeIntegrity
import InferenceServer.Jobs.TerminalStatus
import InferenceServer.Ipc.CrashRecovery
import InferenceServer.Ipc.SharedWorkers
import InferenceServer.Messaging.MigrationCodec
import InferenceServer.Queues.ChunkDelivery
import InferenceServer.Queues.SpscDelivery
import InferenceServer.Tts.TtsCallbacks
import InferenceServer.Tts.TtsServed
import InferenceServer.Reports.Verdicts
import InferenceServer.Reports.Stages
import InferenceServer.Shards.ShardedEqualsWhole
import InferenceServer.Tokenizers.StreamDecoder
import InferenceServer.Audio.WavFiles
import InferenceServer.Tts.VoiceSampleCache
import InferenceServer.Ipc.SlotContract
import InferenceServer.ToolCallSchema.StreamAgreement
import InferenceServer.Requirements.SweepGrading
import InferenceServer.Reports.PointGrading
import InferenceServer.Sockets.MessageDelivery
