import ZLayer.Overlay.RestoredSlices
import ZLayer.Overlay.ProbeArithmetic
import ZLayer.Overlay.RelayRoundTrip
import ZLayer.Proxy.ClientIdentity
import ZLayer.Secrets.KeyTrust
import ZLayer.Secrets.ReferenceScope
import ZLayer.Agent.StartupOrder
import ZLayer.Agent.FailedScale
import ZLayer.Agent.Supervision
import ZLayer.Storage.CacheRecovery
import ZLayer.Storage.Reassembly
import ZLayer.Storage.SyncIdempotence
import ZLayer.Storage.LayerRestore
import ZLayer.Storage.WalChanges
import ZLayer.Tunnel.MessageConfusion
import ZLayer.Tunnel.PortAccounting
import ZLayer.Builder.FailureIsolation
import ZLayer.Builder.SkipSoundness
import ZLayer.Registry.IndexRace
import ZLayer.Registry.CollectionSafety
import ZLayer.Scheduler.Deregistration
import ZLayer.Scheduler.WorkerIds
import ZLayer.Scheduler.LeaseExpiry
import ZLayer.Scheduler.StatusAcks
import ZLayer.Scheduler.ScalingConservation
import ZLayer.Scheduler.RestoredSize
import ZLayer.Scheduler.RescheduleCapacity
import ZLayer.Scheduler.GpuGrants
import ZLayer.Scheduler.GpuSlots
import ZLayer.Scheduler.Allotment
import ZLayer.Scheduler.ExclusiveNodes
import ZLayer.Scheduler.ReplicaAgreement
import ZLayer.Scheduler.SecretScopes
import ZLayer.Scheduler.RotationRecovery
import ZLayer.Scheduler.RotationInterleaving
import ZLayer.Scheduler.RevocationRace
import ZLayer.Scheduler.RaftCodec
import ZLayer.Consensus.LogStateContract
import ZLayer.Consensus.DurableState
