import NodeAgent.Foundation.Program
import NodeAgent.Foundation.Machine
import NodeAgent.Foundation.Completes
import NodeAgent.Foundation.Always
import NodeAgent.Foundation.Keeps
import NodeAgent.Foundation.Dict
import NodeAgent.Foundation.FileTree
import NodeAgent.Foundation.Shell
import NodeAgent.Foundation.Decimal
import NodeAgent.Foundation.Text
import NodeAgent.Foundation.Pattern
import NodeAgent.Foundation.Words
import NodeAgent.Foundation.Packing
import NodeAgent.Foundation.ShellWords
import NodeAgent.Protocol
import NodeAgent.Config
import NodeAgent.Infrastructure.Repository
import NodeAgent.Infrastructure.StateFile
import NodeAgent.Foundation.AtomicWrite
import NodeAgent.Infrastructure.StateSave
import NodeAgent.Infrastructure.Host
import NodeAgent.Infrastructure.Replay
import NodeAgent.Infrastructure.Steps
import NodeAgent.Infrastructure.Outcomes
import NodeAgent.Domain.BoundPorts
import NodeAgent.Domain.GpuAllocator
import NodeAgent.Domain.AllocatorCalls
import NodeAgent.Domain.SpecificDevices
import NodeAgent.Domain.Templates
import NodeAgent.Domain.Pod
import NodeAgent.Domain.VM
import NodeAgent.Domain.MultinodeLaunch
import NodeAgent.Domain.MultinodeTopology
import NodeAgent.Domain.MultinodeCommand
import NodeAgent.Domain.MultinodeReplica
import NodeAgent.Domain.Inference
import NodeAgent.Domain.StagedCache
import NodeAgent.Domain.ModelBackend
import NodeAgent.Domain.TextStream
import NodeAgent.Domain.ContainerCleanup
import NodeAgent.Domain.ProcessCleanup
import NodeAgent.Domain.InferenceCommand
import NodeAgent.Domain.ImageVersion
import NodeAgent.Domain.PodStats
import NodeAgent.Domain.VllmImage
import NodeAgent.Domain.MultinodeScript
import NodeAgent.Application.Lifecycle
import NodeAgent.Application.Start
import NodeAgent.Application.Holdings
import NodeAgent.Application.Volumes
import NodeAgent.Application.StagedFiles
import NodeAgent.Application.PodPorts
import NodeAgent.Application.Namesakes
import NodeAgent.Application.PortLoop
import NodeAgent.Application.PortAssignment
import NodeAgent.Application.Services
import NodeAgent.Application.Footprint
import NodeAgent.Application.Locality
import NodeAgent.Application.Ledger
import NodeAgent.Application.Bookkeeping
import NodeAgent.Application.Node
import NodeAgent.Application.Passes
import NodeAgent.Application.Runs
import NodeAgent.Application.Frame
import NodeAgent.Application.Retention
import NodeAgent.Application.Outage
import NodeAgent.Application.Resume
import NodeAgent.Application.Readiness
import NodeAgent.Application.Ownership
import NodeAgent.Application.Tenancy
import NodeAgent.Application.Conduct
import NodeAgent.Application.Handling
import NodeAgent.Application.Progress
import NodeAgent.Application.Leased
import NodeAgent.Application.Fleet
import NodeAgent.Application.Attribution
import NodeAgent.Application.Repeat
import NodeAgent.Application.Survival
import NodeAgent.Application.Capacity
import NodeAgent.Application.Heartbeat
import NodeAgent.Application.Housekeeping
import NodeAgent.Application.Suspension
import NodeAgent.Application.Launch
import NodeAgent.Application.Smooth
import NodeAgent.Application.Steady
import NodeAgent.Application.Crash
import NodeAgent.Application.Leftover
import NodeAgent.Application.Ranks
import NodeAgent.Application.RankDevices
import NodeAgent.Application.MemoryShare
import NodeAgent.Application.MemoryBound
import NodeAgent.Transport.Redaction
import NodeAgent.Infrastructure.HostPath
import NodeAgent.Infrastructure.Tarfile
import NodeAgent.Domain.VolumeBackup
import NodeAgent.Domain.VolumeRestore
import NodeAgent.Domain.GpuStats
import NodeAgent.Foundation.Threads
import NodeAgent.Foundation.Monitor
import NodeAgent.Foundation.SharedDict
import NodeAgent.Domain.AllocatorLock
import NodeAgent.Foundation.TryLock
import NodeAgent.Application.Serial
import NodeAgent.Application.Recovery
import NodeAgent.Infrastructure.RepositoryLock
import NodeAgent.Foundation.Discipline
import NodeAgent.Application.Worker
import NodeAgent.Foundation.JsonText
import NodeAgent.Foundation.JsonRoundTrip
import NodeAgent.Foundation.JsonPrefix
import NodeAgent.Infrastructure.StateText
import NodeAgent.Transport.EventStream
import NodeAgent.Foundation.Layers
import NodeAgent.Transport.Gate
import NodeAgent.Foundation.JsonSorted
import NodeAgent.Domain.StagedText
import NodeAgent.Foundation.Isolation
import NodeAgent.Domain.LoopVolume
import NodeAgent.Infrastructure.DiskHost
import NodeAgent.Infrastructure.VolumeStore
