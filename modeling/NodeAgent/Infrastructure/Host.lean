import NodeAgent.Config
import NodeAgent.Domain.GpuAllocator
import NodeAgent.Domain.MultinodeLaunch
import NodeAgent.Foundation.Machine
import NodeAgent.Infrastructure.Repository

/-!
# The calls of the agent and the host that answers them

One call is one atomic step of the agent: a method of the allocator or of the
repository (each under its own lock), one docker command, one file operation,
one request to the control plane, one read-only probe.  The state of the host
holds both sides: the agent's memory, its state file, and the containers,
processes and files that outlive the agent.  Calls that act for one deployment
carry its id.
-/

namespace NodeAgent

open Effectful

/-- Which GPUs `docker run` passes through. -/
inductive GpuRequest where
  | none
  | all
  | devices (ids : List Nat)
  deriving DecidableEq, Repr

namespace GpuRequest

def deviceSet (totalGpus : Nat) : GpuRequest → Finset Nat
  | .none => ∅
  | .all => Finset.range totalGpus
  | .devices ids => ids.toFinset

end GpuRequest

/-- The part of a `docker run` command line that decides what the host gets. -/
structure DockerRun where
  owner : String
  name : String
  image : String
  gpus : GpuRequest
  publish : List (Nat × Nat) := []
  hostNetwork : Bool := false
  /-- Whose command the container runs, if it is a replica's rank. -/
  rank : Option MultiNodeParams := none
  memoryGb : Option Int := none
  storageGb : Option Int := none
  volume : Option String := none

structure Container where
  id : String
  name : String
  owner : String
  gpus : GpuRequest
  publish : List (Nat × Nat)
  running : Bool

/-- Docker resolves a container argument as an id or as a name. -/
def Container.answersTo (c : Container) (target : String) : Bool :=
  c.id = target || c.name = target

/-- The GPUs that are passed through to the container. -/
def Container.devices (totalGpus : Nat) (c : Container) : Finset Nat :=
  c.gpus.deviceSet totalGpus

/-- `subprocess.CompletedProcess`. -/
structure Completed where
  returncode : Int := 0
  stdout : String := ""
  stderr : String := ""
  deriving DecidableEq, Repr

/-- The field of `.State` that a `docker inspect` prints. -/
inductive InspectField where
  | running
  | status
  deriving DecidableEq, Repr

inductive Probe where
  | busyGpuDevices
  | gpuMode
  | chooseFreePort (start stop : Nat)
  | isPortFree (port : Nat)
  | chooseLoopbackPort
  | generateSshKeypair
  | dockerPort (container : String) (port : Nat)
  | dockerTop (container : String)
  | dockerInspect (container : String) (field : InspectField)
  | dockerLogs (container : String)
  | httpGet (url : String)
  | healthz (url : String)
  | textGenerationBackend (modelIdentifier : Option String) (image : String)
  | firecrackerVersion
  | pidAlive (pid : Nat)
  /-- How many rounds of a loop fit before its deadline or its last draw. -/
  | rounds
  /-- A loop that goes on for ever. -/
  | never

abbrev Probe.Ret : Probe → Type
  | .busyGpuDevices => Finset Nat
  | .chooseFreePort _ _ | .chooseLoopbackPort | .rounds => Nat
  | .isPortFree _ | .pidAlive _ => Bool
  | .generateSshKeypair => String × String
  | .dockerPort _ _ => Option Nat
  | .dockerTop _ | .dockerInspect _ _ | .dockerLogs _ | .firecrackerVersion =>
      Completed
  | .httpGet _ => Nat
  | .healthz _ => Option String
  | .textGenerationBackend _ _ => String
  | .gpuMode => Unit
  | .never => Empty

inductive Effect where
  | allocate (deploymentId : String) (gpuCount : Int) (avoid : Finset Nat)
  | allocateSpecific (deploymentId : String) (devices : List Nat)
  | release (deploymentId : String)
  | allocatedDevices
  | getRuntime (deploymentId : String)
  | upsertRuntime (runtime : UnifiedRuntimeRecord)
  | removeRuntime (deploymentId : String)
  | snapshotRuntimeItems
  | storeVolumeRecord (volume : VolumeRecord)
  | popVolumeRecord (deploymentId : String)
  | acquireReconcileLock
  | releaseReconcileLock
  | listLeases (hotkey : String)
  | getDeployment (deploymentId : String)
  | getWorkload (workloadId : String)
  | updateDeploymentStatus (update : DeploymentStatusUpdate)
  | dockerRun (command : DockerRun)
  | dockerRm (owner target : String)
  | dockerStop (owner target : String)
  | dockerStart (owner target : String)
  | spawnServer (owner : String)
  | terminatePid (owner : String) (pid : Nat)
  | stageArtifact (deploymentId artifactUri artifactDigest : String)
  | makeRuntimeDir (deploymentId : String)
  | deleteRuntimeDir (owner path : String)
  | deleteStagedArtifact (owner path : String)
  | createVolume (volume : VolumeRecord)
  | deleteVolume (volume : VolumeRecord)
  | probe (question : Probe)

namespace Effect

abbrev Ret : Effect → Type
  | .allocate _ _ _ | .allocateSpecific _ _ => List Nat
  | .release _ | .allocatedDevices => Finset Nat
  | .getRuntime _ => Option UnifiedRuntimeRecord
  | .snapshotRuntimeItems => List UnifiedRuntimeRecord
  | .popVolumeRecord _ => Option VolumeRecord
  | .acquireReconcileLock => Bool
  | .listLeases _ => List LeaseAssignment
  | .getDeployment _ => Option Deployment
  | .getWorkload _ => Option WorkloadSpec
  | .dockerRun _ | .dockerRm _ _ | .dockerStop _ _ | .dockerStart _ _ =>
      Completed
  | .spawnServer _ => Nat
  | .stageArtifact _ _ _ | .makeRuntimeDir _ => String
  | .probe question => question.Ret
  | .upsertRuntime _ | .removeRuntime _ | .storeVolumeRecord _
  | .releaseReconcileLock | .updateDeploymentStatus _ | .terminatePid _ _
  | .deleteRuntimeDir _ _ | .deleteStagedArtifact _ _ | .createVolume _
  | .deleteVolume _ => Unit

/-- The deployment that a call acts for. -/
def owner : Effect → Option String
  | .allocate d _ _ | .allocateSpecific d _ | .release d | .getRuntime d
  | .removeRuntime d | .popVolumeRecord d | .getDeployment d
  | .dockerRm d _ | .dockerStop d _ | .dockerStart d _ | .spawnServer d
  | .terminatePid d _ | .stageArtifact d _ _ | .makeRuntimeDir d
  | .deleteRuntimeDir d _ | .deleteStagedArtifact d _ => some d
  | .upsertRuntime runtime => some runtime.deploymentId
  | .updateDeploymentStatus update => some update.deploymentId
  | .dockerRun command => some command.owner
  | .storeVolumeRecord volume | .createVolume volume | .deleteVolume volume =>
      some volume.deploymentId
  | .allocatedDevices | .snapshotRuntimeItems | .acquireReconcileLock
  | .releaseReconcileLock | .listLeases _ | .getWorkload _ | .probe _ => none

end Effect

/-- One call with what it returned or raised. -/
structure Event where
  call : Effect
  result : Except Exn call.Ret

abbrev Agent (α : Type) := Program Effect Effect.Ret Exn α

structure World where
  runtimes : RuntimeTable
  stateFile : RuntimeTable
  allocator : GpuAllocator
  volumeRecords : VolumeTable
  reconcileLock : Bool
  containers : List Container
  /-- Every container id docker has handed out so far. -/
  issuedIds : List String
  processes : List Nat
  stagedArtifacts : Finset String
  runtimeDirs : Finset String
  volumes : Finset String
  log : List Event

def World.init (s : Settings) : World where
  runtimes := .empty
  stateFile := .empty
  allocator := .init s.gpuCount
  volumeRecords := .empty
  reconcileLock := false
  containers := []
  issuedIds := []
  processes := []
  stagedArtifacts := ∅
  runtimeDirs := ∅
  volumes := ∅
  log := []

/--
What the environment decides about one call: its result, whether it took effect
on the host, and the container that a `docker run` leaves with its run state.
-/
structure Answer (e : Effect) where
  result : Except Exn e.Ret
  tookEffect : Bool := true
  created : Option (String × Bool) := none

namespace World

def stagedPath (deploymentId : String) : String :=
  deploymentId ++ ".artifact.json"

def runtimeDirPath (deploymentId : String) : String :=
  deploymentId ++ ".runtime"

/-- A write to the state file succeeds or raises; memory has changed already. -/
def saved (w : World) (runtimes : RuntimeTable) (ok : Bool) : World :=
  { w with
    runtimes := runtimes
    stateFile := if ok then runtimes else w.stateFile }

def isOk {α : Type} : Except Exn α → Bool
  | .ok _ => true
  | .error _ => false

def withContainer (w : World) (command : DockerRun) :
    Option (String × Bool) → World
  | none => w
  | some (id, running) =>
      { w with
        containers := w.containers ++
          [⟨id, command.name, command.owner, command.gpus, command.publish,
            running⟩]
        issuedIds := id :: w.issuedIds }

def setRunning (w : World) (target : String) (running : Bool) : World :=
  { w with
    containers := w.containers.map fun c =>
      if c.answersTo target then { c with running := running } else c }

def withoutContainer (w : World) (target : String) : World :=
  { w with containers := w.containers.filter fun c => !c.answersTo target }

def perform (w : World) :
    (e : Effect) → Answer e → Except Exn e.Ret × World
  | .allocate d n avoid, _ =>
      ((w.allocator.allocate d n avoid).1,
        { w with allocator := (w.allocator.allocate d n avoid).2 })
  | .allocateSpecific d devices, _ =>
      ((w.allocator.allocateSpecific d devices).1,
        { w with allocator := (w.allocator.allocateSpecific d devices).2 })
  | .release d, _ =>
      (.ok (w.allocator.release d).1,
        { w with allocator := (w.allocator.release d).2 })
  | .allocatedDevices, _ => (.ok w.allocator.allocatedDevices, w)
  | .getRuntime d, _ => (.ok (w.runtimes.get? d), w)
  | .upsertRuntime runtime, a =>
      (a.result, w.saved (w.runtimes.upsert runtime) (isOk a.result))
  | .removeRuntime d, a =>
      (a.result, w.saved (w.runtimes.remove d) (isOk a.result))
  | .snapshotRuntimeItems, _ => (.ok w.runtimes.snapshot, w)
  | .storeVolumeRecord volume, _ =>
      (.ok (), { w with
        volumeRecords := w.volumeRecords.upsert volume })
  | .popVolumeRecord d, _ =>
      (.ok (w.volumeRecords.get? d),
        { w with volumeRecords := w.volumeRecords.remove d })
  | .acquireReconcileLock, _ =>
      (.ok (!w.reconcileLock), { w with reconcileLock := true })
  | .releaseReconcileLock, _ => (.ok (), { w with reconcileLock := false })
  | .listLeases _, a => (a.result, w)
  | .getDeployment _, a => (a.result, w)
  | .getWorkload _, a => (a.result, w)
  | .updateDeploymentStatus _, a => (a.result, w)
  | .dockerRun command, a => (a.result, w.withContainer command a.created)
  | .dockerRm _ target, a =>
      (a.result, if a.tookEffect then w.withoutContainer target else w)
  | .dockerStop _ target, a =>
      (a.result, if a.tookEffect then w.setRunning target false else w)
  | .dockerStart _ target, a =>
      (a.result, if a.tookEffect then w.setRunning target true else w)
  | .spawnServer _, a =>
      (a.result, match a.result with
        | .ok pid => { w with processes := pid :: w.processes }
        | .error _ => w)
  | .terminatePid _ pid, a =>
      (.ok (), if a.tookEffect then
        { w with processes := w.processes.filter (· ≠ pid) } else w)
  | .stageArtifact d _ _, a =>
      (a.result, if a.tookEffect then
        { w with stagedArtifacts := insert (stagedPath d) w.stagedArtifacts }
        else w)
  | .makeRuntimeDir d, a =>
      (a.result, if a.tookEffect then
        { w with runtimeDirs := insert (runtimeDirPath d) w.runtimeDirs }
        else w)
  | .deleteRuntimeDir _ path, a =>
      (a.result, if a.tookEffect then
        { w with runtimeDirs := w.runtimeDirs.erase path } else w)
  | .deleteStagedArtifact _ path, a =>
      (a.result, if a.tookEffect then
        { w with stagedArtifacts := w.stagedArtifacts.erase path } else w)
  | .createVolume volume, a =>
      (a.result, if a.tookEffect then
        { w with volumes := insert volume.deploymentId w.volumes } else w)
  | .deleteVolume volume, a =>
      (a.result, if a.tookEffect then
        { w with volumes := w.volumes.erase volume.deploymentId } else w)
  | .probe _, a => (a.result, w)

/-- The call with its entry in the log. -/
def answer (w : World) (e : Effect) (a : Answer e) :
    Except Exn e.Ret × World :=
  ((w.perform e a).1,
    { (w.perform e a).2 with
      log := w.log ++ [⟨e, (w.perform e a).1⟩] })

def returnsPath (expected : String) (tookEffect : Bool) :
    Except Exn String → Bool
  | .ok path => tookEffect && path = expected
  | .error _ => true

def exitedZero : Except Exn Completed → Bool
  | .ok completed => completed.returncode = 0
  | .error _ => false

/--
What docker and the file system promise.  A `docker run` that exits with zero
prints the id of a container that is running, an id is never handed out twice
nor as a name, and a name only while no container has it; a `docker rm -f`,
`stop` or `start` that exits with zero took effect, the last only on a container
that exists.  A file operation that returns took effect and returns the path it
made.
-/
def allows (w : World) : (e : Effect) → Answer e → Bool
  | .dockerRun command, a =>
      (match a.result with
        | .ok completed => !(completed.returncode = 0) ||
            decide (a.created = some (strip completed.stdout, true))
        | .error _ => true) &&
      (match a.created with
        | none => true
        | some (id, _) => id ≠ "" && !w.issuedIds.contains id &&
            id ≠ command.name && !w.issuedIds.contains command.name &&
            w.containers.all fun c =>
              !c.answersTo id && !(c.name = command.name))
  | .dockerRm _ _, a => !exitedZero a.result || a.tookEffect
  | .dockerStop _ _, a => !exitedZero a.result || a.tookEffect
  | .dockerStart _ target, a =>
      !exitedZero a.result ||
        (a.tookEffect && w.containers.any fun c => c.answersTo target)
  | .spawnServer _, a =>
      match a.result with
      | .ok pid => !w.processes.contains pid
      | .error _ => true
  | .stageArtifact d _ _, a => returnsPath (stagedPath d) a.tookEffect a.result
  | .makeRuntimeDir d, a =>
      returnsPath (runtimeDirPath d) a.tookEffect a.result
  | .deleteRuntimeDir _ _, a => !isOk a.result || a.tookEffect
  | .deleteStagedArtifact _ _, a => !isOk a.result || a.tookEffect
  | .createVolume _, a => !isOk a.result || a.tookEffect
  | .probe .never, _ => false
  | _, _ => true

end World

/-! ## The calls as programs -/

namespace Agent

open Program

abbrev allocate (deploymentId : String) (gpuCount : Int)
    (avoid : Finset Nat) : Agent (List Nat) :=
  perform (Effect.allocate deploymentId gpuCount avoid)

abbrev allocateSpecific (deploymentId : String) (devices : List Nat) :
    Agent (List Nat) :=
  perform (Effect.allocateSpecific deploymentId devices)

abbrev release (deploymentId : String) : Agent (Finset Nat) :=
  perform (Effect.release deploymentId)

abbrev allocatedDevices : Agent (Finset Nat) :=
  perform Effect.allocatedDevices

abbrev getRuntime (deploymentId : String) :
    Agent (Option UnifiedRuntimeRecord) :=
  perform (Effect.getRuntime deploymentId)

abbrev upsertRuntime (runtime : UnifiedRuntimeRecord) : Agent Unit :=
  perform (Effect.upsertRuntime runtime)

abbrev removeRuntime (deploymentId : String) : Agent Unit :=
  perform (Effect.removeRuntime deploymentId)

abbrev snapshotRuntimeItems : Agent (List UnifiedRuntimeRecord) :=
  perform Effect.snapshotRuntimeItems

abbrev storeVolumeRecord (volume : VolumeRecord) : Agent Unit :=
  perform (Effect.storeVolumeRecord volume)

abbrev popVolumeRecord (deploymentId : String) :
    Agent (Option VolumeRecord) :=
  perform (Effect.popVolumeRecord deploymentId)

abbrev acquireReconcileLock : Agent Bool :=
  perform Effect.acquireReconcileLock

abbrev releaseReconcileLock : Agent Unit :=
  perform Effect.releaseReconcileLock

abbrev listLeases (hotkey : String) : Agent (List LeaseAssignment) :=
  perform (Effect.listLeases hotkey)

abbrev getDeployment (deploymentId : String) : Agent (Option Deployment) :=
  perform (Effect.getDeployment deploymentId)

abbrev getWorkload (workloadId : String) : Agent (Option WorkloadSpec) :=
  perform (Effect.getWorkload workloadId)

abbrev updateDeploymentStatus (update : DeploymentStatusUpdate) :
    Agent Unit :=
  perform (Effect.updateDeploymentStatus update)

abbrev dockerRun (command : DockerRun) : Agent Completed :=
  perform (Effect.dockerRun command)

abbrev dockerRm (owner target : String) : Agent Completed :=
  perform (Effect.dockerRm owner target)

abbrev dockerStop (owner target : String) : Agent Completed :=
  perform (Effect.dockerStop owner target)

abbrev dockerStart (owner target : String) : Agent Completed :=
  perform (Effect.dockerStart owner target)

abbrev spawnServer (owner : String) : Agent Nat :=
  perform (Effect.spawnServer owner)

abbrev terminatePid (owner : String) (pid : Nat) : Agent Unit :=
  perform (Effect.terminatePid owner pid)

abbrev stageArtifact (deploymentId artifactUri artifactDigest : String) :
    Agent String :=
  perform (Effect.stageArtifact deploymentId artifactUri artifactDigest)

abbrev makeRuntimeDir (deploymentId : String) : Agent String :=
  perform (Effect.makeRuntimeDir deploymentId)

abbrev deleteRuntimeDir (owner path : String) : Agent Unit :=
  perform (Effect.deleteRuntimeDir owner path)

abbrev deleteStagedArtifact (owner path : String) : Agent Unit :=
  perform (Effect.deleteStagedArtifact owner path)

abbrev createVolume (volume : VolumeRecord) : Agent Unit :=
  perform (Effect.createVolume volume)

abbrev deleteVolume (volume : VolumeRecord) : Agent Unit :=
  perform (Effect.deleteVolume volume)

abbrev probe (question : Probe) : Agent question.Ret :=
  perform (Effect.probe question)

end Agent

/-- Which results of a call an assumption about the environment leaves open. -/
abbrev Permitted := (e : Effect) → Except Exn e.Ret → Prop

def anyResult : Permitted := fun _ _ => True

/-- The host: each call is answered as the environment decides. -/
def host (permitted : Permitted) : Machine Effect Effect.Ret Exn World where
  Step w e r w' :=
    permitted e r ∧ ∃ a : Answer e, w.allows e a = true ∧ w.answer e a = (r, w')

end NodeAgent
