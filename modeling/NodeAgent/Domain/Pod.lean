import NodeAgent.Infrastructure.Host

/-!
# Pod backends

`ProcessPodBackend` runs pods as docker containers, `StubPodBackend` only
moves the record.
-/

namespace NodeAgent

open Effectful Program Agent

/-- `text[:n]`. -/
def prefixOf (n : Nat) (text : String) : String :=
  String.ofList (text.toList.take n)

def podContainerName (deploymentId : String) : String :=
  "greencompute-pod-" ++ prefixOf 12 deploymentId

/-- `docker rm -f`, with docker missing or hanging ignored. -/
def removeContainer (deploymentId target : String) : Agent Unit :=
  ignoring Exn.isMissingOrTimeout do
    let _ ← dockerRm deploymentId target

def stopContainer (deploymentId target : String) : Agent Unit :=
  ignoring Exn.isMissingOrTimeout do
    let _ ← dockerStop deploymentId target

/-- The flags of `gpu_docker_flags`, which every GPU mode turns into argv. -/
def gpuDockerFlags (deviceIds : List Nat) : GpuRequest :=
  if deviceIds = [] then .all else .devices deviceIds

/-- Run a docker command whose failure to run at all is the given error. -/
def orNotAvailable (error : Exn → Exn) (p : Agent Completed) :
    Agent Completed := do
  match ← attempt p with
  | .ok completed => pure completed
  | .error x =>
      if x.isMissingOrTimeout then raise (error x) else raise x

/-- `needle in text`. -/
def contains (needle : String) (text : String) : Bool :=
  text.toList.tails.any fun rest => needle.toList.isPrefixOf rest

namespace ProcessPodBackend

def podGpus (runtime : UnifiedRuntimeRecord) : GpuRequest :=
  let devices := runtime.metadata.gpuDevices.getD []
  if devices ≠ [] ∨ 0 < runtime.gpuFraction then gpuDockerFlags devices
  else .none

def sshPublish (runtime : UnifiedRuntimeRecord) : List (Nat × Nat) :=
  match runtime.sshPort with
  | some port => if port = 0 then [] else [(port, 22)]
  | none => []

def runCommand (s : Settings) (runtime : UnifiedRuntimeRecord)
    (image : String) : DockerRun where
  owner := runtime.deploymentId
  name := podContainerName runtime.deploymentId
  image := image
  gpus := podGpus runtime
  publish := sshPublish runtime ++
    runtime.metadata.portAllocations.map fun entry => (entry.2, entry.1)
  memoryGb := runtime.memoryGbAllocated.filter (0 < ·)
  storageGb := if s.storageOpt then runtime.volumeSizeGb else none
  volume := runtime.volumePath

/-- The port that docker reports, or the one the command asked for. -/
def readBackPort (container : String) (containerPort requested : Nat) :
    Agent Nat := do
  match ← attempt (probe (.dockerPort container containerPort)) with
  | .ok (some port) => pure port
  | .ok none => pure requested
  | .error x =>
      if x.isMissingOrTimeout || x = .valueError then pure requested
      else raise x

def verifyPorts (container : String) :
    List (Nat × Nat) → Agent (List (Nat × Nat))
  | [] => pure []
  | (containerPort, hostPort) :: rest => do
      let actual ← readBackPort container containerPort hostPort
      let verified ← verifyPorts container rest
      pure (if actual = 0 then verified
        else (containerPort, actual) :: verified)

def readBackSshPort (container : String) : Option Nat → Agent (Option Nat)
  | none => pure none
  | some port =>
      if port = 0 then pure (some 0)
      else do
        let actual ← readBackPort container 22 port
        pure (some actual)

def startPod (s : Settings) (runtime : UnifiedRuntimeRecord)
    (workload : WorkloadSpec) : Agent UnifiedRuntimeRecord := do
  let image :=
    if truthy runtime.metadata.image then runtime.metadata.image
    else workload.image
  removeContainer runtime.deploymentId (podContainerName runtime.deploymentId)
  onlyIf (podGpus runtime ≠ .none) (probe .gpuMode)
  match image with
  | none => raise .typeError
  | some image => do
      let result ← orNotAvailable
        (fun x => .podError s!"docker not available: {x.message}")
        (dockerRun (runCommand s runtime image))
      if result.returncode ≠ 0 then
        raise (.podError s!"docker run failed: {result.stderr}")
      else do
        let containerId := strip result.stdout
        let sshPort ← readBackSshPort containerId runtime.sshPort
        let mappings ← verifyPorts containerId
          runtime.metadata.portAllocations
        pure { runtime with
          containerId := some containerId
          sshPort := sshPort
          portMappings := mappings
          status := .ready
          currentStage := "ready"
          metadata := { runtime.metadata with
            containerName := some (podContainerName runtime.deploymentId) } }

def waitForSshd (container : String) : Nat → Agent Bool
  | 0 => pure false
  | rounds + 1 => do
      match ← attempt (probe (.dockerTop container)) with
      | .ok top =>
          if top.returncode = 0 ∧ contains "sshd" top.stdout then pure true
          else waitForSshd container rounds
      | .error x =>
          if x.isMissingOrTimeout || x.isOSError then
            waitForSshd container rounds
          else raise x

def waitForReady (runtime : UnifiedRuntimeRecord) : Agent Bool :=
  if truthy runtime.containerId then do
    let rounds ← probe .rounds
    waitForSshd (runtime.containerId.getD "") rounds
  else pure true

def stopPod (runtime : UnifiedRuntimeRecord) :
    Agent UnifiedRuntimeRecord := do
  onlyIf (truthy runtime.containerId)
    (removeContainer runtime.deploymentId (runtime.containerId.getD ""))
  pure { runtime with
    status := .terminated
    currentStage := "terminated"
    containerId := none }

def pausePod (runtime : UnifiedRuntimeRecord) :
    Agent UnifiedRuntimeRecord := do
  onlyIf (truthy runtime.containerId)
    (stopContainer runtime.deploymentId (runtime.containerId.getD ""))
  pure { runtime with status := .suspended, currentStage := "suspended" }

/-- `docker start` of the recorded container, if there is one. -/
def restartContainer (runtime : UnifiedRuntimeRecord) : Agent Unit :=
  if truthy runtime.containerId then do
    let result ← orNotAvailable
      (fun x => .podError s!"docker not available: {x.message}")
      (dockerStart runtime.deploymentId (runtime.containerId.getD ""))
    if result.returncode ≠ 0 then
      raise (.podError s!"docker start failed: {result.stderr}")
    else pure ()
  else pure ()

def resumePod (runtime : UnifiedRuntimeRecord) :
    Agent UnifiedRuntimeRecord := do
  restartContainer runtime
  pure { runtime with status := .ready, currentStage := "ready" }

end ProcessPodBackend

namespace StubPodBackend

def startPod (runtime : UnifiedRuntimeRecord) : UnifiedRuntimeRecord :=
  { runtime with
    containerId := some ("stub-container-" ++ prefixOf 8 runtime.deploymentId)
    status := .ready
    currentStage := "ready" }

def stopPod (runtime : UnifiedRuntimeRecord) : UnifiedRuntimeRecord :=
  { runtime with
    status := .terminated
    currentStage := "terminated"
    containerId := none }

def pausePod (runtime : UnifiedRuntimeRecord) : UnifiedRuntimeRecord :=
  { runtime with status := .suspended, currentStage := "suspended" }

def resumePod (runtime : UnifiedRuntimeRecord) : UnifiedRuntimeRecord :=
  { runtime with status := .ready, currentStage := "ready" }

end StubPodBackend

/-! ## The backend that the settings select -/

namespace PodBackend

def startPod (s : Settings) (runtime : UnifiedRuntimeRecord)
    (workload : WorkloadSpec) : Agent UnifiedRuntimeRecord :=
  match s.podBackend with
  | .process => ProcessPodBackend.startPod s runtime workload
  | .stub => pure (StubPodBackend.startPod runtime)

/-- The stub has no `wait_for_ready`, and its pods count as verified. -/
def waitForReady (s : Settings) (runtime : UnifiedRuntimeRecord) :
    Agent Bool :=
  match s.podBackend with
  | .process => ProcessPodBackend.waitForReady runtime
  | .stub => pure true

def stopPod (s : Settings) (runtime : UnifiedRuntimeRecord) :
    Agent UnifiedRuntimeRecord :=
  match s.podBackend with
  | .process => ProcessPodBackend.stopPod runtime
  | .stub => pure (StubPodBackend.stopPod runtime)

def pausePod (s : Settings) (runtime : UnifiedRuntimeRecord) :
    Agent UnifiedRuntimeRecord :=
  match s.podBackend with
  | .process => ProcessPodBackend.pausePod runtime
  | .stub => pure (StubPodBackend.pausePod runtime)

def resumePod (s : Settings) (runtime : UnifiedRuntimeRecord) :
    Agent UnifiedRuntimeRecord :=
  match s.podBackend with
  | .process => ProcessPodBackend.resumePod runtime
  | .stub => pure (StubPodBackend.resumePod runtime)

end PodBackend

end NodeAgent
