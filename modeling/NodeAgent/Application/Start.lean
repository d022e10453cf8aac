import NodeAgent.Application.Lifecycle
import NodeAgent.Domain.Templates

/-!
# Starting a runtime

One handler for each kind of workload.  Every handler allocates GPUs, writes a
record that is starting, runs the backend and writes a record that is ready.
-/

namespace NodeAgent

open Effectful Program Agent

def foreignBusyDevices : Agent (Finset Nat) := do
  let foreign ← attempt do
    let busy ← probe .busyGpuDevices
    let allocated ← allocatedDevices
    pure (busy \ allocated)
  match foreign with
  | .ok devices => pure devices
  | .error _ => pure ∅

def isGpuAllocationError : Exn → Bool
  | .gpuAllocationError _ => true
  | _ => false

def requestedGpus (workload : WorkloadSpec) : Int :=
  match workload.requirements with
  | some requirements => requirements.gpuCount
  | none => 1

def allocateOrFail (runtime : UnifiedRuntimeRecord) (gpuCount : Int) :
    Agent (Option (List Nat)) := do
  let avoid ← foreignBusyDevices
  match ← attempt (allocate runtime.deploymentId gpuCount avoid) with
  | .ok devices => pure (some devices)
  | .error x =>
      if isGpuAllocationError x then do
        failRuntime runtime s!"GPU allocation failed: {x.message}"
        pure none
      else raise x

def withGpus (runtime : UnifiedRuntimeRecord) (devices : List Nat)
    (gpuCount : Int) : UnifiedRuntimeRecord :=
  { runtime with metadata := { runtime.metadata with
      gpuDevices := some devices, gpuCount := some gpuCount } }

/-! ## Inference -/

def resolveRuntimeKind (workload : WorkloadSpec) (image : String) : String :=
  let declared :=
    if truthy (workload.runtime.bind (·.runtimeKind)) then
      workload.runtime.bind (·.runtimeKind)
    else workload.metadata.runtimeKind
  if truthy declared then declared.getD ""
  else if contains "diffusion" (lower image) then "diffusion"
  else if contains "vllm" (lower image) then "vllm"
  else "hf-causal-lm"

def modelIdentifier (workload : WorkloadSpec) : Option String :=
  match workload.runtime with
  | some runtime => runtime.modelIdentifier
  | none => workload.image

def artifactBundle (runtime : UnifiedRuntimeRecord) (workload : WorkloadSpec)
    (path : String) : ArtifactBundle where
  image := orText workload.image "unknown"
  stagedArtifactPath := path
  runtimeKind :=
    resolveRuntimeKind workload (orText workload.image "unknown")
  modelIdentifier := modelIdentifier workload
  multiNode := runtime.metadata.multiNode

def stageFor (runtime : UnifiedRuntimeRecord) (workload : WorkloadSpec) :
    Agent ArtifactBundle :=
  StagedArtifactStore.stageArtifact runtime.deploymentId
    (workload.metadata.artifactUri.getD
      ("local://" ++ orText workload.image "unknown"))
    (workload.metadata.artifactDigest.getD
      ("sha256:" ++ prefixOf 16 runtime.deploymentId))
    (artifactBundle runtime workload)

def startingInference (s : Settings) (runtime : UnifiedRuntimeRecord)
    (workload : WorkloadSpec) (artifact : ArtifactBundle) (dir : String) :
    UnifiedRuntimeRecord :=
  { runtime with
    status := .starting
    currentStage := "start_inference_backend"
    modelIdentifier := modelIdentifier workload
    image := some (orText workload.image "unknown")
    runtimeMode := some s.inferenceBackend.mode
    stagedArtifactPath := some artifact.stagedArtifactPath
    runtimeDir := some dir }

def readyInference (s : Settings) (runtime : UnifiedRuntimeRecord) :
    UnifiedRuntimeRecord :=
  { runtime with
    status := .ready
    currentStage := "ready"
    endpoint := if isWorkerRuntime runtime.metadata then none
      else some s!"{s.minerApiBaseUrl}/inference/{runtime.deploymentId}" }

/-- The part of the start from the staged artifact on. -/
def launchInference (s : Settings) (runtime : UnifiedRuntimeRecord)
    (workload : WorkloadSpec) (artifact : ArtifactBundle) : Agent Unit := do
  let dir ← makeRuntimeDir runtime.deploymentId
  let starting := startingInference s runtime workload artifact dir
  upsertRuntime starting
  match ← attempt (InferenceBackend.startRuntime s starting artifact) with
  | .ok started => do
      upsertRuntime (readyInference s started)
      reportDeploymentReady (readyInference s started)
  | .error (.inferenceRuntimeError message _) => failRuntime starting message
  | .error x => raise x

def startInferenceRuntime (s : Settings) (runtime : UnifiedRuntimeRecord)
    (workload : WorkloadSpec) : Agent Unit := do
  let gpuCount := requestedGpus workload
  match ← allocateOrFail runtime gpuCount with
  | none => pure ()
  | some devices => do
      let runtime :=
        { withGpus runtime devices gpuCount with gpuFraction := gpuCount }
      match ← attempt (stageFor runtime workload) with
      | .ok artifact => launchInference s runtime workload artifact
      | .error (.inferenceRuntimeError _ _) =>
          failRuntime runtime "artifact staging failed"
      | .error x => raise x

/-! ## Pods -/

def isSSHError : Exn → Bool
  | .sshError _ => true
  | _ => false

def setUpSsh (s : Settings) : Agent (Nat × String × String) := do
  let port ← probe (.chooseFreePort s.sshPortRangeStart s.sshPortRangeEnd)
  let keys ← probe .generateSshKeypair
  pure (port, keys)

def normalizePort (json : Json) : Option Nat :=
  match json.toInt with
  | .ok n => if 1 ≤ n ∧ n ≤ 65535 ∧ n ≠ 22 then some n.toNat else none
  | .error _ => none

/-- Convert, drop what is no usable port, drop repeats, and cap at ten. -/
def requestedPorts (raw : List Json) : List Nat :=
  ((raw.filterMap normalizePort).reverse.dedup.reverse).take 10

/-- A free port of the user range that this pod does not use yet. -/
def chooseUnusedPort (s : Settings) (used : List Nat) : Nat → Agent Nat
  | 0 => do
      let hopeless ← probe .never
      nomatch hopeless
  | rounds + 1 => do
      let port ←
        probe (.chooseFreePort s.userPortRangeStart s.userPortRangeEnd)
      if port ∈ used then chooseUnusedPort s used rounds else pure port

def sameNumberFree (s : Settings) (used : List Nat) (containerPort : Nat) :
    Agent Bool :=
  if s.userPortRangeStart ≤ containerPort ∧
      containerPort ≤ s.userPortRangeEnd ∧ containerPort ∉ used then
    probe (.isPortFree containerPort)
  else pure false

def choosePort (s : Settings) (used : List Nat) (containerPort : Nat)
    (sameNumber : Bool) : Agent Nat :=
  if sameNumber then pure containerPort
  else do
    let rounds ← probe .rounds
    chooseUnusedPort s used rounds

/-- Stops short, with what it has, when the user range is exhausted. -/
def assignPorts (s : Settings) (assigned : List (Nat × Nat)) :
    List Nat → Agent (List (Nat × Nat))
  | [] => pure assigned
  | containerPort :: rest => do
      let used := assigned.map Prod.snd
      let sameNumber ← sameNumberFree s used containerPort
      match ← attempt (choosePort s used containerPort sameNumber) with
      | .ok hostPort =>
          assignPorts s (assigned ++ [(containerPort, hostPort)]) rest
      | .error x => if isSSHError x then pure assigned else raise x

/-- A template without GPUs is the only way to ask for a CPU-only pod. -/
def podGpuCount (workload : WorkloadSpec) : Int :=
  match workload.metadata.template with
  | none => requestedGpus workload
  | some name =>
      match getTemplate name with
      | some template =>
          if template.gpuFraction = 0 then 0 else requestedGpus workload
      | none => requestedGpus workload

def podImage (workload : WorkloadSpec) : Option String :=
  if truthy workload.image then workload.image
  else match workload.metadata.template.bind getTemplate with
    | some template => some template.image
    | none => workload.image

def podMemoryGb (s : Settings) (workload : WorkloadSpec) (gpuCount : Int) :
    Int :=
  let units := if 0 < gpuCount then gpuCount else 1
  -- The source divides floating-point numbers; here the quotient is exact.
  let share := max 1 ((s.memoryGb * units).tdiv (max s.gpuCount 1))
  let requested := (workload.requirements.map (·.memoryGb)).getD 0
  if 0 < requested then min share requested else share

def isVolumeError : Exn → Bool
  | .volumeError _ => true
  | _ => false

def volumeFor (s : Settings) (runtime : UnifiedRuntimeRecord) (sizeGb : Int) :
    VolumeRecord where
  deploymentId := runtime.deploymentId
  hotkey := runtime.hotkey
  nodeId := runtime.nodeId
  path := s.volumeBaseDir ++ "/" ++ runtime.deploymentId
  sizeGb := sizeGb

/-- `int(workload.metadata.get("volume_size_gb", 50))`. -/
def volumeSizeGb (workload : WorkloadSpec) : Except Exn Int :=
  match workload.metadata.volumeSizeGb with
  | none => .ok 50
  | some json => json.toInt

structure PodSetup where
  sshPort : Nat
  privateKey : String
  publicKey : String
  ports : List (Nat × Nat)
  gpuCount : Int
  devices : List Nat
  volume : VolumeRecord

def startingPod (s : Settings) (runtime : UnifiedRuntimeRecord)
    (workload : WorkloadSpec) (setup : PodSetup) : UnifiedRuntimeRecord :=
  { runtime with
    status := .starting
    currentStage := "start_pod"
    template := workload.metadata.template
    gpuFraction := setup.gpuCount
    memoryGbAllocated := some (podMemoryGb s workload setup.gpuCount)
    sshHost := some s.sshHost
    sshPort := some setup.sshPort
    sshUsername := some "root"
    sshFingerprint := none
    volumePath := some setup.volume.path
    volumeSizeGb := some setup.volume.sizeGb
    metadata := { runtime.metadata with
      image := podImage workload
      sshPublicKeys := setup.publicKey ::
        workload.metadata.sshPublicKeys.filter fun key => strip key ≠ ""
      sshPrivateKey := some setup.privateKey
      gpuDevices := some setup.devices
      gpuCount := some setup.gpuCount
      portAllocations := setup.ports } }

def readyPod (runtime : UnifiedRuntimeRecord) (sshVerified : Bool) :
    UnifiedRuntimeRecord :=
  { runtime with
    endpoint := some
      s!"ssh://{shown runtime.sshUsername}@{shown runtime.sshHost}:{shown (runtime.sshPort.map toString)}"
    metadata := { runtime.metadata with sshVerified := some sshVerified } }

/-- The part of the start from the complete set-up on. -/
def launchPod (s : Settings) (runtime : UnifiedRuntimeRecord)
    (workload : WorkloadSpec) (setup : PodSetup) : Agent Unit := do
  let starting := startingPod s runtime workload setup
  upsertRuntime starting
  match ← attempt (PodBackend.startPod s starting workload) with
  | .ok started => do
      let sshVerified ← PodBackend.waitForReady s started
      upsertRuntime (readyPod started sshVerified)
      reportDeploymentReady (readyPod started sshVerified)
  | .error (.podError message) => failRuntime starting message
  | .error x => raise x

def startPodRuntime (s : Settings) (runtime : UnifiedRuntimeRecord)
    (workload : WorkloadSpec) : Agent Unit := do
  match ← attempt (setUpSsh s) with
  | .error x =>
      if isSSHError x then failRuntime runtime "SSH setup failed" else raise x
  | .ok (sshPort, privateKey, publicKey) => do
      let ports ←
        assignPorts s [] (requestedPorts workload.metadata.requestedPorts)
      let gpuCount := podGpuCount workload
      match ← allocateOrFail runtime gpuCount with
      | none => pure ()
      | some devices =>
          match volumeSizeGb workload with
          | .error x => raise x
          | .ok sizeGb => do
              let volume := volumeFor s runtime sizeGb
              match ← attempt (createVolume volume) with
              | .error x =>
                  if isVolumeError x then
                    failRuntime runtime "volume creation failed"
                  else raise x
              | .ok _ => do
                  storeVolumeRecord volume
                  launchPod s runtime workload
                    { sshPort, privateKey, publicKey, ports, gpuCount,
                      devices, volume }

/-! ## VMs -/

def startingVm (runtime : UnifiedRuntimeRecord) (devices : List Nat)
    (gpuCount : Int) : UnifiedRuntimeRecord :=
  { withGpus runtime devices gpuCount with
    status := .starting, currentStage := "start_vm" }

def readyVm (s : Settings) (runtime : UnifiedRuntimeRecord) :
    UnifiedRuntimeRecord :=
  { runtime with
    endpoint := some s!"{s.minerApiBaseUrl}/vms/{runtime.deploymentId}" }

def startVmRuntime (s : Settings) (runtime : UnifiedRuntimeRecord)
    (workload : WorkloadSpec) : Agent Unit := do
  let gpuCount := requestedGpus workload
  match ← allocateOrFail runtime gpuCount with
  | none => pure ()
  | some devices => do
      let starting := startingVm runtime devices gpuCount
      upsertRuntime starting
      match ← attempt (VMBackend.startVm s starting) with
      | .ok started => do
          upsertRuntime (readyVm s started)
          reportDeploymentReady (readyVm s started)
      | .error (.vmError message) => failRuntime starting message
      | .error x => raise x

end NodeAgent
