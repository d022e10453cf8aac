import NodeAgent.Application.Start

/-!
# The reconcile pass, recovery and restarts

`NodeAgentService` on top of the start handlers and the lifecycle helpers.
-/

namespace NodeAgent

open Effectful Program Agent

/-! ## Resuming -/

/-- `int(metadata.get("gpu_count", gpu_fraction or 1) or 1)`. -/
def resumeGpuCount (runtime : UnifiedRuntimeRecord) : Int :=
  match runtime.metadata.gpuCount with
  | some n => if n = 0 then 1 else n
  | none =>
      if runtime.gpuFraction = 0 then 1
      else runtime.gpuFraction.num.tdiv runtime.gpuFraction.den

def originalDevices (runtime : UnifiedRuntimeRecord) : List Nat :=
  runtime.metadata.gpuDevices.getD []

/-- A pod comes back on the devices that its container is pinned to. -/
def reacquire (runtime : UnifiedRuntimeRecord) : Agent (List Nat) :=
  if runtime.workloadKind = .pod ∧ originalDevices runtime ≠ [] then
    allocateSpecific runtime.deploymentId (originalDevices runtime)
  else do
    let avoid ← foreignBusyDevices
    allocate runtime.deploymentId (resumeGpuCount runtime) avoid

def resumePodRuntime (s : Settings) (runtime : UnifiedRuntimeRecord) :
    Agent Unit := do
  match ← attempt (PodBackend.resumePod s runtime) with
  | .ok resumed => do
      upsertRuntime resumed
      reportDeploymentReady resumed
  | .error (.podError message) => do
      let _ ← release runtime.deploymentId
      upsertRuntime { markSuspended runtime with
        lastError := some s!"resume failed: {message}" }
  | .error x => raise x

def workloadToResume (runtime : UnifiedRuntimeRecord) :
    Agent (Option WorkloadSpec) := do
  match ← attempt (getWorkload runtime.workloadId) with
  | .ok workload => pure workload
  | .error x => if x.isControlPlaneHTTPError then pure none else raise x

/-- Inference and VMs were removed on suspend and start afresh. -/
def redispatch (s : Settings) (runtime : UnifiedRuntimeRecord) :
    Agent Unit := do
  let _ ← release runtime.deploymentId
  match ← workloadToResume runtime with
  | none => pure ()
  | some workload => do
      let accepted :=
        { runtime with status := .accepted, currentStage := "accepted" }
      upsertRuntime accepted
      match runtime.workloadKind with
      | .inference => startInferenceRuntime s accepted workload
      | .vm => startVmRuntime s accepted workload
      | .pod | .other _ => pure ()

def resumeRuntime (s : Settings) (runtime : UnifiedRuntimeRecord) :
    Agent Unit := do
  match ← attempt (reacquire runtime) with
  | .error x => if isGpuAllocationError x then pure () else raise x
  | .ok devices =>
      if runtime.workloadKind = .pod then
        resumePodRuntime s
          (withGpus runtime devices (resumeGpuCount runtime))
      else redispatch s runtime

/-! ## Dispatching a lease -/

def dispatch (s : Settings) (runtime : UnifiedRuntimeRecord)
    (workload : WorkloadSpec) : Agent Unit :=
  match workload.kind with
  | .inference => startInferenceRuntime s runtime workload
  | .pod => startPodRuntime s runtime workload
  | .vm => startVmRuntime s runtime workload
  | .other name => failRuntime runtime s!"unsupported workload kind: {name}"

def acceptedRuntime (lease : LeaseAssignment) (workload : WorkloadSpec) :
    UnifiedRuntimeRecord where
  deploymentId := lease.deploymentId
  workloadId := lease.workloadId
  hotkey := lease.hotkey
  nodeId := lease.nodeId
  workloadKind := workload.kind
  status := .accepted
  currentStage := "accepted"
  metadata := { multiNode := lease.multiNode }

def reconcileWorkload (s : Settings) (lease : LeaseAssignment) :
    Agent Unit := do
  match ← getWorkload lease.workloadId with
  | none => updateDeploymentStatus {
      deploymentId := lease.deploymentId
      state := .failed
      error := some
        s!"workload {lease.workloadId} not found on control plane" }
  | some workload => do
      let runtime :=
        { acceptedRuntime lease workload with
          gpuFraction := s.defaultGpuFraction }
      upsertRuntime runtime
      dispatch s runtime workload

/-- Dispatch; whatever it raises is reported as a failure of the deployment. -/
def startLease (s : Settings) (lease : LeaseAssignment) : Agent Unit := do
  match ← attempt (reconcileWorkload s lease) with
  | .ok _ => pure ()
  | .error _ => ignoring (fun _ => true) (updateDeploymentStatus {
      deploymentId := lease.deploymentId
      state := .failed
      error := some
        "node-agent reconciliation failed (check node-agent logs)" })

def isSuspendedLease (lease : LeaseAssignment) : Bool :=
  lower (lease.status.getD "") = "suspended"

def handleLease (s : Settings) (lease : LeaseAssignment) : Agent Unit := do
  match ← getRuntime lease.deploymentId with
  | none =>
      if isSuspendedLease lease then pure () else startLease s lease
  | some existing =>
      if isSuspendedLease lease then
        match existing.status with
        | .ready | .starting => suspendRuntime s existing
        | _ => pure ()
      else
        match existing.status with
        | .suspended => resumeRuntime s existing
        | .accepted | .starting => do
            terminateRuntime s existing false
            removeRuntime lease.deploymentId
            startLease s lease
        | .ready | .failed | .terminated | .preparing => pure ()

/-! ## Cleaning up -/

def reapSuspended (s : Settings) (runtime : UnifiedRuntimeRecord) :
    Agent Unit := do
  match ← attempt (getDeployment runtime.deploymentId) with
  | .ok (some deployment) =>
      if deployment.state = .terminated then do
        terminateRuntime s runtime
        removeRuntime runtime.deploymentId
      else pure ()
  | .ok none | .error _ => pure ()

/-- One round of the loop over the runtimes after the leases. -/
def cleanUp (s : Settings) (active fleet : List String)
    (runtime : UnifiedRuntimeRecord) : Agent Unit :=
  if runtime.deploymentId ∈ active then pure ()
  else match runtime.status with
    | .terminated => pure ()
    | .suspended => reapSuspended s runtime
    | _ => terminateRuntime s runtime (runtime.deploymentId ∉ fleet)

/-! ## The pass -/

def syncLeases (hotkey : String) : Agent (List LeaseAssignment) := do
  match ← attempt (listLeases hotkey) with
  | .ok leases => pure leases
  | .error x => if x.isControlPlaneHTTPError then pure [] else raise x

/-- A lease without a node id counts as this node's. -/
def isMine (s : Settings) (lease : LeaseAssignment) : Bool :=
  !truthy lease.nodeId || lease.nodeId = some s.nodeId

def reconcileOnceLocked (s : Settings) (hotkey : String) : Agent Unit := do
  let allLeases ← syncLeases hotkey
  let leases := allLeases.filter (isMine s)
  forEach (handleLease s) leases
  let runtimes ← snapshotRuntimeItems
  forEach (cleanUp s (leases.map (·.deploymentId))
    (allLeases.map (·.deploymentId))) runtimes

/-- `with lock: p`, unless another pass holds it; `busy` is the answer then. -/
def underReconcileLock {α : Type} (busy : α) (p : Agent α) : Agent α := do
  if ← acquireReconcileLock then do
    let result ← attempt p
    releaseReconcileLock
    match result with
    | .ok a => pure a
    | .error x => raise x
  else pure busy

def reconcileOnce (s : Settings) (hotkey : String) : Agent Unit :=
  underReconcileLock () (reconcileOnceLocked s hotkey)

/-! ## Recovery -/

def recoveryKeepStates : List DeploymentState :=
  [.ready, .starting, .scheduled, .pulling, .draining, .suspended]

inductive RecoveryResult where
  | busy
  | recovered (resumed terminated : Nat)
  deriving DecidableEq, Repr

def recoverRuntime (s : Settings) (runtime : UnifiedRuntimeRecord) :
    Agent Bool := do
  match ← attempt (getDeployment runtime.deploymentId) with
  | .ok none => do
      terminateRuntime s runtime false
      pure false
  | .ok (some deployment) =>
      if deployment.state ∈ recoveryKeepStates then pure true
      else do
        terminateRuntime s runtime
          (deployment.state = .terminated ∨ deployment.state = .failed)
        pure false
  | .error x => if x.isControlPlaneHTTPError then pure true else raise x

def recoverLoop (s : Settings) (resumed terminated : Nat) :
    List UnifiedRuntimeRecord → Agent RecoveryResult
  | [] => pure (.recovered resumed terminated)
  | runtime :: rest =>
      if runtime.status = .terminated ∨ runtime.status = .failed then
        recoverLoop s resumed terminated rest
      else do
        if ← recoverRuntime s runtime then
          recoverLoop s (resumed + 1) terminated rest
        else recoverLoop s resumed (terminated + 1) rest

def recoverRuntimeStateLocked (s : Settings) : Agent RecoveryResult := do
  let runtimes ← snapshotRuntimeItems
  recoverLoop s 0 0 runtimes

def recoverRuntimeState (s : Settings) : Agent RecoveryResult :=
  underReconcileLock .busy (recoverRuntimeStateLocked s)

/-! ## The terminate route -/

inductive TerminateResult where
  | notFound
  | terminated
  deriving DecidableEq, Repr

def terminateDeployment (s : Settings) (deploymentId : String) :
    Agent TerminateResult := do
  match ← getRuntime deploymentId with
  | none => pure .notFound
  | some runtime => do
      terminateRuntime s runtime
      pure .terminated

/-! ## Restarts -/

def holdsGpusOnRestart (runtime : UnifiedRuntimeRecord) : Bool :=
  match runtime.status with
  | .accepted | .preparing | .starting | .ready =>
      originalDevices runtime ≠ []
  | _ => false

/-- `_rehydrate_gpu_allocator` on a fresh allocator. -/
def rehydrateGpuAllocator (totalGpus : Nat)
    (runtimes : List UnifiedRuntimeRecord) : GpuAllocator :=
  (runtimes.filter holdsGpusOnRestart).foldl
    (fun g runtime => g.rehydrate runtime.deploymentId
      (originalDevices runtime))
    (.init totalGpus)

/-- A new agent process on the same host, reading the same state file. -/
def World.restart (s : Settings) (w : World) : World :=
  { w with
    runtimes := w.stateFile
    allocator := rehydrateGpuAllocator s.gpuCount w.stateFile.snapshot
    volumeRecords := .empty
    reconcileLock := false }

end NodeAgent
