import NodeAgent.Domain.Inference
import NodeAgent.Domain.VM

/-!
# Runtime lifecycle helpers of the service

Reports, failure, termination and suspension of one runtime.
-/

namespace NodeAgent

open Effectful Program Agent

/-- `self.control_plane.update_deployment_status`, a lost report being logged. -/
def report (update : DeploymentStatusUpdate) : Agent Unit :=
  ignoring Exn.isControlPlaneHTTPError (updateDeploymentStatus update)

def reportDeploymentReady (runtime : UnifiedRuntimeRecord) : Agent Unit :=
  report {
    deploymentId := runtime.deploymentId
    state := .ready
    endpoint := runtime.endpoint
    sshPrivateKey := runtime.metadata.sshPrivateKey
    portMappings :=
      if runtime.portMappings = [] then none else some runtime.portMappings
    readyInstances := some 1 }

def failRuntime (runtime : UnifiedRuntimeRecord) (error : String) :
    Agent Unit := do
  let _ ← release runtime.deploymentId
  upsertRuntime { runtime with
    status := .failed
    lastError := some error
    failureClass := some "workload_dispatch" }
  report {
    deploymentId := runtime.deploymentId
    state := .failed
    error := some error }

/-- `runtime.process_id or runtime.container_id`. -/
def hasBackend (runtime : UnifiedRuntimeRecord) : Bool :=
  runtime.processId.getD 0 ≠ 0 || truthy runtime.containerId

def deleteStaged (runtime : UnifiedRuntimeRecord) : Agent Unit := do
  onlyIf (truthy runtime.runtimeDir)
    (deleteRuntimeDir runtime.deploymentId (runtime.runtimeDir.getD ""))
  onlyIf (truthy runtime.stagedArtifactPath)
    (deleteStagedArtifact runtime.deploymentId
      (runtime.stagedArtifactPath.getD ""))

/-- What `_terminate_runtime` does inside its `try`. -/
def stopBackend (s : Settings) (runtime : UnifiedRuntimeRecord) :
    Agent Unit :=
  match runtime.workloadKind with
  | .inference =>
      if hasBackend runtime then do
        let _ ← InferenceBackend.stopRuntime s runtime
        deleteStaged runtime
      else pure ()
  | .pod =>
      if truthy runtime.containerId then do
        let _ ← PodBackend.stopPod s runtime
        match ← popVolumeRecord runtime.deploymentId with
        | some volume => deleteVolume volume
        | none => pure ()
      else pure ()
  -- `stop_vm` only moves a copy of the record that is then dropped.
  | .vm | .other _ => pure ()

def terminateRuntime (s : Settings) (runtime : UnifiedRuntimeRecord)
    (reported : Bool := true) : Agent Unit := do
  let _ ← release runtime.deploymentId
  ignoring (fun _ => true) (stopBackend s runtime)
  upsertRuntime { runtime with
    status := .terminated, currentStage := "terminated" }
  onlyIf reported
    (report { deploymentId := runtime.deploymentId, state := .terminated })

def markSuspended (runtime : UnifiedRuntimeRecord) : UnifiedRuntimeRecord :=
  { runtime with status := .suspended, currentStage := "suspended" }

/-- What `_suspend_runtime` does inside its `try`. -/
def pauseBackend (s : Settings) (runtime : UnifiedRuntimeRecord) :
    Agent UnifiedRuntimeRecord :=
  match runtime.workloadKind with
  | .pod => PodBackend.pausePod s runtime
  | .inference =>
      if hasBackend runtime then do
        let stopped ← InferenceBackend.stopRuntime s runtime
        pure (markSuspended stopped)
      else pure (markSuspended runtime)
  | .vm | .other _ => pure (markSuspended runtime)

def pausedOrMarked (s : Settings) (runtime : UnifiedRuntimeRecord) :
    Agent UnifiedRuntimeRecord := do
  match ← attempt (pauseBackend s runtime) with
  | .ok suspended => pure suspended
  | .error _ => pure (markSuspended runtime)

def suspendRuntime (s : Settings) (runtime : UnifiedRuntimeRecord) :
    Agent Unit := do
  let _ ← release runtime.deploymentId
  let suspended ← pausedOrMarked s runtime
  upsertRuntime suspended
  report { deploymentId := runtime.deploymentId, state := .suspended }

end NodeAgent
