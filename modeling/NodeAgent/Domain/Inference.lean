import NodeAgent.Domain.MultinodeLaunch
import NodeAgent.Domain.Pod

/-!
# Inference backends and the staged artifacts

The server's command line is left out except for what decides the container:
its name, its image, its GPUs and its port.
-/

namespace NodeAgent

open Effectful Program Agent

/-- The part of `ArtifactBundle` and its payload that a start reads. -/
structure ArtifactBundle where
  image : String
  stagedArtifactPath : String
  runtimeKind : String
  modelIdentifier : Option String
  multiNode : Option MultiNodeDict

/-- `text or default`. -/
def orText (text : Option String) (default : String) : String :=
  if truthy text then text.getD default else default

namespace StagedArtifactStore

def stageArtifact (deploymentId artifactUri artifactDigest : String)
    (bundle : String → ArtifactBundle) : Agent ArtifactBundle :=
  if artifactUri = "" then
    raise (.inferenceRuntimeError "published build artifact_uri is missing"
      "pull_artifact")
  else if artifactDigest = "" then
    raise (.inferenceRuntimeError "published build artifact_digest is missing"
      "pull_artifact")
  else do
    let path ← Agent.stageArtifact deploymentId artifactUri artifactDigest
    pure (bundle path)

end StagedArtifactStore

namespace LocalArtifactInferenceBackend

/-- With the dictionary that the agent writes as the payload's manifest. -/
def startRuntime (runtime : UnifiedRuntimeRecord) (artifact : ArtifactBundle) :
    Agent UnifiedRuntimeRecord := do
  let modelIdentifier ←
    probe (.textGenerationBackend artifact.modelIdentifier artifact.image)
  pure { runtime with
    backendName := some "local-artifact-backend"
    runtimeMode := some "fallback"
    modelIdentifier := some modelIdentifier
    metadata := { runtime.metadata with backendStarted := some true } }

def stopRuntime (runtime : UnifiedRuntimeRecord) : UnifiedRuntimeRecord :=
  { runtime with
    metadata := { runtime.metadata with backendStarted := some false } }

end LocalArtifactInferenceBackend

namespace DockerInferenceBackend

def containerName (deploymentId : String) : String :=
  "greencompute-inf-" ++ prefixOf 12 deploymentId

def isDiffusion (artifact : ArtifactBundle) : Bool :=
  lower artifact.runtimeKind = "diffusion"

def runCommand (s : Settings) (runtime : UnifiedRuntimeRecord)
    (artifact : ArtifactBundle) (port : Nat)
    (params : Option MultiNodeParams) : DockerRun where
  owner := runtime.deploymentId
  name := containerName runtime.deploymentId
  image :=
    if isDiffusion artifact then
      if artifact.image ≠ "" then artifact.image else s.diffusionImage
    else if s.vllmImage ≠ "" then s.vllmImage else artifact.image
  gpus := gpuDockerFlags (runtime.metadata.gpuDevices.getD [])
  -- A rank of a distributed replica uses the host's network, without `-p`.
  publish := if params.isSome then [] else [(port, 8000)]
  hostNetwork := params.isSome
  rank := params

def startFailure (message : String) : Exn :=
  .inferenceRuntimeError message "start_inference_backend"

def stopRuntime (runtime : UnifiedRuntimeRecord) :
    Agent UnifiedRuntimeRecord := do
  onlyIf (truthy runtime.containerId)
    (removeContainer runtime.deploymentId (runtime.containerId.getD ""))
  pure { runtime with
    containerId := none
    runtimeUrl := none
    metadata := { runtime.metadata with backendStarted := some false } }

def containerRunning (container : Option String) : Agent Bool :=
  if truthy container then do
    match ← attempt (probe (.dockerInspect (container.getD "") .running)) with
    | .ok result =>
        pure (result.returncode = 0 && lower (strip result.stdout) = "true")
    | .error x =>
        if x.isMissingOrTimeout || x.isOSError then pure false else raise x
  else pure false

def waitForContainerRunning (container : Option String) : Nat → Agent Bool
  | 0 => pure false
  | attempts + 1 => do
      if ← containerRunning container then pure true
      else waitForContainerRunning container attempts

def grabLogs (container : Option String) : Agent String :=
  if truthy container then do
    match ← attempt (probe (.dockerLogs (container.getD ""))) with
    | .ok logs => pure (strip (logs.stdout ++ logs.stderr))
    | .error x => if x.isMissingOrTimeout then pure "" else raise x
  else pure ""

/-- Raises when docker says that the container exited. -/
def checkNotExited (container : String) : Agent Unit := do
  match ← attempt (probe (.dockerInspect container .status)) with
  | .ok result =>
      if result.returncode = 0 ∧ strip result.stdout = "exited" then
        match ← attempt (probe (.dockerLogs container)) with
        | .ok logs =>
            let combined := strip (logs.stdout ++ logs.stderr)
            raise (.inferenceRuntimeError ("container exited prematurely:\n" ++
              if combined = "" then "<no output>" else combined) "health_check")
        | .error x => if x.isMissingOrTimeout then pure () else raise x
      else pure ()
  | .error x => if x.isMissingOrTimeout then pure () else raise x

/-- `error` carries the text of the last failed request, if there was one. -/
def healthRounds (container : Option String) (url : String)
    (lastError : Option String) : Nat → Agent (Except (Option String) Unit)
  | 0 => pure (.error lastError)
  | rounds + 1 => do
      onlyIf (truthy container) (checkNotExited (container.getD ""))
      match ← attempt (probe (.httpGet url)) with
      | .ok status =>
          if status = 200 then pure (.ok ())
          else healthRounds container url lastError rounds
      | .error x =>
          if x.isHTTPFailure then
            healthRounds container url (some x.message) rounds
          else raise x

def waitForHealth (s : Settings) (runtime : UnifiedRuntimeRecord) :
    Agent Unit := do
  let rounds ← probe .rounds
  let url := s!"{shown runtime.runtimeUrl}/health"
  match ← healthRounds runtime.containerId url none rounds with
  | .ok _ => pure ()
  | .error lastError => do
      let tail ← grabLogs runtime.containerId
      let logs := if tail = "" then ""
        else "\n--- container logs (tail 200) ---\n" ++ tail
      raise (.inferenceRuntimeError
        (s!"vLLM health check timed out after {s.healthTimeoutSeconds}s: " ++
          orText lastError "no response" ++ logs) "health_check")

/-- What a start writes into the record once `docker run` printed an id. -/
def launched (s : Settings) (runtime : UnifiedRuntimeRecord)
    (artifact : ArtifactBundle) (params : Option MultiNodeParams) (port : Nat)
    (containerId : String) : UnifiedRuntimeRecord :=
  let isWorker := params.any fun p => !p.isHead
  { runtime with
    containerId := some containerId
    runtimeUrl :=
      if isWorker then none else some s!"http://{s.dockerHost}:{port}"
    processId := none
    runtimeMode := some "docker"
    backendName := some "docker-vllm-backend"
    modelIdentifier :=
      if truthy runtime.modelIdentifier then runtime.modelIdentifier
      else some artifact.image
    metadata := { runtime.metadata with
      containerName := some (containerName runtime.deploymentId)
      backendStarted := some true
      multiNodeRole := match params with
        | some p => some p.role.text
        | none => runtime.metadata.multiNodeRole } }

/-- A worker has to keep running, every other rank has to answer. -/
def awaitStarted (s : Settings) (runtime : UnifiedRuntimeRecord)
    (params : Option MultiNodeParams) : Agent UnifiedRuntimeRecord :=
  if params.any fun p => !p.isHead then do
    if ← waitForContainerRunning runtime.containerId 6 then pure runtime
    else do
      let _ ← stopRuntime runtime
      raise (startFailure
        s!"multi-node worker rank {(params.map (·.rank)).getD 0} exited before joining the cluster")
  else do
    match ← attempt (waitForHealth s runtime) with
    | .ok _ => pure runtime
    | .error (.inferenceRuntimeError message stage) => do
        let _ ← stopRuntime runtime
        raise (.inferenceRuntimeError message stage)
    | .error x => raise x

def startRuntime (s : Settings) (runtime : UnifiedRuntimeRecord)
    (artifact : ArtifactBundle) : Agent UnifiedRuntimeRecord := do
  let port ← probe .chooseLoopbackPort
  removeContainer runtime.deploymentId (containerName runtime.deploymentId)
  probe .gpuMode
  let params := parseMultiNodeParams artifact.multiNode
  let problems := (params.map validateParams).getD []
  if problems ≠ [] then
    raise (startFailure
      ("invalid multi-node topology: " ++ "; ".intercalate problems))
  else do
    let result ← orNotAvailable
      (fun x => startFailure s!"docker not available: {x.message}")
      (dockerRun (runCommand s runtime artifact port params))
    if result.returncode ≠ 0 then
      raise (startFailure s!"docker run failed: {result.stderr}")
    else
      awaitStarted s
        (launched s runtime artifact params port (strip result.stdout)) params

end DockerInferenceBackend

namespace ProcessInferenceBackend

def terminateRecordedPid (runtime : UnifiedRuntimeRecord) : Agent Unit :=
  onlyIf (runtime.processId.getD 0 ≠ 0)
    (terminatePid runtime.deploymentId (runtime.processId.getD 0))

def startFallbackRuntime (runtime : UnifiedRuntimeRecord)
    (artifact : ArtifactBundle) : Agent UnifiedRuntimeRecord := do
  terminateRecordedPid runtime
  let fallback ← LocalArtifactInferenceBackend.startRuntime
    { runtime with processId := none, runtimeUrl := none } artifact
  pure { fallback with
    backendName := some "fallback-local-artifact-backend"
    runtimeMode := some "fallback" }

def isRequestFailure : Exn → Bool
  | .httpError _ | .urlError _ | .timeoutError _ | .jsonDecodeError _ => true
  | _ => false

def healthRounds (url : String) (lastError : Option String) :
    Nat → Agent Unit
  | 0 => raise (.inferenceRuntimeError
      ("runtime health check timed out: " ++
        orText lastError "no health response") "health_check")
  | rounds + 1 => do
      match ← attempt (probe (.healthz url)) with
      | .ok status =>
          if status = some "ok" then pure ()
          else healthRounds url lastError rounds
      | .error x =>
          if isRequestFailure x then
            healthRounds url
              (some s!"runtime request failed for /healthz: {x.message}") rounds
          else raise x

def reuses (runtime : UnifiedRuntimeRecord) : Agent Bool :=
  match runtime.processId with
  | none => pure false
  | some pid => if pid = 0 then pure false else probe (.pidAlive pid)

def startProcessRuntime (s : Settings) (runtime : UnifiedRuntimeRecord)
    (artifact : ArtifactBundle) : Agent UnifiedRuntimeRecord := do
  match runtime.runtimeDir with
  | none => raise (.inferenceRuntimeError
      "runtime directory missing before start" "start_inference_backend")
  | some _ => do
      if ← reuses runtime then
        pure { runtime with
          backendName := some "process-local-runtime"
          metadata := { runtime.metadata with backendStarted := some true } }
      else do
        let _ ← makeRuntimeDir runtime.deploymentId
        let port ← probe .chooseLoopbackPort
        let pid ← spawnServer runtime.deploymentId
        let url := s!"http://{s.dockerHost}:{port}"
        let rounds ← probe .rounds
        healthRounds url none rounds
        pure { runtime with
          processId := some pid
          runtimeUrl := some url
          backendName := some "process-local-runtime"
          runtimeMode := some "process"
          modelIdentifier :=
            if truthy artifact.modelIdentifier then artifact.modelIdentifier
            else some artifact.image
          metadata := { runtime.metadata with backendStarted := some true } }

/-- A failed start falls back with the record from before the start. -/
def startRuntime (s : Settings) (runtime : UnifiedRuntimeRecord)
    (artifact : ArtifactBundle) : Agent UnifiedRuntimeRecord := do
  match ← attempt (startProcessRuntime s runtime artifact) with
  | .ok started => pure started
  | .error (.permissionError _) => startFallbackRuntime runtime artifact
  | .error (.inferenceRuntimeError message stage) =>
      if stage = "start_inference_backend" ∨ stage = "health_check" then
        startFallbackRuntime runtime artifact
      else raise (.inferenceRuntimeError message stage)
  | .error x => raise x

def stopRuntime (runtime : UnifiedRuntimeRecord) :
    Agent UnifiedRuntimeRecord :=
  if runtime.runtimeMode = some "fallback" then
    pure (LocalArtifactInferenceBackend.stopRuntime runtime)
  else do
    terminateRecordedPid runtime
    pure { runtime with
      processId := none
      runtimeUrl := none
      metadata := { runtime.metadata with backendStarted := some false } }

end ProcessInferenceBackend

/-! ## The backend that the settings select -/

namespace InferenceBackend

def startRuntime (s : Settings) (runtime : UnifiedRuntimeRecord)
    (artifact : ArtifactBundle) : Agent UnifiedRuntimeRecord :=
  match s.inferenceBackend with
  | .docker => DockerInferenceBackend.startRuntime s runtime artifact
  | .process => ProcessInferenceBackend.startRuntime s runtime artifact
  | .fallback => LocalArtifactInferenceBackend.startRuntime runtime artifact

def stopRuntime (s : Settings) (runtime : UnifiedRuntimeRecord) :
    Agent UnifiedRuntimeRecord :=
  match s.inferenceBackend with
  | .docker => DockerInferenceBackend.stopRuntime runtime
  | .process => ProcessInferenceBackend.stopRuntime runtime
  | .fallback => pure (LocalArtifactInferenceBackend.stopRuntime runtime)

end InferenceBackend

end NodeAgent
