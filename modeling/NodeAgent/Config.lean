import NodeAgent.Protocol

/-! # Agent settings -/

namespace NodeAgent

inductive PodBackendKind where
  | process
  | stub
  deriving DecidableEq, Repr

inductive InferenceBackendKind where
  | docker
  | process
  | fallback
  deriving DecidableEq, Repr

inductive VMBackendKind where
  | firecracker
  | stub
  deriving DecidableEq, Repr

/-- Anything but the first name of each setting selects its last backend. -/
structure Settings where
  nodeId : String := "node-local"
  minerApiBaseUrl : String := "http://127.0.0.1:8007"
  volumeBaseDir : String := "/tmp/greencompute-node-volumes"
  gpuCount : Nat := 1
  memoryGb : Nat := 128
  podBackend : PodBackendKind := .process
  inferenceBackend : InferenceBackendKind := .docker
  vmBackend : VMBackendKind := .stub
  sshHost : String := "127.0.0.1"
  sshPortRangeStart : Nat := 30000
  sshPortRangeEnd : Nat := 31000
  userPortRangeStart : Nat := 31001
  userPortRangeEnd : Nat := 32000
  /-- The image that `_auto_select_vllm_image` or the operator picked. -/
  vllmImage : String := "vllm/vllm-openai:v0.19.1-cu130-ubuntu2404"
  diffusionImage : String := "ghcr.io/greencompute110/diffusion:latest"
  /-- The protocol's default for a record's `gpu_fraction`. -/
  defaultGpuFraction : Rat := 1
  healthTimeoutSeconds : String := "1200.0"
  /-- What `_docker_host()` finds on the machine. -/
  dockerHost : String := "127.0.0.1"
  /-- `DiskMode.STORAGE_OPT` is in force. -/
  storageOpt : Bool := false

def InferenceBackendKind.mode : InferenceBackendKind → String
  | .docker => "docker"
  | .process => "process"
  | .fallback => "fallback"

end NodeAgent
