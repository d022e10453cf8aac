import NodeAgent.Domain.Pod

/-! # VM backends -/

namespace NodeAgent

open Effectful Program Agent

namespace StubVMBackend

def startVm (runtime : UnifiedRuntimeRecord) : UnifiedRuntimeRecord :=
  { runtime with
    vmId := some ("stub-vm-" ++ prefixOf 8 runtime.deploymentId)
    status := .ready
    currentStage := "ready"
    sshHost :=
      if truthy runtime.sshHost then runtime.sshHost else some "127.0.0.1"
    sshPort :=
      if (runtime.sshPort.getD 0) ≠ 0 then runtime.sshPort else some 22
    sshUsername := some "root" }

end StubVMBackend

namespace FirecrackerVMBackend

def startVm (runtime : UnifiedRuntimeRecord) :
    Agent UnifiedRuntimeRecord := do
  let result ← orNotAvailable
    (fun x => .vmError s!"firecracker not available: {x.message}")
    (probe .firecrackerVersion)
  if result.returncode ≠ 0 then
    raise (.vmError "firecracker binary not functional")
  else
    pure { runtime with
      vmId := some ("fc-" ++ prefixOf 8 runtime.deploymentId)
      status := .ready
      currentStage := "ready" }

end FirecrackerVMBackend

namespace VMBackend

def startVm (s : Settings) (runtime : UnifiedRuntimeRecord) :
    Agent UnifiedRuntimeRecord :=
  match s.vmBackend with
  | .firecracker => FirecrackerVMBackend.startVm runtime
  | .stub => pure (StubVMBackend.startVm runtime)

/-- Both backends only move the record, and the agent drops the moved one. -/
def stopVm (runtime : UnifiedRuntimeRecord) : UnifiedRuntimeRecord :=
  { runtime with
    status := .terminated
    currentStage := "terminated"
    vmId := none }

end VMBackend

end NodeAgent
