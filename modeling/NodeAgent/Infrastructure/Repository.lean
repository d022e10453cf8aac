import NodeAgent.Protocol
import NodeAgent.Foundation.Dict

/-!
# The agent's tables

`NodeAgentRepository.runtimes` and the service's volume records.  A record is
only ever stored under its own deployment id.
-/

namespace NodeAgent

open Effectful

abbrev RuntimeTable := Table UnifiedRuntimeRecord.deploymentId

abbrev VolumeTable := Table VolumeRecord.deploymentId

end NodeAgent
