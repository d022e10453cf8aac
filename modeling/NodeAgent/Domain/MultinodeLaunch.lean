import NodeAgent.Protocol

/-!
# One node's share of a distributed replica

What the agent decides from a replica's topology before it runs anything.  The
shell text of the ranks is left out.
-/

namespace NodeAgent

inductive ReplicaRole where
  | head
  | worker
  deriving DecidableEq, Repr

def ReplicaRole.text : ReplicaRole → String
  | .head => "head"
  | .worker => "worker"

structure MultiNodeParams where
  role : ReplicaRole
  rank : Int
  hasHeadHost : Bool
  tensorParallelSize : Int
  pipelineParallelSize : Int
  gpusPerNode : Int
  nodeCount : Int
  headPort : Int
  clusterWaitSeconds : Int
  deriving DecidableEq, Repr

namespace MultiNodeParams

def isHead (p : MultiNodeParams) : Bool := p.role = .head

def worldSize (p : MultiNodeParams) : Int :=
  p.tensorParallelSize * p.pipelineParallelSize

def totalGpus (p : MultiNodeParams) : Int := p.nodeCount * p.gpusPerNode

end MultiNodeParams

def parseRole : Option Json → Option ReplicaRole
  | some (.str text) =>
      if lower text = "head" then some .head
      else if lower text = "worker" then some .worker
      else none
  | _ => none

/-- `str(value).strip()` is not empty; only a text can be. -/
def namesHost : Option Json → Bool
  | none => false
  | some (.str text) => strip text ≠ ""
  | some _ => true

/-- `int(raw.get(key) or default)`. -/
def intOr (value : Option Json) (default : Int) : Except Exn Int :=
  match value with
  | none => .ok default
  | some json => if json.truthy then json.toInt else .ok default

def required : Option Json → Except Exn Int
  | none => .error (.unexpected "KeyError")
  | some json => json.toInt

def readParams (role : ReplicaRole) (raw : MultiNodeDict) :
    Except Exn MultiNodeParams := do
  let nodeCount ← required raw.nodeCount
  let gpusPerNode ← required raw.gpusPerNode
  let rank ← match raw.rank with
    | none => .ok 0
    | some json => json.toInt
  let tensorParallelSize ← intOr raw.tensorParallelSize gpusPerNode
  let pipelineParallelSize ← intOr raw.pipelineParallelSize nodeCount
  let headPort ← intOr raw.headPort 6379
  let clusterWaitSeconds ← intOr raw.clusterWaitSeconds 1800
  return { role, rank, hasHeadHost := namesHost raw.headHost,
           tensorParallelSize, pipelineParallelSize, gpusPerNode, nodeCount,
           headPort, clusterWaitSeconds }

/-- A malformed topology is no topology; the start then goes on as if alone. -/
def parseMultiNodeParams (raw : Option MultiNodeDict) :
    Option MultiNodeParams := do
  let raw ← raw
  let role ← parseRole raw.role
  (readParams role raw).toOption

def validateParams (p : MultiNodeParams) : List String :=
  (if p.nodeCount < 2 then
    ["node_count must be >= 2 for a distributed replica"] else []) ++
  (if p.gpusPerNode < 1 then ["gpus_per_node must be >= 1"] else []) ++
  (if p.worldSize ≠ p.totalGpus then
    [s!"world size {p.tensorParallelSize}x{p.pipelineParallelSize}={p.worldSize} != reserved GPUs {p.nodeCount}x{p.gpusPerNode}={p.totalGpus}"]
    else []) ++
  (if p.gpusPerNode < p.tensorParallelSize then
    [s!"tensor_parallel_size {p.tensorParallelSize} exceeds gpus_per_node {p.gpusPerNode} — tensor parallelism cannot span nodes"]
    else []) ++
  (if !p.isHead ∧ !p.hasHeadHost then
    ["worker has no head_host to join"] else []) ++
  (if p.isHead ∧ p.rank ≠ 0 then
    [s!"head must be rank 0, got {p.rank}"] else []) ++
  (if !p.isHead ∧ p.rank = 0 then ["rank 0 is reserved for the head"] else [])

def isWorkerRuntime (metadata : RuntimeMetadata) : Bool :=
  metadata.multiNodeRole = some "worker"

end NodeAgent
