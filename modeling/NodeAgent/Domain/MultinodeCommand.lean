import NodeAgent.Domain.MultinodeLaunch
import NodeAgent.Foundation.Shell
import NodeAgent.Foundation.Decimal
import Mathlib.Algebra.Ring.Nat

/-!
# The commands of a distributed replica

Each rank's container runs one shell text.  A simple command stands for its
words, and the text of a pipeline or of a Python snippet for what it is there
to do; host names and server arguments have no character that the shell reads.
-/

namespace NodeAgent

/-- The parameters of a rank together with the text of the head's host. -/
structure LaunchParams extends MultiNodeParams where
  headHost : String
  named : hasHeadHost = decide (headHost ≠ "")

/-- Where a `ray start` puts its node. -/
inductive RayPlace where
  | head (port : Int)
  | address (address : String)
  deriving DecidableEq, Repr

structure RayStart where
  place : RayPlace
  numGpus : Int
  objectStoreMemory : Nat
  block : Bool := false
  deriving DecidableEq, Repr

inductive RankCommand where
  /-- `command -v ray >/dev/null 2>&1` -/
  | findRay
  /-- `pip install -q "ray[default]"` -/
  | installRay
  /-- `echo … | base64 -d > /tmp/gc_nic.py`, a probe for an address prefix -/
  | writeNicProbe (addressPrefix : String)
  /-- `GC_NIC=$(python3 /tmp/gc_nic.py)` -/
  | runNicProbe
  /-- `[ -n "$GC_NIC" ]` -/
  | nicFound
  /-- `export NCCL_SOCKET_IFNAME=$GC_NIC GLOO_SOCKET_IFNAME=$GC_NIC …` -/
  | exportNic
  | echo (text : String)
  | rayStart (start : RayStart)
  /-- `python3 -c`, the snippet that polls the cluster's GPUs -/
  | clusterWait (expected seconds : Int)
  /-- The words of the server's command line. -/
  | serve (words : List String)
  /-- `deadline=$(( $(date +%s) + … ))` -/
  | setDeadline (seconds : Int)
  /-- `[ $(date +%s) -ge $deadline ]` -/
  | deadlinePassed
  | sleep (seconds : Nat)
  deriving DecidableEq, Repr

abbrev RankText := List (Shell.Token RankCommand)

open Shell.Token RankCommand

def rayObjectStoreBytes : Nat := 8 * 1024 ^ 3

def distributedShmSize : String := "32g"

def distributedNofile : String := "65536:524288"

def rayBootstrap : RankText := [cmd findRay, orIf, cmd installRay]

def nicPrefix (headHost : String) : String :=
  ".".intercalate ((headHost.splitOn ".").take 3) ++ "."

def buildNicPinCommand (headHost : String) : RankText :=
  [cmd (writeNicProbe (nicPrefix headHost)), semi, cmd runNicProbe, semi,
    cmd nicFound, andIf, cmd exportNic, semi,
    cmd (echo "greencompute: pinned NCCL/Gloo to $\x7bGC_NIC:-auto\x7d")]

def buildRayStartCommand (p : LaunchParams) : RayStart where
  place :=
    if p.isHead then .head p.headPort
    else .address s!"{p.headHost}:{p.headPort}"
  numGpus := p.gpusPerNode
  objectStoreMemory := rayObjectStoreBytes

def buildClusterWaitCommand (p : LaunchParams) : RankCommand :=
  clusterWait p.totalGpus p.clusterWaitSeconds

def buildDistributedVllmFlags (p : LaunchParams) : List String :=
  ["--tensor-parallel-size", toString p.tensorParallelSize,
    "--pipeline-parallel-size", toString p.pipelineParallelSize,
    "--distributed-executor-backend", "ray"]

/-- Join the head's cluster, again and again until it does or time is up. -/
def buildWorkerEntrypoint (p : LaunchParams) : RankText :=
  rayBootstrap ++ semi :: buildNicPinCommand p.headHost ++
    [semi, cmd (setDeadline p.clusterWaitSeconds), semi,
      untilT, cmd (rayStart { buildRayStartCommand p with block := true }),
      semi, doT,
        ifT, cmd deadlinePassed, semi, thenT,
          cmd (echo s!"multi-node worker: head {p.headHost}:{p.headPort} unreachable after {p.clusterWaitSeconds}s"),
          semi, exit 1, semi,
        fiT, semi,
        cmd (echo s!"waiting for ray head {p.headHost}:{p.headPort}..."), semi,
        cmd (sleep 10), semi,
      doneT]

/-- Bring up Ray, wait for the whole cluster, then serve. -/
def buildHeadEntrypoint (p : LaunchParams) (vllmArgv : List String) :
    RankText :=
  Shell.joinAnd
    [rayBootstrap, buildNicPinCommand p.headHost,
      [cmd (rayStart (buildRayStartCommand p))],
      [cmd (buildClusterWaitCommand p)], [cmd (serve vllmArgv)]]

/-! ## Rewriting a single-node command -/

/-- Leave out every flag that `drop` names, each with the word after it. -/
def stripPairs (drop : List String) : List String → List String
  | [] => []
  | word :: rest =>
      if word ∈ drop then
        match rest with
        | [] => []
        | _ :: rest => stripPairs drop rest
      else word :: stripPairs drop rest

def stripPortPublish (dockerFlags : List String) : List String :=
  stripPairs ["-p", "--publish"] dockerFlags

def parallelismFlags : List String :=
  ["--tensor-parallel-size", "--pipeline-parallel-size",
    "--distributed-executor-backend"]

def stripParallelismFlags (serveArgv : List String) : List String :=
  stripPairs parallelismFlags serveArgv

def setShmSize (dockerFlags : List String) : List String :=
  match stripPairs ["--shm-size"] dockerFlags with
  | "docker" :: "run" :: rest =>
      "docker" :: "run" :: "--shm-size" :: distributedShmSize :: rest
  | flags => "--shm-size" :: distributedShmSize :: flags

def dockerNetworkFlags : List String := ["--network", "host"]

def dockerUlimitFlags : List String :=
  ["--ulimit", s!"nofile={distributedNofile}"]

inductive ContainerArgs where
  | server (words : List String)
  | shell (text : RankText)

/-- `docker run`: the words before the image, the image, what is behind it. -/
structure DockerCommand where
  flags : List String
  image : String
  args : ContainerArgs

/-- `vllmEntry` is given as the words that the shell splits it into. -/
def buildDockerCommand (dockerFlags : List String) (image : String)
    (serveArgv : List String) (p : LaunchParams) (vllmEntry : List String) :
    DockerCommand where
  flags := setShmSize (stripPortPublish dockerFlags) ++ dockerNetworkFlags ++
    dockerUlimitFlags ++ ["--entrypoint", "sh"]
  image := image
  args := .shell
    (if p.isHead then
      buildHeadEntrypoint p
        (vllmEntry ++ stripParallelismFlags serveArgv ++
          buildDistributedVllmFlags p)
    else buildWorkerEntrypoint p)

/-! ## What the texts are as scripts -/

section HeadScript

open Shell.Script

variable (p : LaunchParams) (vllmArgv : List String)

def pinnedScript : Shell.Script RankCommand :=
  and (and (and
      (run (echo "greencompute: pinned NCCL/Gloo to ${GC_NIC:-auto}"))
      (run (rayStart (buildRayStartCommand p))))
      (run (buildClusterWaitCommand p)))
    (run (serve vllmArgv))

def exportScript : Shell.Script RankCommand :=
  seq (and (run nicFound) (run exportNic)) (pinnedScript p vllmArgv)

def probeScript : Shell.Script RankCommand :=
  seq (run runNicProbe) (exportScript p vllmArgv)

/-- `;` binds less than `&&`: only the last list stands before the server. -/
def headScript : Shell.Script RankCommand :=
  seq (and (or (run findRay) (run installRay))
    (run (writeNicProbe (nicPrefix p.headHost)))) (probeScript p vllmArgv)

end HeadScript

theorem parse_headEntrypoint (p : LaunchParams) (vllmArgv : List String) :
    Shell.parse (buildHeadEntrypoint p vllmArgv) =
      some (headScript p vllmArgv) := rfl

open Shell.Script in
def workerScript (p : LaunchParams) : Shell.Script RankCommand :=
  seq (or (run findRay) (run installRay))
    (seq (run (writeNicProbe (nicPrefix p.headHost)))
      (seq (run runNicProbe)
        (seq (and (run nicFound) (run exportNic))
          (seq (run (echo "greencompute: pinned NCCL/Gloo to $\x7bGC_NIC:-auto\x7d"))
            (seq (run (setDeadline p.clusterWaitSeconds))
              (untilDo
                (run (rayStart { buildRayStartCommand p with block := true }))
                (seq
                  (ifThen (run deadlinePassed)
                    (seq
                      (run (echo s!"multi-node worker: head {p.headHost}:{p.headPort} unreachable after {p.clusterWaitSeconds}s"))
                      (exit 1)))
                  (seq
                    (run (echo s!"waiting for ray head {p.headHost}:{p.headPort}..."))
                    (run (sleep 10))))))))))

theorem parse_workerEntrypoint (p : LaunchParams) :
    Shell.parse (buildWorkerEntrypoint p) = some (workerScript p) := rfl

/-! ## Options on a command line -/

/-- The value that an option has in the end: the word after its last use. -/
def optionValue (option : String) : List String → Option String
  | [] => none
  | word :: rest =>
      match optionValue option rest with
      | some value => some value
      | none => if word = option then rest.head? else none

theorem optionValue_append {option value : String} {words : List String}
    (h : optionValue option words = some value) (before : List String) :
    optionValue option (before ++ words) = some value := by
  induction before with
  | nil => exact h
  | cons word before ih => simp [optionValue, ih]

theorem optionValue_eq_none {option : String} {words : List String}
    (h : option ∉ words) : optionValue option words = none := by
  induction words with
  | nil => rfl
  | cons word rest ih =>
      simp only [List.mem_cons, not_or] at h
      simp [optionValue, ih h.2, Ne.symm h.1]

theorem optionValue_last {option value : String} {words : List String}
    (h : option ∉ value :: words) :
    optionValue option (option :: value :: words) = some value := by
  rw [optionValue, optionValue_eq_none h]
  simp

theorem optionValue_tensorParallel (p : LaunchParams) (before : List String) :
    optionValue "--tensor-parallel-size"
        (before ++ buildDistributedVllmFlags p) =
      some (toString p.tensorParallelSize) := by
  refine optionValue_append (optionValue_last ?_) before
  have hname : ∀ z : Int, z.repr ≠ "--tensor-parallel-size" :=
    Decimal.int_repr_ne (show 't' ∈ _ by simp) (by decide) (by decide)
  simp [Ne.symm (hname _)]

theorem optionValue_pipelineParallel (p : LaunchParams) (before : List String) :
    optionValue "--pipeline-parallel-size"
        (before ++ buildDistributedVllmFlags p) =
      some (toString p.pipelineParallelSize) := by
  have hname : ∀ z : Int, z.repr ≠ "--pipeline-parallel-size" :=
    Decimal.int_repr_ne (show 'p' ∈ _ by simp) (by decide) (by decide)
  rw [buildDistributedVllmFlags,
    show before ++ _ = (before ++ ["--tensor-parallel-size",
      toString p.tensorParallelSize]) ++ _ by simp; rfl]
  refine optionValue_append (optionValue_last ?_) _
  simp [Ne.symm (hname _)]

end NodeAgent
