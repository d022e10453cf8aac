import NodeAgent.Domain.MultinodeCommand
import Mathlib.Algebra.BigOperators.Group.Finset.Basic
import Mathlib.Data.Fintype.Card

/-!
# Bringing up a distributed replica

The ranks of one topology run their shell texts side by side.  Containers come
and go at any time, every command returns any status, and a rank is in the Ray
cluster from some point of its own `ray start` until it drops out.
-/

namespace NodeAgent

open RankCommand

/-- The fields that all ranks of a replica share. -/
structure Topology where
  headHost : String
  tensorParallelSize : Int
  pipelineParallelSize : Int
  gpusPerNode : Int
  nodeCount : Int
  headPort : Int
  clusterWaitSeconds : Int

namespace Topology

/-- The parameters of the rank: 0 is the head, the others are workers. -/
def rank (t : Topology) (r : Nat) : LaunchParams where
  role := if r = 0 then .head else .worker
  rank := r
  hasHeadHost := decide (t.headHost ≠ "")
  tensorParallelSize := t.tensorParallelSize
  pipelineParallelSize := t.pipelineParallelSize
  gpusPerNode := t.gpusPerNode
  nodeCount := t.nodeCount
  headPort := t.headPort
  clusterWaitSeconds := t.clusterWaitSeconds
  headHost := t.headHost
  named := rfl

/-- No rank's parameters have a problem. -/
def Accepted (t : Topology) : Prop :=
  ∀ r : Nat, r < t.nodeCount → validateParams (t.rank r).toMultiNodeParams = []

end Topology

/-- A topology and what each rank's single-node command was. -/
structure Launch where
  topology : Topology
  dockerFlags : Nat → List String
  image : Nat → String
  serveArgv : Nat → List String
  vllmEntry : Nat → List String

namespace Launch

def command (l : Launch) (r : Nat) : DockerCommand :=
  buildDockerCommand (l.dockerFlags r) (l.image r) (l.serveArgv r)
    (l.topology.rank r) (l.vllmEntry r)

/-- The text after `sh -c` in the rank's container. -/
def text (l : Launch) (r : Nat) : RankText :=
  match (l.command r).args with
  | .shell text => text
  | .server _ => []

abbrev Rank (l : Launch) := Fin l.topology.nodeCount.toNat

def serveWords (l : Launch) (r : Nat) : List String :=
  l.vllmEntry r ++ stripParallelismFlags (l.serveArgv r) ++
    buildDistributedVllmFlags (l.topology.rank r)

end Launch

/-! ## The loop that waits for the cluster -/

/-- Where the snippet is: in its `while`, or at the `sys.exit` behind it. -/
inductive WaitPhase where
  | polling
  | checking
  deriving DecidableEq, Repr

/-- `while gpus() < expected and time.time() < deadline` -/
def pollCluster (expected gpus : Int) (timeUp : Bool) : WaitPhase :=
  if gpus < expected ∧ !timeUp then .polling else .checking

/-- `sys.exit(0 if gpus() >= expected else 1)` -/
def checkCluster (expected gpus : Int) : Nat :=
  if gpus ≥ expected then 0 else 1

/-! ## Runs of all ranks -/

inductive RankEvent (n : Nat) where
  | began (command : RankCommand)
  | returned (command : RankCommand) (status : Nat)
  | polled (joined : Finset (Fin n))

structure RankState (n : Nat) where
  shell : Option (Shell.State RankCommand)
  phase : WaitPhase
  history : List (RankEvent n)

namespace RankState

variable {n : Nat}

def absent : RankState n := ⟨none, .polling, []⟩

/-- The shell goes on, which may begin a command. -/
def goOn (history : List (RankEvent n)) (shell : Shell.State RankCommand) :
    RankState n where
  shell := some shell
  phase := .polling
  history :=
    match shell with
    | .waiting command _ => .began command :: history
    | .exited _ => history

end RankState

structure ReplicaState (n : Nat) where
  ranks : Fin n → RankState n
  joined : Finset (Fin n)

namespace ReplicaState

variable {n : Nat}

def init : ReplicaState n := ⟨fun _ => .absent, ∅⟩

def setRank (σ : ReplicaState n) (r : Fin n) (x : RankState n) :
    ReplicaState n :=
  { σ with ranks := Function.update σ.ranks r x }

end ReplicaState

namespace Launch

/-- The GPUs that Ray counts: each joined rank brings those of its command. -/
def clusterGpus (l : Launch) (joined : Finset l.Rank) : Int :=
  ∑ r ∈ joined, (buildRayStartCommand (l.topology.rank r)).numGpus

inductive Step (l : Launch) :
    ReplicaState l.topology.nodeCount.toNat →
    ReplicaState l.topology.nodeCount.toNat → Prop
  /-- A container is started, also one that ran before. -/
  | launch (σ) (r : l.Rank) (script)
      (hscript : Shell.parse (l.text r) = some script) :
      Step l σ { σ.setRank r (.goOn [] (Shell.start script)) with
        joined := σ.joined.erase r }
  /-- A container goes away, and its Ray node with it. -/
  | die (σ) (r : l.Rank) :
      Step l σ { σ.setRank r { σ.ranks r with shell := none } with
        joined := σ.joined.erase r }
  | join (σ) (r : l.Rank) (start stack)
      (hshell : (σ.ranks r).shell = some (.waiting (rayStart start) stack)) :
      Step l σ { σ with joined := insert r σ.joined }
  | leave (σ) (r : l.Rank) : Step l σ { σ with joined := σ.joined.erase r }
  /-- A command returns; the waiting snippet returns 0 in `check` only. -/
  | finish (σ) (r : l.Rank) (command stack status)
      (hshell : (σ.ranks r).shell = some (.waiting command stack))
      (hwait : ∀ expected seconds,
        command = clusterWait expected seconds → status ≠ 0) :
      Step l σ (σ.setRank r
        (.goOn (.returned command status :: (σ.ranks r).history)
          (Shell.resume status stack)))
  | poll (σ) (r : l.Rank) (expected seconds stack timeUp)
      (hshell : (σ.ranks r).shell =
        some (.waiting (clusterWait expected seconds) stack))
      (hphase : (σ.ranks r).phase = .polling) :
      Step l σ (σ.setRank r { σ.ranks r with
        phase := pollCluster expected (l.clusterGpus σ.joined) timeUp
        history := .polled σ.joined :: (σ.ranks r).history })
  | check (σ) (r : l.Rank) (expected seconds stack)
      (hshell : (σ.ranks r).shell =
        some (.waiting (clusterWait expected seconds) stack))
      (hphase : (σ.ranks r).phase = .checking) :
      Step l σ (σ.setRank r
        (.goOn (.returned (clusterWait expected seconds)
            (checkCluster expected (l.clusterGpus σ.joined)) ::
            .polled σ.joined :: (σ.ranks r).history)
          (Shell.resume (checkCluster expected (l.clusterGpus σ.joined)) stack)))

inductive Reachable (l : Launch) :
    ReplicaState l.topology.nodeCount.toNat → Prop
  | init : Reachable l .init
  | step {σ σ'} : Reachable l σ → Step l σ σ' → Reachable l σ'

/-! ## What holds of each rank in every run -/

variable {l : Launch}

structure RankInvariant (l : Launch)
    (I : l.Rank → RankState l.topology.nodeCount.toNat → Prop) : Prop where
  absent : ∀ r, I r .absent
  launch : ∀ (r : l.Rank) script, Shell.parse (l.text r) = some script →
    I r (.goOn [] (Shell.start script))
  die : ∀ r x, I r x → I r { x with shell := none }
  finish : ∀ r x command stack status, I r x →
    x.shell = some (.waiting command stack) →
    (∀ expected seconds, command = clusterWait expected seconds → status ≠ 0) →
    I r (.goOn (.returned command status :: x.history)
      (Shell.resume status stack))
  poll : ∀ r x expected seconds stack phase joined, I r x →
    x.shell = some (.waiting (clusterWait expected seconds) stack) →
    I r { x with phase := phase, history := .polled joined :: x.history }
  check : ∀ r x expected seconds stack joined, I r x →
    x.shell = some (.waiting (clusterWait expected seconds) stack) →
    I r (.goOn (.returned (clusterWait expected seconds)
        (checkCluster expected (l.clusterGpus joined)) ::
        .polled joined :: x.history)
      (Shell.resume (checkCluster expected (l.clusterGpus joined)) stack))

theorem RankInvariant.reachable
    {I : l.Rank → RankState l.topology.nodeCount.toNat → Prop}
    (hI : RankInvariant l I) {σ : ReplicaState l.topology.nodeCount.toNat}
    (h : Reachable l σ) (r : l.Rank) : I r (σ.ranks r) := by
  induction h generalizing r with
  | init => exact hI.absent r
  | @step σ σ' _ hstep ih =>
      have hset : ∀ (r' : l.Rank) x, I r' x → I r ((σ.setRank r' x).ranks r) := by
        intro r' x hx
        by_cases hr : r = r'
        · subst hr
          simpa [ReplicaState.setRank] using hx
        · simpa [ReplicaState.setRank, hr] using ih r
      cases hstep with
      | launch r' script hscript => exact hset r' _ (hI.launch r' script hscript)
      | die r' => exact hset r' _ (hI.die r' _ (ih r'))
      | join => exact ih r
      | leave => exact ih r
      | finish r' command stack status hshell hwait =>
          exact hset r' _ (hI.finish r' _ command stack status (ih r') hshell hwait)
      | poll r' expected seconds stack timeUp hshell hphase =>
          exact hset r' _ (hI.poll r' _ expected seconds stack _ _ (ih r') hshell)
      | check r' expected seconds stack hshell hphase =>
          exact hset r' _ (hI.check r' _ expected seconds stack _ (ih r') hshell)

theorem text_head (l : Launch) :
    l.text 0 = buildHeadEntrypoint (l.topology.rank 0) (l.serveWords 0) := rfl

theorem text_worker (l : Launch) {r : Nat} (h : r ≠ 0) :
    l.text r = buildWorkerEntrypoint (l.topology.rank r) := by
  simp [text, command, buildDockerCommand, MultiNodeParams.isHead,
    Topology.rank, h]

theorem parse_text (l : Launch) (r : Nat) :
    Shell.parse (l.text r) = some
      (if r = 0 then headScript (l.topology.rank 0) (l.serveWords 0)
        else workerScript (l.topology.rank r)) := by
  by_cases h : r = 0
  · subst h
    rw [text_head, if_pos rfl, parse_headEntrypoint]
  · rw [text_worker l h, if_neg h, parse_workerEntrypoint]

/-! ## The commands of a rank are those of its script -/

/-- Where the rank's `ray start` has to put its node. -/
def rayPlace (l : Launch) (r : Nat) : RayPlace :=
  if r = 0 then .head l.topology.headPort
  else .address s!"{l.topology.headHost}:{l.topology.headPort}"

def Allowed (l : Launch) (r : Nat) : RankCommand → Prop
  | rayStart start =>
      start.place = l.rayPlace r ∧ start.numGpus = l.topology.gpusPerNode
  | serve words => r = 0 ∧ words = l.serveWords 0
  | _ => True

theorem rayStart_place (l : Launch) (r : Nat) :
    (buildRayStartCommand (l.topology.rank r)).place = l.rayPlace r := by
  by_cases h : r = 0 <;>
    simp [buildRayStartCommand, rayPlace, MultiNodeParams.isHead,
      Topology.rank, h]

theorem script_allowed (l : Launch) (r : Nat) :
    (if r = 0 then headScript (l.topology.rank 0) (l.serveWords 0)
      else workerScript (l.topology.rank r)).All (l.Allowed r) := by
  have hstart := l.rayStart_place r
  have hgpus : (buildRayStartCommand (l.topology.rank r)).numGpus =
      l.topology.gpusPerNode := rfl
  by_cases h : r = 0
  · subst h
    simp [headScript, probeScript, exportScript, pinnedScript,
      Shell.Script.All, Allowed, hstart, hgpus,
      buildClusterWaitCommand]
  · simp [h, workerScript, Shell.Script.All, Allowed, hstart, hgpus]

structure RunsOwn (l : Launch) (r : Nat) {n : Nat} (x : RankState n) : Prop where
  shell : ∀ state, x.shell = some state → state.All (l.Allowed r)
  begun : ∀ command, .began command ∈ x.history → l.Allowed r command

theorem RunsOwn.goOn {r n : Nat} {history : List (RankEvent n)}
    {state : Shell.State RankCommand}
    (hbegun : ∀ command, .began command ∈ history → l.Allowed r command)
    (hstate : state.All (l.Allowed r)) :
    RunsOwn l r (RankState.goOn history state) where
  shell := by
    rintro _ ⟨⟩
    exact hstate
  begun := by
    intro command hmem
    cases state with
    | exited status => exact hbegun command hmem
    | waiting command' stack =>
        rcases List.mem_cons.mp hmem with heq | hmem
        · cases heq
          exact hstate.1
        · exact hbegun command hmem

theorem runsOwn_invariant (l : Launch) :
    RankInvariant l fun r x => RunsOwn l r x where
  absent r := ⟨by simp [RankState.absent], by simp [RankState.absent]⟩
  launch r script hscript := by
    rw [parse_text, Option.some.injEq] at hscript
    subst hscript
    exact .goOn (by simp) (Shell.start_all (script_allowed l r))
  die r x hx := ⟨by simp, hx.begun⟩
  finish r x command stack status hx hshell _ := by
    refine .goOn (fun command' hmem => hx.begun command' ?_)
      (Shell.resume_all (hx.shell _ hshell).2)
    simpa using hmem
  poll r x expected seconds stack phase joined hx hshell :=
    ⟨hx.shell, fun command hmem => hx.begun command (by simpa using hmem)⟩
  check r x expected seconds stack joined hx hshell := by
    refine .goOn (fun command' hmem => hx.begun command' ?_)
      (Shell.resume_all (hx.shell _ hshell).2)
    simpa using hmem

/-! ## The head serves behind its wait -/

/-- The head's `ray start` returned 0, and then the wait saw enough GPUs. -/
def Cleared (l : Launch)
    (history : List (RankEvent l.topology.nodeCount.toNat)) : Prop :=
  ∃ joined earlier expected seconds,
    history = .returned (clusterWait expected seconds) 0 ::
      .polled joined :: earlier ∧
    .returned (rayStart (buildRayStartCommand (l.topology.rank 0))) 0 ∈ earlier ∧
    l.topology.nodeCount * l.topology.gpusPerNode ≤ l.clusterGpus joined

def ServesCleared (l : Launch)
    (history : List (RankEvent l.topology.nodeCount.toNat)) : Prop :=
  ∀ later earlier words,
    history = later ++ .began (serve words) :: earlier → l.Cleared earlier

theorem ServesCleared.nil : l.ServesCleared [] := by
  intro later earlier words h
  simp at h

theorem ServesCleared.cons
    {history : List (RankEvent l.topology.nodeCount.toNat)}
    {event : RankEvent l.topology.nodeCount.toNat}
    (h : l.ServesCleared history)
    (hevent : ∀ words, event = .began (serve words) → l.Cleared history) :
    l.ServesCleared (event :: history) := by
  intro later earlier words heq
  cases later with
  | nil =>
      obtain ⟨rfl, rfl⟩ := List.cons.inj heq
      exact hevent words rfl
  | cons first later =>
      obtain ⟨-, htail⟩ := List.cons.inj heq
      exact h later earlier words htail

section HeadAt

open Shell.Frame

variable (l : Launch)

inductive HeadAt (history : List (RankEvent l.topology.nodeCount.toNat)) :
    Shell.State RankCommand → Prop
  | findRay : HeadAt history (.waiting findRay
      [orElse (.run installRay),
        andThen (.run (writeNicProbe (nicPrefix (l.topology.rank 0).headHost))),
        seqThen (probeScript (l.topology.rank 0) (l.serveWords 0))])
  | installRay : HeadAt history (.waiting installRay
      [andThen (.run (writeNicProbe (nicPrefix (l.topology.rank 0).headHost))),
        seqThen (probeScript (l.topology.rank 0) (l.serveWords 0))])
  | writeNicProbe (addressPrefix) : HeadAt history
      (.waiting (writeNicProbe addressPrefix)
        [seqThen (probeScript (l.topology.rank 0) (l.serveWords 0))])
  | runNicProbe : HeadAt history (.waiting runNicProbe
      [seqThen (exportScript (l.topology.rank 0) (l.serveWords 0))])
  | nicFound : HeadAt history (.waiting nicFound
      [andThen (.run exportNic),
        seqThen (pinnedScript (l.topology.rank 0) (l.serveWords 0))])
  | exportNic : HeadAt history (.waiting exportNic
      [seqThen (pinnedScript (l.topology.rank 0) (l.serveWords 0))])
  | echo (text) : HeadAt history (.waiting (echo text)
      [andThen (.run (rayStart (buildRayStartCommand (l.topology.rank 0)))),
        andThen (.run (buildClusterWaitCommand (l.topology.rank 0))),
        andThen (.run (serve (l.serveWords 0)))])
  | rayStart : HeadAt history
      (.waiting (rayStart (buildRayStartCommand (l.topology.rank 0)))
        [andThen (.run (buildClusterWaitCommand (l.topology.rank 0))),
          andThen (.run (serve (l.serveWords 0)))])
  | clusterWait
      (hray : .returned (rayStart (buildRayStartCommand (l.topology.rank 0))) 0 ∈
        history) :
      HeadAt history (.waiting (buildClusterWaitCommand (l.topology.rank 0))
        [andThen (.run (serve (l.serveWords 0)))])
  | serve : HeadAt history (.waiting (serve (l.serveWords 0)) [])
  | exited (status) : HeadAt history (.exited status)

end HeadAt

theorem HeadAt.start (l : Launch) : HeadAt l []
    (Shell.start (headScript (l.topology.rank 0) (l.serveWords 0))) :=
  .findRay

theorem HeadAt.poll {history} {state : Shell.State RankCommand}
    (h : HeadAt l history state) (event) : HeadAt l (event :: history) state := by
  cases h with
  | clusterWait hray => exact .clusterWait (List.mem_cons_of_mem _ hray)
  | _ => constructor

theorem HeadAt.resume {history} {command : RankCommand}
    {stack : List (Shell.Frame RankCommand)}
    (h : HeadAt l history (.waiting command stack)) (status : Nat) :
    HeadAt l (.returned command status :: history) (Shell.resume status stack) ∧
      ∀ words stack', Shell.resume status stack = .waiting (.serve words) stack' →
        status = 0 ∧
        command = buildClusterWaitCommand (l.topology.rank 0) ∧
        .returned (.rayStart (buildRayStartCommand (l.topology.rank 0))) 0 ∈
          history := by
  by_cases hstatus : status = 0
  · subst hstatus
    cases h with
    | findRay => exact ⟨.writeNicProbe _, by simp [Shell.resume, Shell.enter]⟩
    | installRay => exact ⟨.writeNicProbe _, by simp [Shell.resume, Shell.enter]⟩
    | writeNicProbe _ => exact ⟨.runNicProbe, by
        simp [Shell.resume, Shell.enter, probeScript]⟩
    | runNicProbe => exact ⟨.nicFound, by
        simp [Shell.resume, Shell.enter, exportScript]⟩
    | nicFound => exact ⟨.exportNic, by simp [Shell.resume, Shell.enter]⟩
    | exportNic => exact ⟨.echo _, by
        simp [Shell.resume, Shell.enter, pinnedScript]⟩
    | echo _ => exact ⟨.rayStart, by simp [Shell.resume, Shell.enter]⟩
    | rayStart => exact ⟨.clusterWait (by simp), by
        simp [Shell.resume, Shell.enter, buildClusterWaitCommand]⟩
    | clusterWait hray => exact ⟨.serve, fun _ _ _ => ⟨rfl, rfl, hray⟩⟩
    | serve => exact ⟨.exited _, by simp [Shell.resume]⟩
  · cases h with
    | findRay =>
        simp only [Shell.resume, if_neg hstatus, Shell.enter]
        exact ⟨.installRay, by simp⟩
    | installRay =>
        simp only [Shell.resume, if_neg hstatus, Shell.enter]
        exact ⟨.runNicProbe, by simp [probeScript, Shell.enter]⟩
    | writeNicProbe _ => exact ⟨.runNicProbe, by
        simp [Shell.resume, Shell.enter, probeScript]⟩
    | runNicProbe => exact ⟨.nicFound, by
        simp [Shell.resume, Shell.enter, exportScript]⟩
    | nicFound =>
        simp only [Shell.resume, if_neg hstatus]
        exact ⟨.echo _, by simp [pinnedScript, Shell.enter]⟩
    | exportNic => exact ⟨.echo _, by
        simp [Shell.resume, Shell.enter, pinnedScript]⟩
    | echo _ | rayStart | clusterWait _ | serve =>
        simp only [Shell.resume, if_neg hstatus]
        exact ⟨.exited _, by simp⟩

structure HeadRuns (l : Launch)
    (x : RankState l.topology.nodeCount.toNat) : Prop where
  cleared : l.ServesCleared x.history
  shell : ∀ state, x.shell = some state → HeadAt l x.history state

theorem HeadRuns.goOn {history} {state : Shell.State RankCommand}
    (hcleared : l.ServesCleared history) (hat : HeadAt l history state)
    (hserve : ∀ words stack, state = .waiting (serve words) stack →
      l.Cleared history) :
    HeadRuns l (RankState.goOn history state) := by
  cases state with
  | exited status => exact ⟨hcleared, fun _ h => by cases h; exact hat⟩
  | waiting command stack =>
      refine ⟨hcleared.cons fun words heq => ?_, fun _ h => ?_⟩
      · cases heq
        exact hserve words stack rfl
      · cases h
        exact hat.poll _

theorem checkCluster_eq_zero {expected gpus : Int} :
    checkCluster expected gpus = 0 ↔ expected ≤ gpus := by
  simp [checkCluster]

theorem headRuns_invariant (l : Launch) :
    RankInvariant l fun r x => (r : Nat) = 0 → HeadRuns l x where
  absent r _ := ⟨.nil, by simp [RankState.absent]⟩
  launch r script hscript hr := by
    rw [hr, parse_text, if_pos rfl, Option.some.injEq] at hscript
    subst hscript
    exact .goOn .nil (.start l) fun words stack h => by cases h
  die r x hx hr := ⟨(hx hr).cleared, by simp⟩
  finish r x command stack status hx hshell hwait hr := by
    have hcleared : l.ServesCleared (.returned command status :: x.history) :=
      (hx hr).cleared.cons (by simp)
    obtain ⟨hat, hserve⟩ := ((hx hr).shell _ hshell).resume status
    refine .goOn hcleared hat fun words stack' heq => ?_
    obtain ⟨hzero, hcommand, -⟩ := hserve words stack' heq
    exact absurd hzero (hwait _ _ hcommand)
  poll r x expected seconds stack phase joined hx hshell hr := by
    refine ⟨(hx hr).cleared.cons (by simp), fun state hstate => ?_⟩
    exact ((hx hr).shell state hstate).poll _
  check r x expected seconds stack joined hx hshell hr := by
    have hpolled : l.ServesCleared (.polled joined :: x.history) :=
      (hx hr).cleared.cons (by simp)
    obtain ⟨hat, hserve⟩ := (((hx hr).shell _ hshell).poll (.polled joined)).resume
      (checkCluster expected (l.clusterGpus joined))
    refine .goOn (hpolled.cons (by simp)) hat fun words stack' heq => ?_
    obtain ⟨hzero, hcommand, hray⟩ := hserve words stack' heq
    obtain ⟨rfl, rfl⟩ := RankCommand.clusterWait.inj hcommand
    refine ⟨joined, x.history, _, _, by rw [hzero], by simpa using hray, ?_⟩
    exact checkCluster_eq_zero.mp hzero

/-! ## All ranks are there -/

theorem clusterGpus_eq (l : Launch) (joined : Finset l.Rank) :
    l.clusterGpus joined = joined.card * l.topology.gpusPerNode := by
  simp [clusterGpus, buildRayStartCommand, Topology.rank]

theorem accepted_head (h : l.topology.Accepted)
    (hnodes : 0 < l.topology.nodeCount) :
    2 ≤ l.topology.nodeCount ∧ 1 ≤ l.topology.gpusPerNode ∧
      l.topology.tensorParallelSize * l.topology.pipelineParallelSize =
        l.topology.nodeCount * l.topology.gpusPerNode := by
  have hvalid := h 0 (by simpa using hnodes)
  simp only [validateParams, List.append_eq_nil_iff, ite_eq_right_iff,
    List.cons_ne_nil, imp_false, not_lt, not_not] at hvalid
  simpa [Topology.rank, MultiNodeParams.worldSize, MultiNodeParams.totalGpus,
    and_assoc] using ⟨hvalid.1.1.1.1.1.1, hvalid.1.1.1.1.1.2, hvalid.1.1.1.1.2⟩

theorem all_joined (hgpus : 1 ≤ l.topology.gpusPerNode)
    {joined : Finset l.Rank}
    (h : l.topology.nodeCount * l.topology.gpusPerNode ≤ l.clusterGpus joined) :
    joined = Finset.univ := by
  rw [clusterGpus_eq] at h
  have hcard : l.topology.nodeCount ≤ joined.card :=
    Int.le_of_mul_le_mul_right h (by omega)
  refine Finset.eq_univ_of_card joined (le_antisymm (Finset.card_le_univ _) ?_)
  rw [Fintype.card_fin]
  omega

/--
A rank serves only as the head, after its `ray start` returned 0 and its wait
saw the GPUs of all ranks; every worker dials the head's host on the port that
the head was started with; and the server's world size is all GPUs.
-/
theorem serves_after_all_joined (l : Launch) (hl : l.topology.Accepted)
    {σ : ReplicaState l.topology.nodeCount.toNat} (hσ : l.Reachable σ)
    (r : l.Rank) :
    (∀ later earlier words,
      (σ.ranks r).history = later ++ .began (serve words) :: earlier →
      (r : Nat) = 0 ∧
      (∃ joined before expected seconds,
        earlier = .returned (clusterWait expected seconds) 0 ::
          .polled joined :: before ∧
        .returned (rayStart (buildRayStartCommand (l.topology.rank 0))) 0 ∈
          before ∧
        l.topology.nodeCount * l.topology.gpusPerNode ≤ l.clusterGpus joined ∧
        joined = Finset.univ) ∧
      ∃ tensorParallel pipelineParallel : Int,
        optionValue "--tensor-parallel-size" words =
          some (toString tensorParallel) ∧
        optionValue "--pipeline-parallel-size" words =
          some (toString pipelineParallel) ∧
        tensorParallel * pipelineParallel =
          l.topology.nodeCount * l.topology.gpusPerNode) ∧
    ∀ start, .began (rayStart start) ∈ (σ.ranks r).history →
      start.numGpus = l.topology.gpusPerNode ∧
      start.place =
        if (r : Nat) = 0 then .head l.topology.headPort
        else .address s!"{l.topology.headHost}:{l.topology.headPort}" := by
  have hnodes : 0 < l.topology.nodeCount := by
    have := r.isLt
    omega
  obtain ⟨-, hgpus, hworld⟩ := accepted_head hl hnodes
  have hown := (runsOwn_invariant l).reachable hσ r
  refine ⟨fun later earlier words hhistory => ?_, fun start hstart => ?_⟩
  · obtain ⟨hr, rfl⟩ := hown.begun (serve words) (by simp [hhistory])
    obtain ⟨joined, before, expected, seconds, hearlier, hray, henough⟩ :=
      ((headRuns_invariant l).reachable hσ r hr).cleared later earlier _ hhistory
    exact ⟨hr,
      ⟨joined, before, expected, seconds, hearlier, hray, henough,
        all_joined hgpus henough⟩,
      l.topology.tensorParallelSize, l.topology.pipelineParallelSize,
      optionValue_tensorParallel _ _, optionValue_pipelineParallel _ _, hworld⟩
  · obtain ⟨hplace, hnum⟩ := hown.begun _ hstart
    exact ⟨hnum, hplace⟩

/-! ## A replica of two ranks -/

def twoRanks : Launch where
  topology :=
    { headHost := "10.0.0.1", tensorParallelSize := 1, pipelineParallelSize := 2
      gpusPerNode := 1, nodeCount := 2, headPort := 6379
      clusterWaitSeconds := 1800 }
  dockerFlags _ := ["docker", "run", "-d"]
  image _ := "vllm/vllm-openai:v0.19.1"
  serveArgv _ := ["--model", "moonshot/kimi-k3", "--port", "8000"]
  vllmEntry _ := ["vllm", "serve"]

theorem twoRanks_accepted : twoRanks.topology.Accepted := by
  intro r hr
  have hr : (r : Int) < 2 := hr
  obtain rfl | rfl : r = 0 ∨ r = 1 := by omega
  · decide
  · decide

theorem twoRanks_serves : ∃ σ, twoRanks.Reachable σ ∧
    ∃ words earlier,
      (σ.ranks ⟨0, by decide⟩).history = .began (serve words) :: earlier := by
  let head : twoRanks.Rank := ⟨0, by decide⟩
  let worker : twoRanks.Rank := ⟨1, by decide⟩
  have h := Reachable.init (l := twoRanks)
  -- The worker's text up to its `ray start`, which joins and blocks.
  have h := h.step (.launch _ worker _ rfl)
  have h := h.step (.finish _ worker _ _ 0 rfl (by simp))
  have h := h.step (.finish _ worker _ _ 0 rfl (by simp))
  have h := h.step (.finish _ worker _ _ 0 rfl (by simp))
  have h := h.step (.finish _ worker _ _ 0 rfl (by simp))
  have h := h.step (.finish _ worker _ _ 0 rfl (by simp))
  have h := h.step (.finish _ worker _ _ 0 rfl (by simp))
  have h := h.step (.finish _ worker _ _ 0 rfl (by simp))
  have h := h.step (.join _ worker _ _ rfl)
  -- The head's text up to its server.
  have h := h.step (.launch _ head _ rfl)
  have h := h.step (.finish _ head _ _ 0 rfl (by simp))
  have h := h.step (.finish _ head _ _ 0 rfl (by simp))
  have h := h.step (.finish _ head _ _ 0 rfl (by simp))
  have h := h.step (.finish _ head _ _ 0 rfl (by simp))
  have h := h.step (.finish _ head _ _ 0 rfl (by simp))
  have h := h.step (.finish _ head _ _ 0 rfl (by simp))
  have h := h.step (.join _ head _ _ rfl)
  have h := h.step (.finish _ head _ _ 0 rfl (by simp))
  have h := h.step (.poll _ head _ _ _ false rfl rfl)
  have h := h.step (.check _ head _ _ _ rfl rfl)
  exact ⟨_, h, _, _, rfl⟩

theorem serves_after_all_joined_twoRanks : ∃ σ, twoRanks.Reachable σ ∧
    ∃ words earlier joined before expected seconds,
      (σ.ranks ⟨0, by decide⟩).history = .began (serve words) :: earlier ∧
      earlier = .returned (clusterWait expected seconds) 0 ::
        .polled joined :: before ∧ joined = Finset.univ := by
  obtain ⟨σ, hσ, words, earlier, hhistory⟩ := twoRanks_serves
  obtain ⟨-, ⟨joined, before, expected, seconds, hearlier, -, -, hall⟩, -⟩ :=
    (serves_after_all_joined twoRanks twoRanks_accepted hσ _).1 [] earlier words
      hhistory
  exact ⟨σ, hσ, words, earlier, joined, before, expected, seconds, hhistory,
    hearlier, hall⟩

end Launch

end NodeAgent
