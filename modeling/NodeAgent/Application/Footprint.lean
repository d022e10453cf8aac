import NodeAgent.Application.Services
import NodeAgent.Foundation.Always

/-!
# What the agent touches while it acts for one deployment

`own d c` says that `c` is the id of a container of deployment `d`.  While the
agent acts for `d` it makes only calls that carry `d`, and the containers it
stops, removes or starts are named after `d` or owned by it.
-/

namespace NodeAgent

open Effectful Program Agent

/-- A record of `d` that names no other deployment's container. -/
def Belongs (s : Settings) (own : String → String → Prop) (d : String)
    (runtime : UnifiedRuntimeRecord) : Prop :=
  runtime.deploymentId = d ∧ ∀ c, runtime.containerId = some c →
    (runtime.workloadKind = .pod → s.podBackend = .process) → own d c

/-- Answers that speak of records and containers where they belong. -/
def Typed (s : Settings) (own : String → String → Prop) :
    (e : Effect) → Except Exn e.Ret → Prop
  | .getRuntime d, .ok (some runtime) => Belongs s own d runtime
  | .snapshotRuntimeItems, .ok runtimes =>
      ∀ runtime ∈ runtimes, Belongs s own runtime.deploymentId runtime
  | .dockerRun command, .ok completed =>
      completed.returncode = 0 → own command.owner (strip completed.stdout)
  | .popVolumeRecord d, .ok (some volume) => volume.deploymentId = d
  | _, _ => True

def OwnTarget (own : String → String → Prop) (d target : String) : Prop :=
  target = podContainerName d ∨
    target = DockerInferenceBackend.containerName d ∨ own d target

/-- Calls of `d` that change neither its record, its GPUs nor its reports. -/
def BackendCall (own : String → String → Prop) (d : String) : Effect → Prop
  | .dockerRun command => command.owner = d
  | .dockerRm owner target | .dockerStop owner target =>
      owner = d ∧ OwnTarget own d target
  | .dockerStart owner target => owner = d ∧ own d target
  | .spawnServer owner | .terminatePid owner _ | .makeRuntimeDir owner
  | .deleteRuntimeDir owner _ | .deleteStagedArtifact owner _
  | .stageArtifact owner _ _ | .popVolumeRecord owner => owner = d
  | .createVolume volume | .deleteVolume volume | .storeVolumeRecord volume =>
      volume.deploymentId = d
  | .probe _ | .allocatedDevices | .getWorkload _ => True
  | _ => False

/-- Backend calls of `d` about files and processes, which no container notices. -/
def FileCall (d : String) : Effect → Prop
  | .spawnServer owner | .terminatePid owner _ | .makeRuntimeDir owner
  | .deleteRuntimeDir owner _ | .deleteStagedArtifact owner _
  | .stageArtifact owner _ _ | .popVolumeRecord owner => owner = d
  | .createVolume volume | .deleteVolume volume | .storeVolumeRecord volume =>
      volume.deploymentId = d
  | .probe _ | .allocatedDevices | .getWorkload _ => True
  | _ => False

/-- Those, and what stops or removes containers of `d`. -/
def StopCall (own : String → String → Prop) (d : String) : Effect → Prop
  | .dockerRm owner target | .dockerStop owner target =>
      owner = d ∧ OwnTarget own d target
  | e => FileCall d e

theorem FileCall.stopCall {own : String → String → Prop} {d : String}
    {e : Effect} (h : FileCall d e) : StopCall own d e := by
  cases e <;> first | exact h | exact h.elim

theorem StopCall.backendCall {own : String → String → Prop} {d : String}
    {e : Effect} (h : StopCall own d e) : BackendCall own d e := by
  cases e <;> first | exact h | exact h.elim

/-- Calls of `d` on the stores and to the control plane. -/
def BooksCall (s : Settings) (own : String → String → Prop) (d : String) :
    Effect → Prop
  | .allocate owner _ _ | .allocateSpecific owner _ | .release owner
  | .getRuntime owner | .removeRuntime owner | .getDeployment owner =>
      owner = d
  | .upsertRuntime runtime => Belongs s own d runtime
  | .updateDeploymentStatus update => update.deploymentId = d
  | _ => False

def Local (s : Settings) (own : String → String → Prop) (d : String)
    (e : Effect) : Prop :=
  BackendCall own d e ∨ BooksCall s own d e

theorem Local.owner_eq {s : Settings} {own : String → String → Prop}
    {d b : String} {e : Effect} (h : Local s own d e)
    (howner : e.owner = some b) : b = d := by
  rcases h with hcall | hcall <;>
    cases e <;> first
      | exact hcall.elim
      | cases howner <;> first | exact hcall | exact hcall.1

theorem Local.starts_own {s : Settings} {own : String → String → Prop}
    {d owner target : String} (h : Local s own d (.dockerStart owner target)) :
    owner = d ∧ own d target := by
  simpa [Local, BackendCall, BooksCall] using h

theorem Local.belongs {s : Settings} {own : String → String → Prop}
    {d : String} {runtime : UnifiedRuntimeRecord}
    (h : Local s own d (.upsertRuntime runtime)) : Belongs s own d runtime := by
  simpa [Local, BackendCall, BooksCall] using h

/-! ## Programs that only ask questions -/

section Probes

variable {answers : (e : Effect) → Except Exn e.Ret → Prop}
variable {calls : Effect → Prop}

theorem orNotAvailable_within {error : Exn → Exn} {p : Agent Completed}
    {Q : Completed → Prop} (hp : Within answers calls p Q) :
    Within answers calls (orNotAvailable error p) Q := by
  unfold orNotAvailable
  refine within_bind (Q := fun r => ∀ c, r = .ok c → Q c)
    (within_attempt (hp.weaken ?_) ?_) ?_
  · intro c hc c' heq
    cases heq
    exact hc
  · intro x c heq
    cases heq
  · intro r hr
    cases r with
    | ok c => exact within_pure (hr c rfl)
    | error x => by_cases hx : x.isMissingOrTimeout <;> simp [hx, within_raise]

variable (hprobe : ∀ question, calls (.probe question))
include hprobe

theorem probe_within (question : Probe) :
    Within answers calls (probe question) fun _ => True :=
  within_perform (hprobe question) fun _ _ => trivial

theorem attempt_probe_within (question : Probe) :
    Within answers calls (attempt (probe question)) fun _ => True :=
  within_attempt ((probe_within hprobe question).weaken fun _ _ => trivial)
    fun _ => trivial

theorem readBackPort_within (container : String) (port requested : Nat) :
    Within answers calls
      (ProcessPodBackend.readBackPort container port requested)
      fun _ => True := by
  unfold ProcessPodBackend.readBackPort
  refine within_bind (attempt_probe_within hprobe _) fun r _ => ?_
  split
  · exact within_pure trivial
  · exact within_pure trivial
  · split
    · exact within_pure trivial
    · exact within_raise

theorem verifyPorts_within (container : String) (ports : List (Nat × Nat)) :
    Within answers calls (ProcessPodBackend.verifyPorts container ports)
      fun _ => True := by
  induction ports with
  | nil => exact within_pure trivial
  | cons entry rest ih =>
      obtain ⟨containerPort, hostPort⟩ := entry
      unfold ProcessPodBackend.verifyPorts
      refine within_bind (readBackPort_within hprobe _ _ _) fun _ _ => ?_
      exact within_bind ih fun _ _ => within_pure trivial

theorem readBackSshPort_within (container : String) (port : Option Nat) :
    Within answers calls (ProcessPodBackend.readBackSshPort container port)
      fun _ => True := by
  cases port with
  | none => exact within_pure trivial
  | some port =>
      rw [ProcessPodBackend.readBackSshPort]
      split
      · exact within_pure trivial
      · refine within_bind (readBackPort_within hprobe _ _ _) fun _ _ => ?_
        exact within_pure trivial

theorem waitForSshd_within (container : String) (rounds : Nat) :
    Within answers calls (ProcessPodBackend.waitForSshd container rounds)
      fun _ => True := by
  induction rounds with
  | zero => exact within_pure trivial
  | succ rounds ih =>
      unfold ProcessPodBackend.waitForSshd
      refine within_bind (attempt_probe_within hprobe _) fun r _ => ?_
      split
      · split
        · exact within_pure trivial
        · exact ih
      · split
        · exact ih
        · exact within_raise

theorem processWaitForReady_within (runtime : UnifiedRuntimeRecord) :
    Within answers calls (ProcessPodBackend.waitForReady runtime)
      fun _ => True := by
  unfold ProcessPodBackend.waitForReady
  split
  · exact within_bind (probe_within hprobe _)
      fun _ _ => waitForSshd_within hprobe _ _
  · exact within_pure trivial

theorem waitForReady_within (s : Settings) (runtime : UnifiedRuntimeRecord) :
    Within answers calls (PodBackend.waitForReady s runtime)
      fun _ => True := by
  unfold PodBackend.waitForReady
  split
  · exact processWaitForReady_within hprobe runtime
  · exact within_pure trivial

theorem containerRunning_within (container : Option String) :
    Within answers calls (DockerInferenceBackend.containerRunning container)
      fun _ => True := by
  unfold DockerInferenceBackend.containerRunning
  split
  · refine within_bind (attempt_probe_within hprobe _) fun r _ => ?_
    split
    · exact within_pure trivial
    · split
      · exact within_pure trivial
      · exact within_raise
  · exact within_pure trivial

theorem waitForContainerRunning_within (container : Option String)
    (attempts : Nat) :
    Within answers calls
      (DockerInferenceBackend.waitForContainerRunning container attempts)
      fun _ => True := by
  induction attempts with
  | zero => exact within_pure trivial
  | succ attempts ih =>
      unfold DockerInferenceBackend.waitForContainerRunning
      refine within_bind (containerRunning_within hprobe _) fun running _ => ?_
      cases running with
      | false => exact ih
      | true => exact within_pure trivial

theorem grabLogs_within (container : Option String) :
    Within answers calls (DockerInferenceBackend.grabLogs container)
      fun _ => True := by
  unfold DockerInferenceBackend.grabLogs
  split
  · refine within_bind (attempt_probe_within hprobe _) fun r _ => ?_
    split
    · exact within_pure trivial
    · split
      · exact within_pure trivial
      · exact within_raise
  · exact within_pure trivial

theorem checkNotExited_within (container : String) :
    Within answers calls (DockerInferenceBackend.checkNotExited container)
      fun _ => True := by
  unfold DockerInferenceBackend.checkNotExited
  refine within_bind (attempt_probe_within hprobe _) fun r _ => ?_
  split
  · split
    · refine within_bind (attempt_probe_within hprobe _) fun r _ => ?_
      split
      · exact within_raise
      · split
        · exact within_pure trivial
        · exact within_raise
    · exact within_pure trivial
  · split
    · exact within_pure trivial
    · exact within_raise

theorem healthRounds_within (container : Option String) (url : String)
    (rounds : Nat) (lastError : Option String) :
    Within answers calls
      (DockerInferenceBackend.healthRounds container url lastError rounds)
      fun _ => True := by
  induction rounds generalizing lastError with
  | zero => exact within_pure trivial
  | succ rounds ih =>
      unfold DockerInferenceBackend.healthRounds
      refine within_bind
        (within_onlyIf fun _ => checkNotExited_within hprobe _) fun _ _ => ?_
      refine within_bind (attempt_probe_within hprobe _) fun r _ => ?_
      split
      · split
        · exact within_pure trivial
        · exact ih _
      · split
        · exact ih _
        · exact within_raise

theorem waitForHealth_within (s : Settings) (runtime : UnifiedRuntimeRecord) :
    Within answers calls (DockerInferenceBackend.waitForHealth s runtime)
      fun _ => True := by
  unfold DockerInferenceBackend.waitForHealth
  refine within_bind (probe_within hprobe _) fun rounds _ => ?_
  refine within_bind (healthRounds_within hprobe _ _ _ _) fun r _ => ?_
  split
  · exact within_pure trivial
  · exact within_bind (grabLogs_within hprobe _) fun _ _ => within_raise

theorem processHealthRounds_within (url : String) (rounds : Nat)
    (lastError : Option String) :
    Within answers calls
      (ProcessInferenceBackend.healthRounds url lastError rounds)
      fun _ => True := by
  induction rounds generalizing lastError with
  | zero => exact within_raise
  | succ rounds ih =>
      unfold ProcessInferenceBackend.healthRounds
      refine within_bind (attempt_probe_within hprobe _) fun r _ => ?_
      split
      · split
        · exact within_pure trivial
        · exact ih _
      · split
        · exact ih _
        · exact within_raise

theorem setUpSsh_within (s : Settings) :
    Within answers calls (setUpSsh s) fun _ => True := by
  unfold setUpSsh
  refine within_bind (probe_within hprobe _) fun _ _ => ?_
  exact within_bind (probe_within hprobe _) fun _ _ => within_pure trivial

theorem chooseUnusedPort_within (s : Settings) (used : List Nat)
    (rounds : Nat) :
    Within answers calls (chooseUnusedPort s used rounds) fun _ => True := by
  induction rounds with
  | zero =>
      unfold chooseUnusedPort
      exact within_bind (probe_within hprobe .never) fun hopeless _ =>
        nomatch hopeless
  | succ rounds ih =>
      unfold chooseUnusedPort
      refine within_bind (probe_within hprobe _) fun port _ => ?_
      split
      · exact ih
      · exact within_pure trivial

theorem assignPorts_within (s : Settings) (ports : List Nat)
    (assigned : List (Nat × Nat)) :
    Within answers calls (assignPorts s assigned ports) fun _ => True := by
  induction ports generalizing assigned with
  | nil => exact within_pure trivial
  | cons containerPort rest ih =>
      unfold assignPorts
      refine within_bind (Q := fun _ => True) ?_ fun sameNumber _ => ?_
      · unfold sameNumberFree
        split
        · exact probe_within hprobe _
        · exact within_pure trivial
      · refine within_bind (Q := fun _ => True)
          (within_attempt (Q := fun _ => True) ?_ fun _ => trivial)
          fun r _ => ?_
        · unfold choosePort
          split
          · exact within_pure trivial
          · exact within_bind (probe_within hprobe _)
              fun _ _ => chooseUnusedPort_within hprobe _ _ _
        · split
          · exact ih _
          · split
            · exact within_pure trivial
            · exact within_raise

theorem foreignBusyDevices_within (hallocated : calls .allocatedDevices) :
    Within answers calls foreignBusyDevices fun _ => True := by
  unfold foreignBusyDevices
  refine within_bind (Q := fun _ => True)
    (within_attempt (Q := fun _ => True) ?_ fun _ => trivial)
    fun r _ => ?_
  · refine within_bind (probe_within hprobe _) fun _ _ => ?_
    refine within_bind (Q := fun _ => True)
      (within_perform hallocated fun _ _ => trivial) fun _ _ => ?_
    exact within_pure trivial
  · split
    · exact within_pure trivial
    · exact within_pure trivial

end Probes

/-! ## Backends -/

/-- What a backend never changes in the record that it is given. -/
structure Kept (runtime runtime' : UnifiedRuntimeRecord) : Prop where
  deploymentId : runtime'.deploymentId = runtime.deploymentId
  workloadKind : runtime'.workloadKind = runtime.workloadKind
  gpuDevices : runtime'.metadata.gpuDevices = runtime.metadata.gpuDevices
  gpuCount : runtime'.metadata.gpuCount = runtime.metadata.gpuCount

theorem Kept.rfl {runtime : UnifiedRuntimeRecord} : Kept runtime runtime :=
  ⟨by simp, by simp, by simp, by simp⟩

section Backends

variable {s : Settings} {own : String → String → Prop} {d : String}
variable {runtime : UnifiedRuntimeRecord}

theorem backendCall_probe (question : Probe) :
    BackendCall own d (.probe question) := trivial

theorem typed_dockerRun {command : DockerRun} {completed : Completed}
    (h : Typed s own (.dockerRun command) (.ok completed))
    (hzero : completed.returncode = 0) :
    own command.owner (strip completed.stdout) := h hzero

theorem Belongs.ownTarget (h : Belongs s own d runtime)
    (hkind : runtime.workloadKind = .pod → s.podBackend = .process)
    (hcontainer : truthy runtime.containerId) :
    own d (runtime.containerId.getD "") := by
  cases hid : runtime.containerId with
  | none => simp [hid, truthy] at hcontainer
  | some c => exact h.2 c hid hkind

theorem Belongs.of_eq {runtime' : UnifiedRuntimeRecord}
    (h : Belongs s own d runtime)
    (hid : runtime'.deploymentId = runtime.deploymentId)
    (hkind : runtime'.workloadKind = runtime.workloadKind)
    (hcontainer : runtime'.containerId = runtime.containerId) :
    Belongs s own d runtime' := by
  unfold Belongs at h ⊢
  rw [hid, hkind, hcontainer]
  exact h

theorem Belongs.of_none {runtime' : UnifiedRuntimeRecord}
    (hid : runtime'.deploymentId = d) (hcontainer : runtime'.containerId = none) :
    Belongs s own d runtime' := by
  refine ⟨hid, fun c hc => ?_⟩
  rw [hcontainer] at hc
  cases hc

/-! ### Backends without containers -/

theorem fileCall_probe (question : Probe) : FileCall d (.probe question) :=
  trivial

theorem textGeneration_files (artifact : ArtifactBundle)
    (h : Belongs s own d runtime) :
    Within (Typed s own) (FileCall d)
      (LocalArtifactInferenceBackend.startRuntime runtime artifact)
      fun started => Belongs s own d started ∧ Kept runtime started ∧
        started.status = runtime.status := by
  refine within_bind (probe_within fileCall_probe _) fun _ _ => ?_
  exact within_pure ⟨h.of_eq rfl rfl rfl, ⟨rfl, rfl, rfl, rfl⟩, rfl⟩

theorem terminateRecordedPid_files (h : runtime.deploymentId = d) :
    Within (Typed s own) (FileCall d)
      (ProcessInferenceBackend.terminateRecordedPid runtime)
      fun _ => True :=
  within_onlyIf fun _ => within_perform (by exact h) fun _ _ => trivial

theorem startFallbackRuntime_files (h : Belongs s own d runtime)
    (artifact : ArtifactBundle) :
    Within (Typed s own) (FileCall d)
      (ProcessInferenceBackend.startFallbackRuntime runtime artifact)
      fun started => Belongs s own d started ∧ Kept runtime started ∧
        started.status = runtime.status := by
  unfold ProcessInferenceBackend.startFallbackRuntime
  refine within_bind (terminateRecordedPid_files h.1) fun _ _ => ?_
  refine within_bind
    (textGeneration_files artifact (h.of_eq (by rfl) (by rfl) (by rfl)))
    fun started hstarted => ?_
  obtain ⟨hbelongs, hkept, hstatus⟩ := hstarted
  exact within_pure ⟨hbelongs.of_eq rfl rfl rfl,
    ⟨hkept.1, hkept.2, hkept.3, hkept.4⟩, hstatus⟩

theorem startProcessRuntime_files (h : Belongs s own d runtime)
    (artifact : ArtifactBundle) :
    Within (Typed s own) (FileCall d)
      (ProcessInferenceBackend.startProcessRuntime s runtime artifact)
      fun started => Belongs s own d started ∧ Kept runtime started ∧
        started.status = runtime.status := by
  have hprobe : ∀ question, FileCall d (.probe question) :=
    fileCall_probe
  unfold ProcessInferenceBackend.startProcessRuntime
  split
  · exact within_raise
  · refine within_bind (Q := fun _ => True) ?_ fun reused _ => ?_
    · unfold ProcessInferenceBackend.reuses
      split
      · exact within_pure trivial
      · split
        · exact within_pure trivial
        · exact probe_within hprobe _
    · split
      · exact within_pure ⟨h.of_eq rfl rfl rfl, ⟨rfl, rfl, rfl, rfl⟩, rfl⟩
      · refine within_bind (Q := fun _ => True)
          (within_perform (by exact h.1) fun _ _ => trivial) fun _ _ => ?_
        refine within_bind (probe_within hprobe _) fun _ _ => ?_
        refine within_bind (Q := fun _ => True)
          (within_perform (by exact h.1) fun _ _ => trivial) fun _ _ => ?_
        refine within_bind (probe_within hprobe _) fun _ _ => ?_
        refine within_bind (processHealthRounds_within hprobe _ _ _)
          fun _ _ => ?_
        exact within_pure ⟨h.of_eq rfl rfl rfl, ⟨rfl, rfl, rfl, rfl⟩, rfl⟩

theorem processStartRuntime_files (h : Belongs s own d runtime)
    (artifact : ArtifactBundle) :
    Within (Typed s own) (FileCall d)
      (ProcessInferenceBackend.startRuntime s runtime artifact)
      fun started => Belongs s own d started ∧ Kept runtime started ∧
        started.status = runtime.status := by
  unfold ProcessInferenceBackend.startRuntime
  refine within_bind (Q := fun r => ∀ started, r = .ok started →
    Belongs s own d started ∧ Kept runtime started ∧
      started.status = runtime.status) (within_attempt
        ((startProcessRuntime_files h artifact).weaken ?_) ?_) ?_
  · intro started hstarted _ heq
    cases heq
    exact hstarted
  · intro x _ heq
    cases heq
  · intro r hr
    split
    · exact within_pure (hr _ rfl)
    · exact startFallbackRuntime_files h artifact
    · split
      · exact startFallbackRuntime_files h artifact
      · exact within_raise
    · exact within_raise

theorem startVm_files (h : Belongs s own d runtime) :
    Within (Typed s own) (FileCall d) (VMBackend.startVm s runtime)
      fun started => Belongs s own d started ∧ Kept runtime started ∧
        started.status = .ready := by
  unfold VMBackend.startVm
  split
  · unfold FirecrackerVMBackend.startVm
    refine within_bind (orNotAvailable_within
      (probe_within fileCall_probe .firecrackerVersion)) fun _ _ => ?_
    split
    · exact within_raise
    · exact within_pure ⟨h.of_eq rfl rfl rfl, ⟨rfl, rfl, rfl, rfl⟩, rfl⟩
  · exact within_pure ⟨h.of_eq rfl rfl rfl, ⟨rfl, rfl, rfl, rfl⟩, rfl⟩

theorem processStopRuntime_files (h : Belongs s own d runtime) :
    Within (Typed s own) (FileCall d)
      (ProcessInferenceBackend.stopRuntime runtime)
      fun stopped => Belongs s own d stopped ∧ Kept runtime stopped := by
  unfold ProcessInferenceBackend.stopRuntime
  split
  · exact within_pure ⟨h.of_eq rfl rfl rfl, ⟨rfl, rfl, rfl, rfl⟩⟩
  · refine within_bind (terminateRecordedPid_files h.1) fun _ _ => ?_
    exact within_pure ⟨h.of_eq rfl rfl rfl, ⟨rfl, rfl, rfl, rfl⟩⟩

/-! ### Backends with containers -/

theorem Within.stops {α : Type} {p : Agent α} {Q : α → Prop}
    (h : Within (Typed s own) (FileCall d) p Q) :
    Within (Typed s own) (StopCall own d) p Q :=
  Always.widen h fun _ => FileCall.stopCall

theorem Within.backend {α : Type} {p : Agent α} {Q : α → Prop}
    (h : Within (Typed s own) (StopCall own d) p Q) :
    Within (Typed s own) (BackendCall own d) p Q :=
  Always.widen h fun _ => StopCall.backendCall

theorem Within.files {α : Type} {p : Agent α} {Q : α → Prop}
    (h : Within (Typed s own) (FileCall d) p Q) :
    Within (Typed s own) (BackendCall own d) p Q :=
  Within.backend (Within.stops h)

theorem removeContainer_stops {owner target : String} (howner : owner = d)
    (h : OwnTarget own d target) :
    Within (Typed s own) (StopCall own d) (removeContainer owner target)
      fun _ => True := by
  refine within_ignoring ?_
  exact within_bind (Q := fun _ => True)
    (within_perform ⟨howner, h⟩ fun _ _ => trivial)
    fun _ _ => within_pure trivial

theorem stopContainer_stops {owner target : String} (howner : owner = d)
    (h : OwnTarget own d target) :
    Within (Typed s own) (StopCall own d) (stopContainer owner target)
      fun _ => True := by
  refine within_ignoring ?_
  exact within_bind (Q := fun _ => True)
    (within_perform ⟨howner, h⟩ fun _ _ => trivial)
    fun _ _ => within_pure trivial

theorem processStartPod_within (h : Belongs s own d runtime)
    (workload : WorkloadSpec) :
    Within (Typed s own) (BackendCall own d)
      (ProcessPodBackend.startPod s runtime workload) fun started =>
        Belongs s own d started ∧ Kept runtime started ∧
          started.status = .ready := by
  have hd : runtime.deploymentId = d := h.1
  have hprobe : ∀ question, BackendCall own d (.probe question) :=
    backendCall_probe
  unfold ProcessPodBackend.startPod
  refine within_bind
    (Within.backend (removeContainer_stops hd (.inl (by rw [hd]))))
    fun _ _ => ?_
  refine within_bind
    (within_onlyIf fun _ => probe_within hprobe _) fun _ _ => ?_
  split
  · exact within_raise
  · refine within_bind (orNotAvailable_within
      (within_perform (by exact hd) fun _ hrun => hrun)) fun result hrun => ?_
    split
    · exact within_raise
    · rename_i hzero
      have hown : own d (strip result.stdout) := by
        have := typed_dockerRun hrun (not_not.mp hzero)
        rwa [show (ProcessPodBackend.runCommand s runtime _).owner = d
          from hd] at this
      refine within_bind (readBackSshPort_within hprobe _ _) fun _ _ => ?_
      refine within_bind (verifyPorts_within hprobe _ _) fun _ _ => ?_
      refine within_pure ⟨⟨hd, fun c hc _ => ?_⟩, ⟨rfl, rfl, rfl, rfl⟩, rfl⟩
      cases hc
      exact hown

theorem startPod_within (hkind : runtime.workloadKind = .pod)
    (h : Belongs s own d runtime) (workload : WorkloadSpec) :
    Within (Typed s own) (BackendCall own d)
      (PodBackend.startPod s runtime workload) fun started =>
        Belongs s own d started ∧ Kept runtime started ∧
          started.status = .ready := by
  unfold PodBackend.startPod
  split
  · exact processStartPod_within h workload
  · rename_i hs
    refine within_pure ⟨⟨h.1, fun c _ hc => ?_⟩, ⟨rfl, rfl, rfl, rfl⟩, rfl⟩
    have hprocess : s.podBackend = .process := hc hkind
    rw [hs] at hprocess
    cases hprocess

theorem stopPod_stops (h : Belongs s own d runtime) :
    Within (Typed s own) (StopCall own d) (PodBackend.stopPod s runtime)
      fun _ => True := by
  unfold PodBackend.stopPod
  split
  · unfold ProcessPodBackend.stopPod
    refine within_bind (within_onlyIf fun hc => ?_)
      fun _ _ => within_pure trivial
    exact removeContainer_stops h.1
      (.inr (.inr (h.ownTarget (fun _ => by assumption) hc)))
  · exact within_pure trivial

theorem pausePod_stops (h : Belongs s own d runtime) :
    Within (Typed s own) (StopCall own d) (PodBackend.pausePod s runtime)
      fun paused => Belongs s own d paused ∧ Kept runtime paused ∧
        paused.status = .suspended := by
  unfold PodBackend.pausePod
  split
  · unfold ProcessPodBackend.pausePod
    refine within_bind (within_onlyIf fun hc => ?_) fun _ _ =>
      within_pure ⟨h.of_eq rfl rfl rfl, ⟨rfl, rfl, rfl, rfl⟩, rfl⟩
    exact stopContainer_stops h.1
      (.inr (.inr (h.ownTarget (fun _ => by assumption) hc)))
  · exact within_pure ⟨h.of_eq rfl rfl rfl, ⟨rfl, rfl, rfl, rfl⟩, rfl⟩

theorem resumePod_within (h : Belongs s own d runtime) :
    Within (Typed s own) (BackendCall own d) (PodBackend.resumePod s runtime)
      fun resumed => Belongs s own d resumed ∧ Kept runtime resumed ∧
        resumed.status = .ready := by
  unfold PodBackend.resumePod
  split
  · unfold ProcessPodBackend.resumePod
    refine within_bind (Q := fun _ => True) ?_ fun _ _ =>
      within_pure ⟨h.of_eq rfl rfl rfl, ⟨rfl, rfl, rfl, rfl⟩, rfl⟩
    unfold ProcessPodBackend.restartContainer
    split
    · rename_i hc
      refine within_bind (Q := fun _ => True)
        (orNotAvailable_within (within_perform ?_ fun _ _ => trivial))
        fun result _ => ?_
      · exact ⟨h.1, h.ownTarget (fun _ => by assumption) hc⟩
      · split
        · exact within_raise
        · exact within_pure trivial
    · exact within_pure trivial
  · exact within_pure ⟨h.of_eq rfl rfl rfl, ⟨rfl, rfl, rfl, rfl⟩, rfl⟩

theorem dockerStopRuntime_stops (hkind : runtime.workloadKind = .inference)
    (h : Belongs s own d runtime) :
    Within (Typed s own) (StopCall own d)
      (DockerInferenceBackend.stopRuntime runtime)
      fun stopped => Belongs s own d stopped ∧ Kept runtime stopped := by
  unfold DockerInferenceBackend.stopRuntime
  refine within_bind (within_onlyIf fun hc => ?_) fun _ _ =>
    within_pure ⟨.of_none h.1 rfl, ⟨rfl, rfl, rfl, rfl⟩⟩
  refine removeContainer_stops h.1 (.inr (.inr (h.ownTarget ?_ hc)))
  rw [hkind]
  intro hpod
  cases hpod

theorem awaitStarted_within (hkind : runtime.workloadKind = .inference)
    (h : Belongs s own d runtime) (params : Option MultiNodeParams) :
    Within (Typed s own) (BackendCall own d)
      (DockerInferenceBackend.awaitStarted s runtime params)
      fun started => started = runtime := by
  unfold DockerInferenceBackend.awaitStarted
  split
  · refine within_bind
      (waitForContainerRunning_within backendCall_probe _ _) fun running _ => ?_
    split
    · exact within_pure rfl
    · exact within_bind (Within.backend (dockerStopRuntime_stops hkind h))
        fun _ _ => within_raise
  · refine within_bind (Q := fun _ => True) (within_attempt
      ((waitForHealth_within backendCall_probe _ _).weaken fun _ _ => trivial)
      fun _ => trivial) fun r _ => ?_
    split
    · exact within_pure rfl
    · exact within_bind (Within.backend (dockerStopRuntime_stops hkind h))
        fun _ _ => within_raise
    · exact within_raise

theorem dockerStartRuntime_within (hkind : runtime.workloadKind = .inference)
    (h : Belongs s own d runtime) (artifact : ArtifactBundle) :
    Within (Typed s own) (BackendCall own d)
      (DockerInferenceBackend.startRuntime s runtime artifact)
      fun started => Belongs s own d started ∧ Kept runtime started ∧
        started.status = runtime.status := by
  have hd : runtime.deploymentId = d := h.1
  have hprobe : ∀ question, BackendCall own d (.probe question) :=
    backendCall_probe
  unfold DockerInferenceBackend.startRuntime
  refine within_bind (probe_within hprobe _) fun port _ => ?_
  refine within_bind
    (Within.backend (removeContainer_stops hd (.inr (.inl (by rw [hd])))))
    fun _ _ => ?_
  refine within_bind (probe_within hprobe _) fun _ _ => ?_
  dsimp only
  split
  · exact within_raise
  · refine within_bind (orNotAvailable_within
      (within_perform (by exact hd) fun _ hrun => hrun)) fun result hrun => ?_
    split
    · exact within_raise
    · rename_i hzero
      have hown : own d (strip result.stdout) := by
        have := typed_dockerRun hrun (not_not.mp hzero)
        rwa [show (DockerInferenceBackend.runCommand s runtime artifact port
          _).owner = d from hd] at this
      have hbelongs : Belongs s own d (DockerInferenceBackend.launched s runtime
          artifact (parseMultiNodeParams artifact.multiNode) port
          (strip result.stdout)) := by
        refine ⟨hd, fun c hc _ => ?_⟩
        cases hc
        exact hown
      refine (awaitStarted_within (by exact hkind) hbelongs _).weaken
        fun started heq => ?_
      subst heq
      exact ⟨hbelongs, ⟨rfl, rfl, rfl, rfl⟩, rfl⟩

theorem startRuntime_within (hkind : runtime.workloadKind = .inference)
    (h : Belongs s own d runtime) (artifact : ArtifactBundle) :
    Within (Typed s own) (BackendCall own d)
      (InferenceBackend.startRuntime s runtime artifact)
      fun started => Belongs s own d started ∧ Kept runtime started ∧
        started.status = runtime.status := by
  unfold InferenceBackend.startRuntime
  split
  · exact dockerStartRuntime_within hkind h artifact
  · exact Within.files (processStartRuntime_files h artifact)
  · exact Within.files (textGeneration_files artifact h)

theorem stopRuntime_stops (hkind : runtime.workloadKind = .inference)
    (h : Belongs s own d runtime) :
    Within (Typed s own) (StopCall own d)
      (InferenceBackend.stopRuntime s runtime)
      fun stopped => Belongs s own d stopped ∧ Kept runtime stopped := by
  unfold InferenceBackend.stopRuntime
  split
  · exact dockerStopRuntime_stops hkind h
  · exact Within.stops (processStopRuntime_files h)
  · exact within_pure ⟨h.of_eq rfl rfl rfl, ⟨rfl, rfl, rfl, rfl⟩⟩

end Backends

end NodeAgent
