import NodeAgent.Application.Locality

/-!
# Which calls a handler can make

Whatever its calls are answered: the containers that a handler can launch, the
files and volumes that it can make, and the records that it can write.
-/

namespace NodeAgent

open Effectful Program Agent

/-- Calls that write no record and make no container, volume or file. -/
def Plain : Effect → Prop
  | .upsertRuntime _ | .removeRuntime _ | .dockerRun _ | .createVolume _
  | .stageArtifact _ _ _ | .makeRuntimeDir _ => False
  | _ => True

def AdmitsPlain (calls : Effect → Prop) : Prop := ∀ e, Plain e → calls e

/-- Plain calls and writes of records that are not terminated. -/
structure Repertoire (calls : Effect → Prop) : Prop where
  plain : AdmitsPlain calls
  write : ∀ runtime : UnifiedRuntimeRecord, runtime.status ≠ .terminated →
    calls (.upsertRuntime runtime)

def LaunchesPods (s : Settings) (calls : Effect → Prop) : Prop :=
  ∀ runtime image,
    calls (.dockerRun (ProcessPodBackend.runCommand s runtime image))

def LaunchesInference (s : Settings) (calls : Effect → Prop) : Prop :=
  ∀ runtime artifact port params, calls (.dockerRun
    (DockerInferenceBackend.runCommand s runtime artifact port params))

def MakesVolumes (calls : Effect → Prop) : Prop :=
  ∀ volume, calls (.createVolume volume)

def MakesFiles (calls : Effect → Prop) : Prop :=
  ∀ d, calls (.makeRuntimeDir d) ∧
    ∀ uri digest, calls (.stageArtifact d uri digest)

variable {answers : (e : Effect) → Except Exn e.Ret → Prop}
variable {calls : Effect → Prop} {s : Settings}
variable {runtime : UnifiedRuntimeRecord}

section Backends

variable (h : AdmitsPlain calls)
include h

theorem AdmitsPlain.probe (question : Probe) : calls (.probe question) :=
  h _ trivial

theorem plain_calls {e : Effect} (he : Plain e) :
    Within answers calls (perform e) fun _ => True :=
  within_perform (h e he) fun _ _ => trivial

theorem attempt_plain_calls {e : Effect} (he : Plain e) :
    Within answers calls (attempt (perform e)) fun _ => True :=
  within_attempt ((plain_calls h he).weaken fun _ _ => trivial)
    fun _ => trivial

/-! ## Stopping -/

theorem removeContainer_calls (owner target : String) :
    Within answers calls (removeContainer owner target) fun _ => True :=
  within_ignoring (within_bind (plain_calls h trivial)
    fun _ _ => within_pure trivial)

theorem stopContainer_calls (owner target : String) :
    Within answers calls (stopContainer owner target) fun _ => True :=
  within_ignoring (within_bind (plain_calls h trivial)
    fun _ _ => within_pure trivial)

theorem terminateRecordedPid_calls :
    Within answers calls
      (ProcessInferenceBackend.terminateRecordedPid runtime) fun _ => True :=
  within_onlyIf fun _ => plain_calls h trivial

theorem dockerStopRuntime_calls :
    Within answers calls (DockerInferenceBackend.stopRuntime runtime)
      fun _ => True := by
  unfold DockerInferenceBackend.stopRuntime
  refine within_bind (within_onlyIf fun _ => removeContainer_calls h _ _)
    fun _ _ => ?_
  exact within_pure trivial

theorem stopRuntime_calls :
    Within answers calls (InferenceBackend.stopRuntime s runtime)
      fun _ => True := by
  unfold InferenceBackend.stopRuntime
  split
  · exact dockerStopRuntime_calls h
  · unfold ProcessInferenceBackend.stopRuntime
    split
    · exact within_pure trivial
    · exact within_bind (terminateRecordedPid_calls h)
        fun _ _ => within_pure trivial
  · exact within_pure trivial

theorem stopPod_calls :
    Within answers calls (PodBackend.stopPod s runtime) fun _ => True := by
  unfold PodBackend.stopPod
  split
  · unfold ProcessPodBackend.stopPod
    refine within_bind (within_onlyIf fun _ => removeContainer_calls h _ _)
      fun _ _ => ?_
    exact within_pure trivial
  · exact within_pure trivial

theorem stopBackend_calls :
    Within answers calls (stopBackend s runtime) fun _ => True := by
  unfold stopBackend
  split
  · split
    · refine within_bind (stopRuntime_calls h) fun _ _ => ?_
      unfold deleteStaged
      refine within_bind (within_onlyIf fun _ => plain_calls h trivial)
        fun _ _ => ?_
      exact within_onlyIf fun _ => plain_calls h trivial
    · exact within_pure trivial
  · split
    · refine within_bind (stopPod_calls h) fun _ _ => ?_
      refine within_bind (plain_calls h trivial) fun volume _ => ?_
      split
      · exact plain_calls h trivial
      · exact within_pure trivial
    · exact within_pure trivial
  · exact within_pure trivial
  · exact within_pure trivial

theorem report_calls (update : DeploymentStatusUpdate) :
    Within answers calls (report update) fun _ => True :=
  within_ignoring (plain_calls h trivial)

theorem pauseBackend_calls :
    Within answers calls (pauseBackend s runtime)
      fun paused => paused.status = .suspended := by
  unfold pauseBackend
  split
  · unfold PodBackend.pausePod
    split
    · unfold ProcessPodBackend.pausePod
      refine within_bind (within_onlyIf fun _ => stopContainer_calls h _ _)
        fun _ _ => ?_
      exact within_pure rfl
    · exact within_pure rfl
  · split
    · exact within_bind (stopRuntime_calls h) fun _ _ => within_pure rfl
    · exact within_pure rfl
  · exact within_pure rfl
  · exact within_pure rfl

theorem pausedOrMarked_calls :
    Within answers calls (pausedOrMarked s runtime)
      fun paused => paused.status = .suspended := by
  unfold pausedOrMarked
  refine within_bind (within_attempt_ok (pauseBackend_calls h)) fun r hr => ?_
  split
  · exact within_pure (hr _ rfl)
  · exact within_pure rfl

/-! ## Backends that start -/

theorem textGeneration_calls (artifact : ArtifactBundle) :
    Within answers calls
      (LocalArtifactInferenceBackend.startRuntime runtime artifact)
      fun started => started.status = runtime.status := by
  refine within_bind (probe_within h.probe _) fun _ _ => ?_
  exact within_pure rfl

theorem startFallbackRuntime_calls (artifact : ArtifactBundle) :
    Within answers calls
      (ProcessInferenceBackend.startFallbackRuntime runtime artifact)
      fun started => started.status = runtime.status := by
  unfold ProcessInferenceBackend.startFallbackRuntime
  refine within_bind (terminateRecordedPid_calls h) fun _ _ => ?_
  refine within_bind (textGeneration_calls h artifact) fun started hs => ?_
  exact within_pure hs

theorem startProcessRuntime_calls (hfiles : MakesFiles calls)
    (artifact : ArtifactBundle) :
    Within answers calls
      (ProcessInferenceBackend.startProcessRuntime s runtime artifact)
      fun started => started.status = runtime.status := by
  unfold ProcessInferenceBackend.startProcessRuntime
  split
  · exact within_raise
  · refine within_bind (Q := fun _ => True) ?_ fun reused _ => ?_
    · unfold ProcessInferenceBackend.reuses
      split
      · exact within_pure trivial
      · split
        · exact within_pure trivial
        · exact probe_within h.probe _
    · split
      · exact within_pure rfl
      · refine within_bind (Q := fun _ => True)
          (within_perform (hfiles _).1 fun _ _ => trivial) fun _ _ => ?_
        refine within_bind (probe_within h.probe _) fun _ _ => ?_
        refine within_bind (plain_calls h trivial) fun _ _ => ?_
        refine within_bind (probe_within h.probe _) fun _ _ => ?_
        refine within_bind (processHealthRounds_within h.probe _ _ _)
          fun _ _ => ?_
        exact within_pure rfl

theorem awaitStarted_calls (params : Option MultiNodeParams) :
    Within answers calls
      (DockerInferenceBackend.awaitStarted s runtime params)
      fun started => started = runtime := by
  unfold DockerInferenceBackend.awaitStarted
  split
  · refine within_bind (waitForContainerRunning_within h.probe _ _)
      fun running _ => ?_
    split
    · exact within_pure rfl
    · exact within_bind (dockerStopRuntime_calls h) fun _ _ => within_raise
  · refine within_bind (Q := fun _ => True) (within_attempt
      ((waitForHealth_within h.probe _ _).weaken fun _ _ => trivial)
      fun _ => trivial) fun r _ => ?_
    split
    · exact within_pure rfl
    · exact within_bind (dockerStopRuntime_calls h) fun _ _ => within_raise
    · exact within_raise

theorem dockerStartRuntime_calls (hrun : LaunchesInference s calls)
    (artifact : ArtifactBundle) :
    Within answers calls
      (DockerInferenceBackend.startRuntime s runtime artifact)
      fun started => started.status = runtime.status := by
  unfold DockerInferenceBackend.startRuntime
  refine within_bind (probe_within h.probe _) fun port _ => ?_
  refine within_bind (removeContainer_calls h _ _) fun _ _ => ?_
  refine within_bind (probe_within h.probe _) fun _ _ => ?_
  dsimp only
  split
  · exact within_raise
  · refine within_bind (Q := fun _ => True) (orNotAvailable_within
      (within_perform (hrun _ _ _ _) fun _ _ => trivial)) fun result _ => ?_
    split
    · exact within_raise
    · refine (awaitStarted_calls h _).weaken fun started heq => ?_
      rw [heq]
      rfl

theorem startRuntime_calls (hrun : LaunchesInference s calls)
    (hfiles : MakesFiles calls) (artifact : ArtifactBundle) :
    Within answers calls (InferenceBackend.startRuntime s runtime artifact)
      fun started => started.status = runtime.status := by
  unfold InferenceBackend.startRuntime
  split
  · exact dockerStartRuntime_calls h hrun artifact
  · unfold ProcessInferenceBackend.startRuntime
    refine within_bind (within_attempt_ok
      (startProcessRuntime_calls h hfiles artifact)) fun r hr => ?_
    split
    · exact within_pure (hr _ rfl)
    · exact startFallbackRuntime_calls h artifact
    · split
      · exact startFallbackRuntime_calls h artifact
      · exact within_raise
    · exact within_raise
  · exact textGeneration_calls h artifact

theorem startVm_calls :
    Within answers calls (VMBackend.startVm s runtime)
      fun started => started.status = .ready := by
  unfold VMBackend.startVm
  split
  · unfold FirecrackerVMBackend.startVm
    refine within_bind (orNotAvailable_within
      (probe_within h.probe .firecrackerVersion)) fun _ _ => ?_
    split
    · exact within_raise
    · exact within_pure rfl
  · exact within_pure rfl

theorem startPod_calls (hrun : LaunchesPods s calls)
    (workload : WorkloadSpec) :
    Within answers calls (PodBackend.startPod s runtime workload)
      fun started => started.status = .ready := by
  unfold PodBackend.startPod
  split
  · unfold ProcessPodBackend.startPod
    refine within_bind (removeContainer_calls h _ _) fun _ _ => ?_
    refine within_bind (within_onlyIf fun _ => probe_within h.probe _)
      fun _ _ => ?_
    split
    · exact within_raise
    · refine within_bind (Q := fun _ => True) (orNotAvailable_within
        (within_perform (hrun _ _) fun _ _ => trivial)) fun result _ => ?_
      split
      · exact within_raise
      · refine within_bind (readBackSshPort_within h.probe _ _) fun _ _ => ?_
        refine within_bind (verifyPorts_within h.probe _ _) fun _ _ => ?_
        exact within_pure rfl
  · exact within_pure rfl

theorem resumePod_calls :
    Within answers calls (PodBackend.resumePod s runtime)
      fun resumed => resumed.status = .ready := by
  unfold PodBackend.resumePod
  split
  · unfold ProcessPodBackend.resumePod
    refine within_bind (Q := fun _ => True) ?_ fun _ _ => within_pure rfl
    unfold ProcessPodBackend.restartContainer
    split
    · refine within_bind (orNotAvailable_within (plain_calls h trivial))
        fun result _ => ?_
      split
      · exact within_raise
      · exact within_pure trivial
    · exact within_pure trivial
  · exact within_pure rfl

/-! ## Getting back -/

theorem reacquire_calls :
    Within answers calls (reacquire runtime) fun _ => True := by
  unfold reacquire
  split
  · exact plain_calls h trivial
  · refine within_bind (foreignBusyDevices_within h.probe (h _ trivial))
      fun avoid _ => ?_
    exact plain_calls h trivial

theorem workloadToResume_calls :
    Within answers calls (workloadToResume runtime) fun _ => True := by
  unfold workloadToResume
  refine within_bind (attempt_plain_calls h trivial) fun r _ => ?_
  split
  · exact within_pure trivial
  · split
    · exact within_pure trivial
    · exact within_raise

end Backends

section Handlers

variable (h : Repertoire calls)
include h

theorem write_calls (hstatus : runtime.status ≠ .terminated) :
    Within answers calls (upsertRuntime runtime) fun _ => True :=
  within_perform (h.write runtime hstatus) fun _ _ => trivial

/-! ## Lifecycle -/

theorem failRuntime_calls (error : String) :
    Within answers calls (failRuntime runtime error) fun _ => True := by
  refine within_bind (plain_calls h.plain trivial) fun _ _ => ?_
  refine within_bind (write_calls h (by simp)) fun _ _ => ?_
  exact report_calls h.plain _

theorem terminateRuntime_calls (reported : Bool)
    (hwrite : calls (.upsertRuntime { runtime with
      status := .terminated, currentStage := "terminated" })) :
    Within answers calls (terminateRuntime s runtime reported)
      fun _ => True := by
  refine within_bind (plain_calls h.plain trivial) fun _ _ => ?_
  refine within_bind (within_ignoring (stopBackend_calls h.plain)) fun _ _ => ?_
  refine within_bind (Q := fun _ => True)
    (within_perform hwrite fun _ _ => trivial) fun _ _ => ?_
  exact within_onlyIf fun _ => report_calls h.plain _

theorem suspendRuntime_calls :
    Within answers calls (suspendRuntime s runtime) fun _ => True := by
  refine within_bind (plain_calls h.plain trivial) fun _ _ => ?_
  refine within_bind (pausedOrMarked_calls h.plain) fun paused hpaused => ?_
  refine within_bind (write_calls h (by simp [hpaused])) fun _ _ => ?_
  exact report_calls h.plain _

/-! ## Starting -/

theorem allocateOrFail_calls (gpuCount : Int) :
    Within answers calls (allocateOrFail runtime gpuCount)
      fun _ => True := by
  unfold allocateOrFail
  refine within_bind (foreignBusyDevices_within h.plain.probe (h.plain _ trivial))
    fun avoid _ => ?_
  refine within_bind (attempt_plain_calls h.plain trivial) fun r _ => ?_
  split
  · exact within_pure trivial
  · split
    · exact within_bind (failRuntime_calls h _) fun _ _ => within_pure trivial
    · exact within_raise

theorem launchInference_calls (hrun : LaunchesInference s calls)
    (hfiles : MakesFiles calls) (workload : WorkloadSpec)
    (artifact : ArtifactBundle) :
    Within answers calls (launchInference s runtime workload artifact)
      fun _ => True := by
  unfold launchInference
  refine within_bind (Q := fun _ => True)
    (within_perform (hfiles _).1 fun _ _ => trivial) fun dir _ => ?_
  refine within_bind (write_calls h (by simp [startingInference]))
    fun _ _ => ?_
  refine within_bind (Q := fun _ => True) (within_attempt
    ((startRuntime_calls h.plain hrun hfiles artifact).weaken fun _ _ => trivial)
    fun _ => trivial) fun r _ => ?_
  split
  · refine within_bind (write_calls h (by simp [readyInference]))
      fun _ _ => ?_
    exact report_calls h.plain _
  · exact failRuntime_calls h _
  · exact within_raise

theorem startInferenceRuntime_calls (hrun : LaunchesInference s calls)
    (hfiles : MakesFiles calls) (workload : WorkloadSpec) :
    Within answers calls (startInferenceRuntime s runtime workload)
      fun _ => True := by
  unfold startInferenceRuntime
  refine within_bind (allocateOrFail_calls h _) fun devices _ => ?_
  split
  · exact within_pure trivial
  · refine within_bind (Q := fun _ => True) (within_attempt (Q := fun _ => True)
      ?_ fun _ => trivial) fun r _ => ?_
    · unfold stageFor StagedArtifactStore.stageArtifact
      split
      · exact within_raise
      · split
        · exact within_raise
        · exact within_bind (Q := fun _ => True)
            (within_perform ((hfiles _).2 _ _) fun _ _ => trivial)
            fun _ _ => within_pure trivial
    · split
      · exact launchInference_calls h hrun hfiles _ _
      · exact failRuntime_calls h _
      · exact within_raise

theorem launchPod_calls (hrun : LaunchesPods s calls)
    (workload : WorkloadSpec) (setup : PodSetup) :
    Within answers calls (launchPod s runtime workload setup)
      fun _ => True := by
  unfold launchPod
  refine within_bind (write_calls h (by simp [startingPod])) fun _ _ => ?_
  refine within_bind (within_attempt_ok (startPod_calls h.plain hrun workload))
    fun r hr => ?_
  split
  · have hready := hr _ rfl
    refine within_bind (waitForReady_within h.plain.probe _ _) fun _ _ => ?_
    refine within_bind (write_calls h (by simp [readyPod, hready]))
      fun _ _ => ?_
    exact report_calls h.plain _
  · exact failRuntime_calls h _
  · exact within_raise

theorem startPodRuntime_calls (hrun : LaunchesPods s calls)
    (hvolume : MakesVolumes calls) (workload : WorkloadSpec) :
    Within answers calls (startPodRuntime s runtime workload)
      fun _ => True := by
  unfold startPodRuntime
  refine within_bind (Q := fun _ => True) (within_attempt
    ((setUpSsh_within h.plain.probe s).weaken fun _ _ => trivial)
    fun _ => trivial) fun r _ => ?_
  split
  · split
    · exact failRuntime_calls h _
    · exact within_raise
  · refine within_bind (assignPorts_within h.plain.probe _ _ _) fun ports _ => ?_
    refine within_bind (allocateOrFail_calls h _) fun devices _ => ?_
    split
    · exact within_pure trivial
    · split
      · exact within_raise
      · refine within_bind (Q := fun _ => True) (within_attempt
          (Q := fun _ => True) (within_perform (hvolume _) fun _ _ => trivial)
          fun _ => trivial) fun r _ => ?_
        split
        · split
          · exact failRuntime_calls h _
          · exact within_raise
        · refine within_bind (plain_calls h.plain trivial) fun _ _ => ?_
          exact launchPod_calls h hrun _ _

theorem startVmRuntime_calls (workload : WorkloadSpec) :
    Within answers calls (startVmRuntime s runtime workload)
      fun _ => True := by
  unfold startVmRuntime
  refine within_bind (allocateOrFail_calls h _) fun devices _ => ?_
  split
  · exact within_pure trivial
  · refine within_bind (write_calls h (by simp [startingVm])) fun _ _ => ?_
    refine within_bind (within_attempt_ok (startVm_calls h.plain)) fun r hr => ?_
    split
    · have hready := hr _ rfl
      refine within_bind (write_calls h (by simp [readyVm, hready]))
        fun _ _ => ?_
      exact report_calls h.plain _
    · exact failRuntime_calls h _
    · exact within_raise

/-! ## Resuming -/

theorem resumePodRuntime_calls :
    Within answers calls (resumePodRuntime s runtime) fun _ => True := by
  unfold resumePodRuntime
  refine within_bind (within_attempt_ok (resumePod_calls h.plain)) fun r hr => ?_
  split
  · have hready := hr _ rfl
    refine within_bind (write_calls h (by simp [hready])) fun _ _ => ?_
    exact report_calls h.plain _
  · refine within_bind (plain_calls h.plain trivial) fun _ _ => ?_
    exact write_calls h (by simp [markSuspended])
  · exact within_raise

theorem redispatch_calls (hrun : LaunchesInference s calls)
    (hfiles : MakesFiles calls) :
    Within answers calls (redispatch s runtime) fun _ => True := by
  unfold redispatch
  refine within_bind (plain_calls h.plain trivial) fun _ _ => ?_
  refine within_bind (workloadToResume_calls h.plain) fun workload _ => ?_
  split
  · exact within_pure trivial
  · refine within_bind (write_calls h (by simp)) fun _ _ => ?_
    split
    · exact startInferenceRuntime_calls h hrun hfiles _
    · exact startVmRuntime_calls h _
    · exact within_pure trivial
    · exact within_pure trivial

theorem resumeRuntime_calls (hrun : LaunchesInference s calls)
    (hfiles : MakesFiles calls) :
    Within answers calls (resumeRuntime s runtime) fun _ => True := by
  unfold resumeRuntime
  refine within_bind (Q := fun _ => True) (within_attempt
    ((reacquire_calls h.plain).weaken fun _ _ => trivial) fun _ => trivial)
    fun r _ => ?_
  split
  · split
    · exact within_pure trivial
    · exact within_raise
  · split
    · exact resumePodRuntime_calls h
    · exact redispatch_calls h hrun hfiles

/-! ## One lease, one runtime -/

variable (hpods : LaunchesPods s calls) (hinference : LaunchesInference s calls)
variable (hvolumes : MakesVolumes calls) (hfiles : MakesFiles calls)
include hpods hinference hvolumes hfiles

theorem startLease_calls (lease : LeaseAssignment) :
    Within answers calls (startLease s lease) fun _ => True := by
  unfold startLease
  refine within_bind (Q := fun _ => True) (within_attempt (Q := fun _ => True)
    ?_ fun _ => trivial) fun r _ => ?_
  · unfold reconcileWorkload
    refine within_bind (plain_calls h.plain trivial) fun workload _ => ?_
    split
    · exact plain_calls h.plain trivial
    · refine within_bind (write_calls h (by simp [acceptedRuntime]))
        fun _ _ => ?_
      unfold dispatch
      split
      · exact startInferenceRuntime_calls h hinference hfiles _
      · exact startPodRuntime_calls h hpods hvolumes _
      · exact startVmRuntime_calls h _
      · exact failRuntime_calls h _
  · split
    · exact within_pure trivial
    · exact within_ignoring (plain_calls h.plain trivial)

variable (hwrite : ∀ runtime, calls (.upsertRuntime runtime))
variable (hremove : ∀ d, calls (.removeRuntime d))
include hwrite hremove

theorem handleLease_calls (lease : LeaseAssignment) :
    Within answers calls (handleLease s lease) fun _ => True := by
  have hstart : Within answers calls (startLease s lease) fun _ => True :=
    startLease_calls h hpods hinference hvolumes hfiles lease
  unfold handleLease
  refine within_bind (plain_calls h.plain trivial) fun found _ => ?_
  split
  · split
    · exact within_pure trivial
    · exact hstart
  · rename_i existing
    have hretry : Within answers calls (do
        terminateRuntime s existing false
        removeRuntime lease.deploymentId
        startLease s lease) fun _ => True := by
      refine within_bind (terminateRuntime_calls h _ (hwrite _)) fun _ _ => ?_
      refine within_bind (Q := fun _ => True)
        (within_perform (hremove _) fun _ _ => trivial) fun _ _ => ?_
      exact hstart
    split
    · split
      · exact suspendRuntime_calls h
      · exact suspendRuntime_calls h
      · exact within_pure trivial
    · split
      · exact resumeRuntime_calls h hinference hfiles
      · exact hretry
      · exact hretry
      all_goals exact within_pure trivial

omit hpods hinference hvolumes hfiles

theorem cleanUp_calls (active fleet : List String) :
    Within answers calls (cleanUp s active fleet runtime) fun _ => True := by
  unfold cleanUp
  split
  · exact within_pure trivial
  · split
    · exact within_pure trivial
    · unfold reapSuspended
      refine within_bind (attempt_plain_calls h.plain trivial) fun r _ => ?_
      split
      · split
        · refine within_bind (terminateRuntime_calls h _ (hwrite _))
            fun _ _ => ?_
          exact within_perform (hremove _) fun _ _ => trivial
        · exact within_pure trivial
      · exact within_pure trivial
      · exact within_pure trivial
    · exact terminateRuntime_calls h _ (hwrite _)

omit hremove

theorem recoverRuntime_calls :
    Within answers calls (recoverRuntime s runtime) fun _ => True := by
  unfold recoverRuntime
  refine within_bind (attempt_plain_calls h.plain trivial) fun r _ => ?_
  split
  · exact within_bind (terminateRuntime_calls h _ (hwrite _))
      fun _ _ => within_pure trivial
  · split
    · exact within_pure trivial
    · exact within_bind (terminateRuntime_calls h _ (hwrite _))
        fun _ _ => within_pure trivial
  · split
    · exact within_pure trivial
    · exact within_raise

theorem terminateDeployment_calls (d : String) :
    Within answers calls (terminateDeployment s d) fun _ => True := by
  unfold terminateDeployment
  refine within_bind (plain_calls h.plain trivial) fun found _ => ?_
  split
  · exact within_pure trivial
  · exact within_bind (terminateRuntime_calls h _ (hwrite _))
      fun _ _ => within_pure trivial

omit hwrite in
theorem underReconcileLock_calls {α : Type} {busy : α} {p : Agent α}
    (hp : Within answers calls p fun _ => True) :
    Within answers calls (underReconcileLock busy p) fun _ => True := by
  unfold underReconcileLock
  refine within_bind (plain_calls h.plain trivial) fun acquired _ => ?_
  split
  · refine within_bind (Q := fun _ => True) (within_attempt
      (hp.weaken fun _ _ => trivial) fun _ => trivial) fun r _ => ?_
    refine within_bind (plain_calls h.plain trivial) fun _ _ => ?_
    split
    · exact within_pure trivial
    · exact within_raise
  · exact within_pure trivial

theorem recoverRuntimeState_calls :
    Within answers calls (recoverRuntimeState s) fun _ => True := by
  have hloop : ∀ (runtimes : List UnifiedRuntimeRecord) (m n : Nat),
      Within answers calls (recoverLoop s m n runtimes) fun _ => True := by
    intro runtimes
    induction runtimes with
    | nil => exact fun _ _ => within_pure trivial
    | cons runtime rest ih =>
        intro m n
        unfold recoverLoop
        split
        · exact ih m n
        · refine within_bind (recoverRuntime_calls h hwrite) fun kept _ => ?_
          split
          · exact ih _ _
          · exact ih _ _
  unfold recoverRuntimeState
  refine underReconcileLock_calls h ?_
  exact within_bind (plain_calls h.plain trivial)
    fun runtimes _ => hloop runtimes 0 0

end Handlers

section Pass

variable (h : Repertoire calls)
variable (hpods : LaunchesPods s calls) (hinference : LaunchesInference s calls)
variable (hvolumes : MakesVolumes calls) (hfiles : MakesFiles calls)
variable (hwrite : ∀ runtime, calls (.upsertRuntime runtime))
variable (hremove : ∀ d, calls (.removeRuntime d))
include h hpods hinference hvolumes hfiles hwrite hremove

theorem reconcileOnce_calls (hotkey : String) :
    Within answers calls (reconcileOnce s hotkey) fun _ => True := by
  unfold reconcileOnce
  refine underReconcileLock_calls h ?_
  refine within_bind (Q := fun _ => True) ?_ fun leases _ => ?_
  · unfold syncLeases
    refine within_bind (attempt_plain_calls h.plain trivial) fun r _ => ?_
    split
    · exact within_pure trivial
    · split
      · exact within_pure trivial
      · exact within_raise
  · refine within_bind (within_forEach fun lease _ =>
      handleLease_calls h hpods hinference hvolumes hfiles hwrite hremove
        lease) fun _ _ => ?_
    refine within_bind (plain_calls h.plain trivial) fun runtimes _ => ?_
    exact within_forEach fun runtime _ =>
      cleanUp_calls h hwrite hremove _ _

end Pass

end NodeAgent
