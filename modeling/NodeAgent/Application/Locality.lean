import NodeAgent.Application.Footprint

/-!
# Acting for one deployment stays with it

Every handler of the service, from a report up to a whole lease, keeps to the
calls of the deployment that it acts for.
-/

namespace NodeAgent

open Effectful Program Agent

variable {s : Settings} {own : String → String → Prop} {d : String}
variable {runtime : UnifiedRuntimeRecord}

/-! ## The backends as the service calls them -/

theorem perform_within {e : Effect} (he : BackendCall own d e) :
    Within (Typed s own) (BackendCall own d) (perform e) fun _ => True :=
  within_perform he fun _ _ => trivial

theorem deleteStaged_files (h : runtime.deploymentId = d) :
    Within (Typed s own) (FileCall d) (deleteStaged runtime)
      fun _ => True := by
  refine within_bind (within_onlyIf fun _ => within_perform h ?_)
    fun _ _ => within_onlyIf fun _ => within_perform h ?_
  · exact fun _ _ => trivial
  · exact fun _ _ => trivial

theorem dropVolume_files (h : runtime.deploymentId = d) :
    Within (Typed s own) (FileCall d) (do
      match ← popVolumeRecord runtime.deploymentId with
      | some volume => deleteVolume volume
      | none => pure ()) fun _ => True := by
  refine within_bind (Q := fun volume : Option VolumeRecord =>
    ∀ v, volume = some v → v.deploymentId = d)
    (within_perform (by exact h) ?_) fun volume hvolume => ?_
  · rintro volume htyped v rfl
    exact (show v.deploymentId = runtime.deploymentId from htyped).trans h
  · split
    · exact within_perform (hvolume _ rfl) fun _ _ => trivial
    · exact within_pure trivial

theorem stopBackend_stops (h : Belongs s own d runtime) :
    Within (Typed s own) (StopCall own d) (stopBackend s runtime)
      fun _ => True := by
  unfold stopBackend
  split
  · split
    · refine within_bind (stopRuntime_stops (by assumption) h)
        fun _ _ => ?_
      exact Within.stops (deleteStaged_files h.1)
    · exact within_pure trivial
  · split
    · refine within_bind (stopPod_stops h)
        fun _ _ => ?_
      exact Within.stops (dropVolume_files h.1)
    · exact within_pure trivial
  · exact within_pure trivial
  · exact within_pure trivial

theorem pauseBackend_stops (h : Belongs s own d runtime) :
    Within (Typed s own) (StopCall own d) (pauseBackend s runtime)
      fun paused => Belongs s own d paused ∧ Kept runtime paused ∧
        paused.status = .suspended := by
  have hmarked : Belongs s own d (markSuspended runtime) ∧
      Kept runtime (markSuspended runtime) ∧
      (markSuspended runtime).status = .suspended :=
    ⟨h.of_eq rfl rfl rfl, ⟨rfl, rfl, rfl, rfl⟩, rfl⟩
  unfold pauseBackend
  split
  · exact pausePod_stops h
  · split
    · refine within_bind (stopRuntime_stops (by assumption) h)
        fun stopped hstopped => ?_
      obtain ⟨hbelongs, hkept⟩ := hstopped
      exact within_pure ⟨hbelongs.of_eq rfl rfl rfl,
        ⟨hkept.1, hkept.2, hkept.3, hkept.4⟩, rfl⟩
    · exact within_pure hmarked
  · exact within_pure hmarked
  · exact within_pure hmarked

theorem pausedOrMarked_always (h : Belongs s own d runtime) :
    Always (Typed s own) (StopCall own d) (pausedOrMarked s runtime)
      fun r => ∃ paused, r = .ok paused ∧ Belongs s own d paused ∧
        Kept runtime paused ∧ paused.status = .suspended := by
  unfold pausedOrMarked
  refine always_bind (pauseBackend_stops h).attempt ?_ ?_
  · rintro result ⟨_, heq, hr⟩
    cases heq
    split
    · exact ⟨_, rfl, hr _ rfl⟩
    · exact ⟨_, rfl, h.of_eq rfl rfl rfl, ⟨rfl, rfl, rfl, rfl⟩, rfl⟩
  · rintro x ⟨_, heq, _⟩
    cases heq

theorem pausedOrMarked_stops (h : Belongs s own d runtime) :
    Within (Typed s own) (StopCall own d) (pausedOrMarked s runtime)
      fun paused => Belongs s own d paused ∧ Kept runtime paused ∧
        paused.status = .suspended := by
  refine (pausedOrMarked_always h).weaken ?_
  rintro _ ⟨paused, rfl, hpaused⟩ _ heq
  cases heq
  exact hpaused

theorem stageFor_files (h : runtime.deploymentId = d)
    (workload : WorkloadSpec) :
    Within (Typed s own) (FileCall d) (stageFor runtime workload)
      fun _ => True := by
  unfold stageFor StagedArtifactStore.stageArtifact
  split
  · exact within_raise
  · split
    · exact within_raise
    · refine within_bind (within_perform h fun _ _ => trivial)
        fun path _ => ?_
      exact within_pure trivial

/-! ## Local calls -/

theorem Within.local {α : Type} {p : Agent α} {Q : α → Prop}
    (h : Within (Typed s own) (BackendCall own d) p Q) :
    Within (Typed s own) (Local s own d) p Q :=
  Always.widen h fun _ => .inl

theorem local_probe (question : Probe) : Local s own d (.probe question) :=
  .inl trivial

theorem perform_local {e : Effect} (he : Local s own d e) :
    Within (Typed s own) (Local s own d) (perform e) fun _ => True :=
  within_perform he fun _ _ => trivial

theorem attempt_perform_local {e : Effect} (he : Local s own d e) :
    Within (Typed s own) (Local s own d) (attempt (perform e))
      fun _ => True :=
  within_attempt ((perform_local he).weaken fun _ _ => trivial)
    fun _ => trivial

/-! ## Lifecycle -/

theorem report_local {update : DeploymentStatusUpdate}
    (h : update.deploymentId = d) :
    Within (Typed s own) (Local s own d) (report update) fun _ => True :=
  within_ignoring (perform_local (.inr h))

theorem failRuntime_local (h : Belongs s own d runtime) (error : String) :
    Within (Typed s own) (Local s own d) (failRuntime runtime error)
      fun _ => True := by
  refine within_bind (perform_local (.inr h.1)) fun _ _ => ?_
  refine within_bind (perform_local (.inr (h.of_eq rfl rfl rfl)))
    fun _ _ => ?_
  exact report_local h.1

theorem terminateRuntime_local (h : Belongs s own d runtime)
    (reported : Bool) :
    Within (Typed s own) (Local s own d)
      (terminateRuntime s runtime reported) fun _ => True := by
  refine within_bind (perform_local (.inr h.1)) fun _ _ => ?_
  refine within_bind (within_ignoring
    (Within.local (Within.backend (stopBackend_stops h)))) fun _ _ => ?_
  refine within_bind (perform_local (.inr (h.of_eq rfl rfl rfl)))
    fun _ _ => ?_
  exact within_onlyIf fun _ => report_local h.1

theorem suspendRuntime_local (h : Belongs s own d runtime) :
    Within (Typed s own) (Local s own d) (suspendRuntime s runtime)
      fun _ => True := by
  refine within_bind (perform_local (.inr h.1)) fun _ _ => ?_
  refine within_bind (Within.local (Within.backend (pausedOrMarked_stops h)))
    fun paused hpaused => ?_
  refine within_bind (perform_local (.inr hpaused.1)) fun _ _ => ?_
  exact report_local h.1

/-! ## Starts -/

theorem allocateOrFail_local (h : Belongs s own d runtime) (gpuCount : Int) :
    Within (Typed s own) (Local s own d) (allocateOrFail runtime gpuCount)
      fun _ => True := by
  unfold allocateOrFail
  refine within_bind (foreignBusyDevices_within local_probe (.inl trivial))
    fun avoid _ => ?_
  refine within_bind (attempt_perform_local (.inr h.1)) fun r _ => ?_
  split
  · exact within_pure trivial
  · split
    · exact within_bind (failRuntime_local h _) fun _ _ => within_pure trivial
    · exact within_raise

theorem launchInference_local (hkind : runtime.workloadKind = .inference)
    (h : Belongs s own d runtime) (workload : WorkloadSpec)
    (artifact : ArtifactBundle) :
    Within (Typed s own) (Local s own d)
      (launchInference s runtime workload artifact) fun _ => True := by
  unfold launchInference
  refine within_bind (perform_local (.inl h.1)) fun dir _ => ?_
  have hstarting : Belongs s own d
      (startingInference s runtime workload artifact dir) :=
    h.of_eq rfl rfl rfl
  refine within_bind (perform_local (.inr hstarting)) fun _ _ => ?_
  refine within_bind (Q := fun r => ∀ started, r = .ok started →
    Belongs s own d started) (within_attempt ((Within.local
      (startRuntime_within (by exact hkind) hstarting artifact)).weaken ?_)
        ?_) ?_
  · intro started hstarted _ heq
    cases heq
    exact hstarted.1
  · intro x _ heq
    cases heq
  · intro r hr
    split
    · have hstarted := hr _ rfl
      refine within_bind (perform_local (.inr (hstarted.of_eq rfl rfl rfl)))
        fun _ _ => ?_
      exact report_local hstarted.1
    · exact failRuntime_local hstarting _
    · exact within_raise

theorem startInferenceRuntime_local
    (hkind : runtime.workloadKind = .inference) (h : Belongs s own d runtime)
    (workload : WorkloadSpec) :
    Within (Typed s own) (Local s own d)
      (startInferenceRuntime s runtime workload) fun _ => True := by
  unfold startInferenceRuntime
  refine within_bind (allocateOrFail_local h _) fun devices _ => ?_
  split
  · exact within_pure trivial
  · refine within_bind (Q := fun _ => True) (within_attempt
      ((Within.local
        (Within.files (stageFor_files (by exact h.1) workload))).weaken
        fun _ _ => trivial)
      fun _ => trivial) fun r _ => ?_
    split
    · exact launchInference_local (by exact hkind)
        (by exact h.of_eq rfl rfl rfl) _ _
    · exact failRuntime_local (by exact h.of_eq rfl rfl rfl) _
    · exact within_raise

theorem launchPod_local (hkind : runtime.workloadKind = .pod)
    (h : Belongs s own d runtime) (workload : WorkloadSpec)
    (setup : PodSetup) :
    Within (Typed s own) (Local s own d) (launchPod s runtime workload setup)
      fun _ => True := by
  unfold launchPod
  have hstarting : Belongs s own d (startingPod s runtime workload setup) :=
    h.of_eq rfl rfl rfl
  refine within_bind (perform_local (.inr hstarting)) fun _ _ => ?_
  refine within_bind (Q := fun r => ∀ started, r = .ok started →
    Belongs s own d started) (within_attempt ((Within.local
      (startPod_within (by exact hkind) hstarting workload)).weaken ?_) ?_) ?_
  · intro started hstarted _ heq
    cases heq
    exact hstarted.1
  · intro x _ heq
    cases heq
  · intro r hr
    split
    · have hstarted := hr _ rfl
      refine within_bind (waitForReady_within local_probe _ _) fun _ _ => ?_
      refine within_bind (perform_local (.inr (hstarted.of_eq rfl rfl rfl)))
        fun _ _ => ?_
      exact report_local hstarted.1
    · exact failRuntime_local hstarting _
    · exact within_raise

theorem startPodRuntime_local (hkind : runtime.workloadKind = .pod)
    (h : Belongs s own d runtime) (workload : WorkloadSpec) :
    Within (Typed s own) (Local s own d) (startPodRuntime s runtime workload)
      fun _ => True := by
  unfold startPodRuntime
  refine within_bind (Q := fun _ => True) (within_attempt
    ((setUpSsh_within local_probe s).weaken fun _ _ => trivial)
    fun _ => trivial) fun r _ => ?_
  split
  · split
    · exact failRuntime_local h _
    · exact within_raise
  · refine within_bind (assignPorts_within local_probe _ _ _) fun ports _ => ?_
    refine within_bind (allocateOrFail_local h _) fun devices _ => ?_
    split
    · exact within_pure trivial
    · split
      · exact within_raise
      · refine within_bind (attempt_perform_local (.inl h.1)) fun r _ => ?_
        split
        · split
          · exact failRuntime_local h _
          · exact within_raise
        · refine within_bind (perform_local (.inl h.1)) fun _ _ => ?_
          exact launchPod_local hkind h _ _

theorem startVmRuntime_local (h : Belongs s own d runtime)
    (workload : WorkloadSpec) :
    Within (Typed s own) (Local s own d) (startVmRuntime s runtime workload)
      fun _ => True := by
  unfold startVmRuntime
  refine within_bind (allocateOrFail_local h _) fun devices _ => ?_
  split
  · exact within_pure trivial
  · rename_i devices
    have hstarting : Belongs s own d
        (startingVm runtime devices (requestedGpus workload)) :=
      h.of_eq rfl rfl rfl
    refine within_bind (perform_local (.inr hstarting)) fun _ _ => ?_
    refine within_bind (Q := fun r => ∀ started, r = .ok started →
      Belongs s own d started) (within_attempt
        ((Within.local
          (Within.files (startVm_files hstarting))).weaken ?_) ?_) ?_
    · intro started hstarted _ heq
      cases heq
      exact hstarted.1
    · intro x _ heq
      cases heq
    · intro r hr
      split
      · have hstarted := hr _ rfl
        refine within_bind (perform_local (.inr (hstarted.of_eq rfl rfl rfl)))
          fun _ _ => ?_
        exact report_local hstarted.1
      · exact failRuntime_local hstarting _
      · exact within_raise

/-! ## Resuming -/

theorem reacquire_local (h : Belongs s own d runtime) :
    Within (Typed s own) (Local s own d) (reacquire runtime)
      fun _ => True := by
  unfold reacquire
  split
  · exact perform_local (.inr h.1)
  · refine within_bind (foreignBusyDevices_within local_probe (.inl trivial))
      fun avoid _ => ?_
    exact perform_local (.inr h.1)

theorem resumePodRuntime_local (h : Belongs s own d runtime) :
    Within (Typed s own) (Local s own d) (resumePodRuntime s runtime)
      fun _ => True := by
  unfold resumePodRuntime
  refine within_bind (Q := fun r => ∀ resumed, r = .ok resumed →
    Belongs s own d resumed) (within_attempt
      ((Within.local (resumePod_within h)).weaken ?_) ?_) ?_
  · intro resumed hresumed _ heq
    cases heq
    exact hresumed.1
  · intro x _ heq
    cases heq
  · intro r hr
    split
    · have hresumed := hr _ rfl
      refine within_bind (perform_local (.inr hresumed)) fun _ _ => ?_
      exact report_local hresumed.1
    · refine within_bind (perform_local (.inr h.1)) fun _ _ => ?_
      exact perform_local (.inr (h.of_eq rfl rfl rfl))
    · exact within_raise

theorem redispatch_local (h : Belongs s own d runtime) :
    Within (Typed s own) (Local s own d) (redispatch s runtime)
      fun _ => True := by
  unfold redispatch
  refine within_bind (perform_local (.inr h.1)) fun _ _ => ?_
  refine within_bind (Q := fun _ => True) ?_ fun workload _ => ?_
  · unfold workloadToResume
    refine within_bind (attempt_perform_local (.inl trivial)) fun r _ => ?_
    split
    · exact within_pure trivial
    · split
      · exact within_pure trivial
      · exact within_raise
  · split
    · exact within_pure trivial
    · refine within_bind (perform_local (.inr (h.of_eq rfl rfl rfl)))
        fun _ _ => ?_
      split
      · exact startInferenceRuntime_local (by assumption)
          (by exact h.of_eq rfl rfl rfl) _
      · exact startVmRuntime_local (by exact h.of_eq rfl rfl rfl) _
      · exact within_pure trivial
      · exact within_pure trivial

theorem resumeRuntime_local (h : Belongs s own d runtime) :
    Within (Typed s own) (Local s own d) (resumeRuntime s runtime)
      fun _ => True := by
  unfold resumeRuntime
  refine within_bind (Q := fun _ => True) (within_attempt
    ((reacquire_local h).weaken fun _ _ => trivial) fun _ => trivial)
    fun r _ => ?_
  split
  · split
    · exact within_pure trivial
    · exact within_raise
  · split
    · exact resumePodRuntime_local (h.of_eq rfl rfl rfl)
    · exact redispatch_local h

/-! ## One lease, one runtime -/

theorem dispatch_local (h : Belongs s own d runtime)
    (workload : WorkloadSpec) (hkind : runtime.workloadKind = workload.kind) :
    Within (Typed s own) (Local s own d) (dispatch s runtime workload)
      fun _ => True := by
  unfold dispatch
  split
  · exact startInferenceRuntime_local (hkind.trans (by assumption)) h _
  · exact startPodRuntime_local (hkind.trans (by assumption)) h _
  · exact startVmRuntime_local h _
  · exact failRuntime_local h _

theorem reconcileWorkload_local {lease : LeaseAssignment}
    (h : lease.deploymentId = d) :
    Within (Typed s own) (Local s own d) (reconcileWorkload s lease)
      fun _ => True := by
  unfold reconcileWorkload
  refine within_bind (perform_local (.inl trivial)) fun workload _ => ?_
  split
  · exact perform_local (.inr h)
  · refine within_bind (perform_local (.inr (.of_none h rfl))) fun _ _ => ?_
    exact dispatch_local (.of_none h rfl) _ rfl

theorem startLease_local {lease : LeaseAssignment}
    (h : lease.deploymentId = d) :
    Within (Typed s own) (Local s own d) (startLease s lease)
      fun _ => True := by
  unfold startLease
  refine within_bind (Q := fun _ => True) (within_attempt
    ((reconcileWorkload_local h).weaken fun _ _ => trivial)
    fun _ => trivial) fun r _ => ?_
  split
  · exact within_pure trivial
  · exact within_ignoring (perform_local (.inr h))

theorem getRuntime_local (deploymentId : String) (h : deploymentId = d) :
    Within (Typed s own) (Local s own d) (getRuntime deploymentId)
      fun found => ∀ runtime, found = some runtime →
        Belongs s own d runtime := by
  subst h
  refine within_perform (.inr rfl) fun found htyped runtime heq => ?_
  subst heq
  exact htyped

theorem handleLease_local {lease : LeaseAssignment}
    (h : lease.deploymentId = d) :
    Within (Typed s own) (Local s own d) (handleLease s lease)
      fun _ => True := by
  unfold handleLease
  refine within_bind (getRuntime_local _ h) fun found hfound => ?_
  split
  · split
    · exact within_pure trivial
    · exact startLease_local h
  · rename_i existing
    have hexisting : Belongs s own d existing := hfound _ rfl
    split
    · split
      · exact suspendRuntime_local hexisting
      · exact suspendRuntime_local hexisting
      · exact within_pure trivial
    · have hretry : Within (Typed s own) (Local s own d) (do
          terminateRuntime s existing false
          removeRuntime lease.deploymentId
          startLease s lease) fun _ => True := by
        refine within_bind (terminateRuntime_local hexisting false)
          fun _ _ => ?_
        refine within_bind (perform_local (.inr h)) fun _ _ => ?_
        exact startLease_local h
      split
      · exact resumeRuntime_local hexisting
      · exact hretry
      · exact hretry
      all_goals exact within_pure trivial

theorem reapSuspended_local (h : Belongs s own d runtime) :
    Within (Typed s own) (Local s own d) (reapSuspended s runtime)
      fun _ => True := by
  unfold reapSuspended
  refine within_bind (attempt_perform_local (.inr h.1)) fun r _ => ?_
  split
  · split
    · refine within_bind (terminateRuntime_local h true) fun _ _ => ?_
      exact perform_local (.inr h.1)
    · exact within_pure trivial
  · exact within_pure trivial
  · exact within_pure trivial

theorem cleanUp_local (h : Belongs s own d runtime)
    (active fleet : List String) :
    Within (Typed s own) (Local s own d) (cleanUp s active fleet runtime)
      fun _ => True := by
  unfold cleanUp
  split
  · exact within_pure trivial
  · split
    · exact within_pure trivial
    · exact reapSuspended_local h
    · exact terminateRuntime_local h _

theorem recoverRuntime_local (h : Belongs s own d runtime) :
    Within (Typed s own) (Local s own d) (recoverRuntime s runtime)
      fun _ => True := by
  unfold recoverRuntime
  refine within_bind (attempt_perform_local (.inr h.1)) fun r _ => ?_
  split
  · exact within_bind (terminateRuntime_local h _)
      fun _ _ => within_pure trivial
  · split
    · exact within_pure trivial
    · exact within_bind (terminateRuntime_local h _)
        fun _ _ => within_pure trivial
  · split
    · exact within_pure trivial
    · exact within_raise

theorem terminateDeployment_local (deploymentId : String)
    (h : deploymentId = d) :
    Within (Typed s own) (Local s own d) (terminateDeployment s deploymentId)
      fun _ => True := by
  unfold terminateDeployment
  refine within_bind (getRuntime_local _ h) fun found hfound => ?_
  split
  · exact within_pure trivial
  · exact within_bind (terminateRuntime_local (hfound _ rfl) true)
      fun _ _ => within_pure trivial

end NodeAgent
