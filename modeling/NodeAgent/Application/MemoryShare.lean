import NodeAgent.Application.Heartbeat
import NodeAgent.Application.Repertoire

/-!
# The memory that a pod's record allots

The memory of a pod is sized once, when it starts, by the GPUs that it was
given; a pod without GPUs is sized as if it had one.  Every handler keeps the
record's memory within the share of the devices that the record lists.
-/

namespace NodeAgent

open Effectful Program Agent

def memoryShare (s : Settings) (units : Nat) : Int :=
  max 1 ((s.memoryGb * ((max 1 units : Nat) : Int)).tdiv (max s.gpuCount 1))

/-- Devices of this host as the allocator lists them. -/
structure Fitted (s : Settings) (devices : List Nat) : Prop where
  ascending : GpuAllocator.Ascending devices
  inRange : ∀ x ∈ devices, x < s.gpuCount

/-- The memory of a pod is within the share of its devices. -/
def Sized (s : Settings) (runtime : UnifiedRuntimeRecord) : Prop :=
  runtime.workloadKind = .pod → ∀ m, runtime.memoryGbAllocated = some m →
    ∃ devices, runtime.metadata.gpuDevices = some devices ∧
      Fitted s devices ∧
      runtime.metadata.gpuCount = some (devices.length : Int) ∧
      m ≤ memoryShare s devices.length

def AnswersSized (s : Settings) : (e : Effect) → Except Exn e.Ret → Prop
  | .getRuntime _, .ok (some runtime) => Sized s runtime
  | .snapshotRuntimeItems, .ok runtimes =>
      ∀ runtime ∈ runtimes, Sized s runtime
  | .allocate _ n _, .ok devices => devices.length = n.toNat ∧ Fitted s devices
  | .allocateSpecific _ asked, .ok devices =>
      devices = GpuAllocator.sortedDevices asked
  | .getWorkload _, .ok (some workload) => 1 ≤ requestedGpus workload
  | _, _ => True

def Measured (s : Settings) (e : Effect) (r : Except Exn e.Ret) : Prop :=
  Typed s anyContainer e r ∧ AnswersSized s e r

def WritesSized (s : Settings) : Effect → Prop
  | .upsertRuntime runtime => Sized s runtime
  | _ => True

variable {s : Settings} {runtime : UnifiedRuntimeRecord} {α : Type}

/-! ## Records -/

theorem Sized.of_eq {runtime' : UnifiedRuntimeRecord} (h : Sized s runtime)
    (hkind : runtime'.workloadKind = runtime.workloadKind)
    (hmemory : runtime'.memoryGbAllocated = runtime.memoryGbAllocated)
    (hdevices : runtime'.metadata.gpuDevices = runtime.metadata.gpuDevices)
    (hcount : runtime'.metadata.gpuCount = runtime.metadata.gpuCount) :
    Sized s runtime' := by
  intro hpod m hm
  rw [hdevices, hcount]
  exact h (hkind ▸ hpod) m (hmemory ▸ hm)

theorem sized_of_ne (h : runtime.workloadKind ≠ .pod) : Sized s runtime :=
  fun hpod => absurd hpod h

theorem sized_of_none (h : runtime.memoryGbAllocated = none) :
    Sized s runtime := by
  intro _ m hm
  rw [h] at hm
  cases hm

theorem podMemoryGb_le {workload : WorkloadSpec} {gpuCount : Int}
    (hcount : 0 ≤ gpuCount) :
    podMemoryGb s workload gpuCount ≤ memoryShare s gpuCount.toNat := by
  have hunits : (if 0 < gpuCount then gpuCount else 1) =
      ((max 1 gpuCount.toNat : Nat) : Int) := by
    split <;> omega
  unfold podMemoryGb memoryShare
  rw [hunits]
  dsimp only
  split
  · exact min_le_left _ _
  · exact le_rfl

/-! ## Handlers -/

abbrev Sizes (s : Settings) (p : Agent α) : Prop :=
  Within (Measured s) (WritesSized s) p fun _ => True

theorem plain_writesSized : AdmitsPlain (WritesSized s) := by
  intro e he
  cases e <;> first | exact he.elim | exact trivial

theorem sizes_write (h : Sized s runtime) : Sizes s (upsertRuntime runtime) :=
  within_perform h fun _ _ => trivial

theorem backend_sizes {p : Agent α} {Q : α → Prop} {d : String}
    (h : Within (Typed s anyContainer) (BackendCall anyContainer d) p Q) :
    Within (Measured s) (WritesSized s) p Q := by
  refine Always.widen (Always.narrow h fun _ _ _ hr => hr.1) fun e he => ?_
  cases e <;> first | exact he.elim | exact trivial

theorem failRuntime_sizes (h : Sized s runtime) (error : String) :
    Sizes s (failRuntime runtime error) := by
  refine within_bind (plain_calls plain_writesSized trivial) fun _ _ => ?_
  refine within_bind (sizes_write (h.of_eq rfl rfl rfl rfl)) fun _ _ => ?_
  exact report_calls plain_writesSized _

theorem terminateRuntime_sizes (h : Sized s runtime) (reported : Bool) :
    Sizes s (terminateRuntime s runtime reported) := by
  refine within_bind (plain_calls plain_writesSized trivial) fun _ _ => ?_
  refine within_bind (within_ignoring (stopBackend_calls plain_writesSized))
    fun _ _ => ?_
  refine within_bind (sizes_write (h.of_eq rfl rfl rfl rfl)) fun _ _ => ?_
  exact within_onlyIf fun _ => report_calls plain_writesSized _

theorem pauseBackend_sizes (h : Sized s runtime) :
    Within (Measured s) (WritesSized s) (pauseBackend s runtime) (Sized s) := by
  unfold pauseBackend
  split
  · unfold PodBackend.pausePod
    split
    · unfold ProcessPodBackend.pausePod
      refine within_bind (within_onlyIf fun _ =>
        stopContainer_calls plain_writesSized _ _) fun _ _ => ?_
      exact within_pure (h.of_eq rfl rfl rfl rfl)
    · exact within_pure (h.of_eq rfl rfl rfl rfl)
  · rename_i hkind
    have hother : runtime.workloadKind ≠ .pod := by simp [hkind]
    split
    · refine within_bind (backend_sizes (Within.backend
        (stopRuntime_stops hkind (Ledger.belongs_any runtime))))
        fun stopped hstopped => ?_
      refine within_pure (sized_of_ne ?_)
      exact fun hpod => hother (hstopped.2.workloadKind.symm.trans hpod)
    · exact within_pure (h.of_eq rfl rfl rfl rfl)
  · exact within_pure (h.of_eq rfl rfl rfl rfl)
  · exact within_pure (h.of_eq rfl rfl rfl rfl)

theorem suspendRuntime_sizes (h : Sized s runtime) :
    Sizes s (suspendRuntime s runtime) := by
  refine within_bind (plain_calls plain_writesSized trivial) fun _ _ => ?_
  refine within_bind (Q := Sized s) ?_ fun paused hpaused => ?_
  · unfold pausedOrMarked
    refine within_bind (within_attempt_ok (pauseBackend_sizes h))
      fun r hr => ?_
    split
    · exact within_pure (hr _ rfl)
    · exact within_pure (h.of_eq rfl rfl rfl rfl)
  · refine within_bind (sizes_write hpaused) fun _ _ => ?_
    exact report_calls plain_writesSized _

theorem allocateOrFail_sizes (h : Sized s runtime) (gpuCount : Int) :
    Within (Measured s) (WritesSized s) (allocateOrFail runtime gpuCount)
      fun allocated => ∀ devices, allocated = some devices →
        devices.length = gpuCount.toNat ∧ Fitted s devices := by
  unfold allocateOrFail
  refine within_bind (foreignBusyDevices_within plain_writesSized.probe trivial)
    fun avoid _ => ?_
  refine within_bind (within_attempt_ok
    (Q := fun devices : List Nat =>
      devices.length = gpuCount.toNat ∧ Fitted s devices)
    (within_perform trivial fun _ hr => hr.2)) fun r hr => ?_
  split
  · refine within_pure fun devices heq => ?_
    cases heq
    exact hr _ rfl
  · split
    · exact within_bind (failRuntime_sizes h _)
        fun _ _ => within_pure (by simp)
    · exact within_raise

/-! ## Inference and VMs -/

theorem startInferenceRuntime_sizes
    (hkind : runtime.workloadKind = .inference) (workload : WorkloadSpec) :
    Sizes s (startInferenceRuntime s runtime workload) := by
  have hother : ∀ other : UnifiedRuntimeRecord,
      other.workloadKind = .inference → Sized s other := by
    intro other h
    exact sized_of_ne (by simp [h])
  unfold startInferenceRuntime
  refine within_bind (allocateOrFail_sizes (hother _ hkind) _)
    fun devices _ => ?_
  split
  · exact within_pure trivial
  · refine within_bind (Q := fun _ => True) (within_attempt
      ((backend_sizes (Within.files (stageFor_files (by rfl) workload))).weaken
        fun _ _ => trivial) fun _ => trivial) fun r _ => ?_
    split
    · unfold launchInference
      refine within_bind (Q := fun _ => True)
        (within_perform trivial fun _ _ => trivial) fun dir _ => ?_
      refine within_bind (sizes_write (hother _ (by exact hkind)))
        fun _ _ => ?_
      refine within_bind (within_attempt_ok (backend_sizes
        (startRuntime_within (by exact hkind) (Ledger.belongs_any _) _)))
        fun r hr => ?_
      split
      · obtain ⟨-, hkept, -⟩ := hr _ rfl
        refine within_bind (sizes_write (hother _
          (by exact hkept.workloadKind.trans hkind))) fun _ _ => ?_
        exact report_calls plain_writesSized _
      · exact failRuntime_sizes (hother _ (by exact hkind)) _
      · exact within_raise
    · exact failRuntime_sizes (hother _ (by exact hkind)) _
    · exact within_raise

theorem startVmRuntime_sizes (hkind : runtime.workloadKind ≠ .pod)
    (workload : WorkloadSpec) :
    Sizes s (startVmRuntime s runtime workload) := by
  unfold startVmRuntime
  refine within_bind (allocateOrFail_sizes (sized_of_ne hkind) _)
    fun devices _ => ?_
  split
  · exact within_pure trivial
  · refine within_bind (sizes_write (sized_of_ne (by exact hkind)))
      fun _ _ => ?_
    refine within_bind (within_attempt_ok (backend_sizes (Within.files
      (startVm_files (s := s) (Ledger.belongs_any _))))) fun r hr => ?_
    split
    · obtain ⟨-, hkept, -⟩ := hr _ rfl
      refine within_bind (sizes_write (sized_of_ne fun hpod =>
        hkind (hkept.workloadKind.symm.trans hpod))) fun _ _ => ?_
      exact report_calls plain_writesSized _
    · exact failRuntime_sizes (sized_of_ne (by exact hkind)) _
    · exact within_raise

/-! ## Pods -/

theorem startPod_sizes (h : Sized s runtime) (workload : WorkloadSpec) :
    Within (Measured s) (WritesSized s)
      (PodBackend.startPod s runtime workload) (Sized s) := by
  unfold PodBackend.startPod
  split
  · unfold ProcessPodBackend.startPod
    refine within_bind (removeContainer_calls plain_writesSized _ _)
      fun _ _ => ?_
    refine within_bind (within_onlyIf fun _ =>
      probe_within plain_writesSized.probe _) fun _ _ => ?_
    split
    · exact within_raise
    · refine within_bind (Q := fun _ => True) (orNotAvailable_within
        (within_perform trivial fun _ _ => trivial)) fun result _ => ?_
      split
      · exact within_raise
      · refine within_bind (readBackSshPort_within plain_writesSized.probe _ _)
          fun _ _ => ?_
        refine within_bind (verifyPorts_within plain_writesSized.probe _ _)
          fun _ _ => ?_
        exact within_pure (h.of_eq rfl rfl rfl rfl)
  · exact within_pure (h.of_eq rfl rfl rfl rfl)

theorem startingPod_sized {workload : WorkloadSpec} {setup : PodSetup}
    (hcount : 0 ≤ setup.gpuCount)
    (hlength : setup.devices.length = setup.gpuCount.toNat)
    (hfitted : Fitted s setup.devices) :
    Sized s (startingPod s runtime workload setup) := by
  rintro - m hm
  refine ⟨setup.devices, rfl, hfitted, ?_, ?_⟩
  · simp only [startingPod, Option.some.injEq]
    omega
  · rw [← Option.some.inj hm, hlength]
    exact podMemoryGb_le hcount

theorem launchPod_sizes {workload : WorkloadSpec} {setup : PodSetup}
    (h : Sized s (startingPod s runtime workload setup)) :
    Sizes s (launchPod s runtime workload setup) := by
  unfold launchPod
  refine within_bind (sizes_write h) fun _ _ => ?_
  refine within_bind (within_attempt_ok (startPod_sizes h workload))
    fun r hr => ?_
  split
  · have hstarted := hr _ rfl
    refine within_bind (waitForReady_within plain_writesSized.probe _ _)
      fun _ _ => ?_
    refine within_bind (sizes_write (hstarted.of_eq rfl rfl rfl rfl))
      fun _ _ => ?_
    exact report_calls plain_writesSized _
  · exact failRuntime_sizes h _
  · exact within_raise

theorem startPodRuntime_sizes (h : Sized s runtime) {workload : WorkloadSpec}
    (hfloor : 1 ≤ requestedGpus workload) :
    Sizes s (startPodRuntime s runtime workload) := by
  unfold startPodRuntime
  refine within_bind (Q := fun _ => True) (within_attempt
    ((setUpSsh_within plain_writesSized.probe s).weaken fun _ _ => trivial)
    fun _ => trivial) fun r _ => ?_
  split
  · split
    · exact failRuntime_sizes h _
    · exact within_raise
  · refine within_bind (assignPorts_within plain_writesSized.probe _ _ _)
      fun ports _ => ?_
    refine within_bind (allocateOrFail_sizes h _) fun allocated hallocated => ?_
    split
    · exact within_pure trivial
    · obtain ⟨hlength, hfitted⟩ := hallocated _ rfl
      split
      · exact within_raise
      · refine within_bind (Q := fun _ => True) (within_attempt
          (Q := fun _ => True) (within_perform trivial fun _ _ => trivial)
          fun _ => trivial) fun r _ => ?_
        split
        · split
          · exact failRuntime_sizes h _
          · exact within_raise
        · refine within_bind (plain_calls plain_writesSized trivial)
            fun _ _ => ?_
          exact launchPod_sizes (startingPod_sized
            (Ledger.podGpuCount_nonneg workload hfloor) hlength hfitted)

/-! ## Resuming -/

theorem reacquire_sizes (hkind : runtime.workloadKind = .pod)
    (h : Sized s runtime) :
    Within (Measured s) (WritesSized s) (reacquire runtime) fun devices =>
      Sized s (withGpus runtime devices (resumeGpuCount runtime)) := by
  unfold reacquire
  split
  · rename_i hpinned
    refine within_perform trivial fun got hgot _ m hm => ?_
    obtain ⟨devices, hdevices, hfitted, hcount, hle⟩ := h hkind m hm
    have horiginal : originalDevices runtime = devices := by
      rw [originalDevices, hdevices]
      rfl
    have hnonempty : devices.length ≠ 0 := by
      rw [← horiginal]
      simpa using hpinned.2
    obtain rfl : got = devices := by
      rw [hgot.2, horiginal]
      exact GpuAllocator.sortedDevices_of_ascending hfitted.ascending
    refine ⟨got, rfl, hfitted, ?_, hle⟩
    simp [withGpus, resumeGpuCount, hcount, hnonempty]
  · rename_i hbare
    refine within_bind (foreignBusyDevices_within plain_writesSized.probe trivial)
      fun avoid _ => ?_
    refine within_perform trivial fun got hgot _ m hm => ?_
    obtain ⟨devices, hdevices, -, hcount, hle⟩ := h hkind m hm
    obtain rfl : devices = [] := by
      by_contra hne
      exact hbare ⟨hkind, by rwa [originalDevices, hdevices]⟩
    have hone : resumeGpuCount runtime = 1 := by
      simp [resumeGpuCount, hcount]
    obtain ⟨hlength, hfitted⟩ := hgot.2
    rw [hone] at hlength
    refine ⟨got, rfl, hfitted, ?_, ?_⟩
    · simp [withGpus, hone, hlength]
    · rw [hlength]
      exact hle

theorem resumePodRuntime_sizes (h : Sized s runtime) :
    Sizes s (resumePodRuntime s runtime) := by
  unfold resumePodRuntime
  refine within_bind (within_attempt_ok (Q := Sized s) ?_) fun r hr => ?_
  · unfold PodBackend.resumePod
    split
    · unfold ProcessPodBackend.resumePod
      refine within_bind (Q := fun _ => True) ?_
        fun _ _ => within_pure (h.of_eq rfl rfl rfl rfl)
      unfold ProcessPodBackend.restartContainer
      split
      · refine within_bind (orNotAvailable_within
          (plain_calls plain_writesSized trivial)) fun result _ => ?_
        split
        · exact within_raise
        · exact within_pure trivial
      · exact within_pure trivial
    · exact within_pure (h.of_eq rfl rfl rfl rfl)
  · split
    · refine within_bind (sizes_write (hr _ rfl)) fun _ _ => ?_
      exact report_calls plain_writesSized _
    · refine within_bind (plain_calls plain_writesSized trivial) fun _ _ => ?_
      exact sizes_write (h.of_eq rfl rfl rfl rfl)
    · exact within_raise

theorem redispatch_sizes (hkind : runtime.workloadKind ≠ .pod) :
    Sizes s (redispatch s runtime) := by
  unfold redispatch
  refine within_bind (plain_calls plain_writesSized trivial) fun _ _ => ?_
  refine within_bind (workloadToResume_calls plain_writesSized)
    fun workload _ => ?_
  split
  · exact within_pure trivial
  · refine within_bind (sizes_write (sized_of_ne (by exact hkind)))
      fun _ _ => ?_
    split
    · exact startInferenceRuntime_sizes (by assumption) _
    · exact startVmRuntime_sizes (by exact hkind) _
    · exact within_pure trivial
    · exact within_pure trivial

theorem resumeRuntime_sizes (h : Sized s runtime) :
    Sizes s (resumeRuntime s runtime) := by
  unfold resumeRuntime
  by_cases hkind : runtime.workloadKind = .pod
  · refine within_bind (within_attempt_ok (reacquire_sizes hkind h))
      fun r hr => ?_
    split
    · split
      · exact within_pure trivial
      · exact within_raise
    · rw [if_pos hkind]
      exact resumePodRuntime_sizes (hr _ rfl)
  · refine within_bind (Q := fun _ => True) (within_attempt
      ((reacquire_calls plain_writesSized).weaken fun _ _ => trivial)
      fun _ => trivial) fun r _ => ?_
    split
    · split
      · exact within_pure trivial
      · exact within_raise
    · rw [if_neg hkind]
      exact redispatch_sizes hkind

/-! ## Leases and passes -/

theorem startLease_sizes (lease : LeaseAssignment) :
    Sizes s (startLease s lease) := by
  unfold startLease
  refine within_bind (Q := fun _ => True) (within_attempt (Q := fun _ => True)
    ?_ fun _ => trivial) fun r _ => ?_
  · unfold reconcileWorkload
    refine within_bind (Q := fun found => ∀ workload, found = some workload →
      1 ≤ requestedGpus workload) (within_perform trivial ?_)
      fun found hfound => ?_
    · rintro found ⟨-, hanswer⟩ workload rfl
      exact hanswer
    · split
      · exact plain_calls plain_writesSized trivial
      · rename_i workload
        refine within_bind (sizes_write (sized_of_none rfl)) fun _ _ => ?_
        unfold dispatch
        split
        · exact startInferenceRuntime_sizes (by assumption) _
        · exact startPodRuntime_sizes (sized_of_none rfl) (hfound _ rfl)
        · rename_i hkind
          refine startVmRuntime_sizes (fun hpod => ?_) _
          cases hkind.symm.trans hpod
        · exact failRuntime_sizes (sized_of_none rfl) _
  · split
    · exact within_pure trivial
    · exact within_ignoring (plain_calls plain_writesSized trivial)

theorem getRuntime_sizes (d : String) :
    Within (Measured s) (WritesSized s) (getRuntime d) fun found =>
      ∀ runtime, found = some runtime → Sized s runtime := by
  refine within_perform trivial ?_
  rintro found ⟨-, hanswer⟩ runtime rfl
  exact hanswer

theorem handleLease_sizes (lease : LeaseAssignment) :
    Sizes s (handleLease s lease) := by
  unfold handleLease
  refine within_bind (getRuntime_sizes _) fun found hfound => ?_
  split
  · split
    · exact within_pure trivial
    · exact startLease_sizes lease
  · rename_i existing
    have hexisting : Sized s existing := hfound _ rfl
    have hretry : Sizes s (do
        terminateRuntime s existing false
        removeRuntime lease.deploymentId
        startLease s lease) := by
      refine within_bind (terminateRuntime_sizes hexisting _) fun _ _ => ?_
      refine within_bind (Q := fun _ => True)
        (within_perform trivial fun _ _ => trivial) fun _ _ => ?_
      exact startLease_sizes lease
    split
    · split
      · exact suspendRuntime_sizes hexisting
      · exact suspendRuntime_sizes hexisting
      · exact within_pure trivial
    · split
      · exact resumeRuntime_sizes hexisting
      · exact hretry
      · exact hretry
      all_goals exact within_pure trivial

theorem cleanUp_sizes (h : Sized s runtime) (active fleet : List String) :
    Sizes s (cleanUp s active fleet runtime) := by
  unfold cleanUp
  split
  · exact within_pure trivial
  · split
    · exact within_pure trivial
    · unfold reapSuspended
      refine within_bind (attempt_plain_calls plain_writesSized trivial)
        fun r _ => ?_
      split
      · split
        · refine within_bind (terminateRuntime_sizes h _) fun _ _ => ?_
          exact within_perform trivial fun _ _ => trivial
        · exact within_pure trivial
      · exact within_pure trivial
      · exact within_pure trivial
    · exact terminateRuntime_sizes h _

theorem recoverRuntime_sizes (h : Sized s runtime) :
    Sizes s (recoverRuntime s runtime) := by
  unfold recoverRuntime
  refine within_bind (attempt_plain_calls plain_writesSized trivial)
    fun r _ => ?_
  split
  · exact within_bind (terminateRuntime_sizes h _)
      fun _ _ => within_pure trivial
  · split
    · exact within_pure trivial
    · exact within_bind (terminateRuntime_sizes h _)
        fun _ _ => within_pure trivial
  · split
    · exact within_pure trivial
    · exact within_raise

theorem snapshot_sizes :
    Within (Measured s) (WritesSized s) snapshotRuntimeItems fun runtimes =>
      ∀ runtime ∈ runtimes, Sized s runtime :=
  within_perform trivial fun _ hr => hr.2

theorem underReconcileLock_sizes {busy : α} {p : Agent α} (hp : Sizes s p) :
    Sizes s (underReconcileLock busy p) := by
  unfold underReconcileLock
  refine within_bind (plain_calls plain_writesSized trivial) fun acquired _ => ?_
  split
  · refine within_bind (Q := fun _ => True) (within_attempt
      (hp.weaken fun _ _ => trivial) fun _ => trivial) fun r _ => ?_
    refine within_bind (plain_calls plain_writesSized trivial) fun _ _ => ?_
    split
    · exact within_pure trivial
    · exact within_raise
  · exact within_pure trivial

theorem reconcileOnce_sizes (hotkey : String) :
    Sizes s (reconcileOnce s hotkey) := by
  refine underReconcileLock_sizes ?_
  unfold reconcileOnceLocked
  refine within_bind (Q := fun _ => True) ?_ fun leases _ => ?_
  · unfold syncLeases
    refine within_bind (attempt_plain_calls plain_writesSized trivial)
      fun r _ => ?_
    split
    · exact within_pure trivial
    · split
      · exact within_pure trivial
      · exact within_raise
  · refine within_bind (within_forEach fun lease _ => handleLease_sizes lease)
      fun _ _ => ?_
    refine within_bind snapshot_sizes fun runtimes hruntimes => ?_
    exact within_forEach fun runtime hmem =>
      cleanUp_sizes (hruntimes runtime hmem) _ _

theorem recoverRuntimeState_sizes : Sizes s (recoverRuntimeState s) := by
  have hloop : ∀ (runtimes : List UnifiedRuntimeRecord) (m n : Nat),
      (∀ runtime ∈ runtimes, Sized s runtime) →
      Sizes s (recoverLoop s m n runtimes) := by
    intro runtimes
    induction runtimes with
    | nil => exact fun _ _ _ => within_pure trivial
    | cons runtime rest ih =>
        intro m n hsized
        obtain ⟨hfirst, hrest⟩ := List.forall_mem_cons.mp hsized
        unfold recoverLoop
        split
        · exact ih m n hrest
        · refine within_bind (recoverRuntime_sizes hfirst) fun kept _ => ?_
          split
          · exact ih _ _ hrest
          · exact ih _ _ hrest
  refine underReconcileLock_sizes ?_
  exact within_bind snapshot_sizes
    fun runtimes hruntimes => hloop runtimes 0 0 hruntimes

theorem request_sizes (request : Request) : Sizes s (request.program s) := by
  cases request with
  | reconcile hotkey => exact reconcileOnce_sizes hotkey
  | recover =>
      exact within_bind recoverRuntimeState_sizes fun _ _ => within_pure trivial
  | terminate d =>
      refine within_bind (Q := fun _ => True) ?_ fun _ _ => within_pure trivial
      unfold terminateDeployment
      refine within_bind (getRuntime_sizes d) fun found hfound => ?_
      split
      · exact within_pure trivial
      · exact within_bind (terminateRuntime_sizes (hfound _ rfl) true)
          fun _ _ => within_pure trivial

end NodeAgent
