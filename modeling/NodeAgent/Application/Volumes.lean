import NodeAgent.Application.Holdings

/-!
# Volumes of tenants

A volume belongs to a deployment with a live record, for as long as no failure is
recorded for a deployment that has a volume, and the teardown of such a
deployment finds a pod with a container and the volume's handle in memory.
-/

namespace NodeAgent

open Effectful Program Agent Holding

variable {s : Settings} {w : World} {e : Effect} {d : String}
variable {runtime : UnifiedRuntimeRecord}

theorem World.perform_volumes (hcreate : ∀ volume, e ≠ .createVolume volume)
    (hdelete : ∀ volume, e ≠ .deleteVolume volume) (w : World)
    (a : Answer e) : (w.perform e a).2.volumes = w.volumes := by
  cases e with
  | createVolume volume => exact absurd rfl (hcreate volume)
  | deleteVolume volume => exact absurd rfl (hdelete volume)
  | dockerRun command =>
      cases h : a.created <;> simp [perform, withContainer, h]
  | dockerRm owner target =>
      by_cases h : a.tookEffect <;> simp [perform, h, withoutContainer]
  | dockerStop owner target =>
      by_cases h : a.tookEffect <;> simp [perform, h, setRunning]
  | dockerStart owner target =>
      by_cases h : a.tookEffect <;> simp [perform, h, setRunning]
  | spawnServer owner => cases h : a.result <;> simp [perform, h]
  | terminatePid owner pid => by_cases h : a.tookEffect <;> simp [perform, h]
  | stageArtifact b uri digest =>
      by_cases h : a.tookEffect <;> simp [perform, h]
  | makeRuntimeDir b => by_cases h : a.tookEffect <;> simp [perform, h]
  | deleteRuntimeDir owner path =>
      by_cases h : a.tookEffect <;> simp [perform, h]
  | deleteStagedArtifact owner path =>
      by_cases h : a.tookEffect <;> simp [perform, h]
  | _ => rfl

def volumeMadeBy : Effect → Option String
  | .createVolume volume => some volume.deploymentId
  | _ => none

theorem volume_kept (w : World) (e : Effect) (a : Answer e) (d : String)
    (h : d ∈ (w.answer e a).2.volumes) :
    d ∈ w.volumes ∨ volumeMadeBy e = some d := by
  simp only [World.answer] at h
  cases e with
  | createVolume volume =>
      by_cases htook : a.tookEffect
      · simp only [World.perform, htook, if_true, Finset.mem_insert] at h
        rcases h with rfl | h
        · exact .inr rfl
        · exact .inl h
      · simp only [World.perform, htook] at h
        exact .inl h
  | deleteVolume volume =>
      by_cases htook : a.tookEffect
      · simp only [World.perform, htook, if_true, Finset.mem_erase] at h
        exact .inl h.2
      · simp only [World.perform, htook] at h
        exact .inl h
  | _ =>
      rw [World.perform_volumes (by simp) (by simp)] at h
      exact .inl h

def tenantVolume : Holding where
  has w d := d ∈ w.volumes
  madeBy := volumeMadeBy
  spent status := status = .terminated || status = .failed
  accepted := rfl
  kept := volume_kept
  restarted _ _ _ h := h
  empty _ _ h := by simp [World.init] at h
  plain e he := by cases e <;> first | rfl | exact he.elim
  run _ := rfl
  write _ := rfl
  remove _ := rfl

/--
No failure is recorded for a deployment that has a volume.  A deployment with a
volume is torn down as a pod with a container, with the volume's handle at hand.
-/
def MindsVolumes (w : World) : Effect → Prop
  | .upsertRuntime runtime => runtime.deploymentId ∈ w.volumes →
      runtime.status ≠ .failed ∧ (runtime.status = .terminated →
        runtime.workloadKind = .pod ∧ truthy runtime.containerId = true)
  | .popVolumeRecord d =>
      d ∈ w.volumes → (w.volumeRecords.get? d).isSome = true
  | _ => True

def RemovalsWork : (e : Effect) → Except Exn e.Ret → World → Prop
  | .dockerRm _ _, r, _ => ∀ x, r = .error x → x.isMissingOrTimeout = true
  | .deleteVolume volume, _, w' => volume.deploymentId ∉ w'.volumes
  | _, _, _ => True

instance (w : World) : (e : Effect) → Decidable (MindsVolumes w e)
  | .upsertRuntime _ => inferInstanceAs (Decidable (_ → _ ∧ (_ → _ ∧ _)))
  | .popVolumeRecord _ => inferInstanceAs (Decidable (_ → _ = true))
  | .allocate _ _ _ | .allocateSpecific _ _ | .release _ | .allocatedDevices
  | .getRuntime _ | .removeRuntime _ | .snapshotRuntimeItems
  | .storeVolumeRecord _ | .acquireReconcileLock | .releaseReconcileLock
  | .listLeases _ | .getDeployment _ | .getWorkload _
  | .updateDeploymentStatus _ | .dockerRun _ | .dockerRm _ _
  | .dockerStop _ _ | .dockerStart _ _ | .spawnServer _ | .terminatePid _ _
  | .stageArtifact _ _ _ | .makeRuntimeDir _ | .deleteRuntimeDir _ _
  | .deleteStagedArtifact _ _ | .createVolume _ | .deleteVolume _
  | .probe _ => .isTrue trivial

def orderly : Machine Effect Effect.Ret Exn World where
  Step w e r w' := RemovalsWork e r w' ∧ (host anyResult).Step w e r w'

/-- The steps of such a host that mind the volumes. -/
def mindful : Machine Effect Effect.Ret Exn World := orderly.when MindsVolumes

theorem mindful_prudent : Prudent tenantVolume mindful MindsVolumes where
  refines _ _ _ _ h := h.2.2.2
  meets _ _ _ _ h := h.1
  failing w runtime hminds hstatus hspent hhas := by
    have hfailed : runtime.status = .failed := by
      simpa [tenantVolume, hstatus] using hspent
    exact (hminds hhas).1 hfailed

/-! ## Starting a pod -/

theorem startPodRuntime_volumes (workload : WorkloadSpec)
    (h : tenantVolume.Covered w)
    (hlive : tenantVolume.Live w runtime.deploymentId) :
    Sat mindful (Guarded tenantVolume MindsVolumes)
      (startPodRuntime s runtime workload)
      (fun _ => tenantVolume.Covered) w := by
  have hM := mindful_prudent
  have hfail : ∀ (runtime : UnifiedRuntimeRecord) (error : String),
      Keeps mindful (Guarded tenantVolume MindsVolumes)
        tenantVolume.Covered (failRuntime runtime error) := fun _ _ =>
    keeps_tame hM (failRuntime_calls tame_repertoire _)
  unfold startPodRuntime
  refine Sat.bind (keeps_attempt (keeps_plain hM
    (setUpSsh_within (fun _ => trivial) s)) w ⟨h, hlive⟩)
    (fun r w₁ h₁ => ?_) fun x w₁ h₁ => h₁.1
  split
  · split
    · exact hfail _ _ w₁ h₁.1
    · exact h₁.1
  · refine Sat.bind (keeps_plain hM
      (assignPorts_within (fun _ => trivial) _ _ _) w₁ h₁)
      (fun ports w₂ h₂ => ?_) fun x w₂ h₂ => h₂.1
    refine Sat.bind (allocateOrFail_covered hM _ h₂)
      (fun devices w₃ h₃ => ?_) fun x w₃ h₃ => h₃.1
    cases devices with
    | none => exact h₃.1
    | some devices =>
        cases hsize : volumeSizeGb workload with
        | error x => exact h₃.1
        | ok sizeGb =>
            dsimp only
            generalize hvolume : volumeFor s runtime sizeGb = volume
            have hid : volume.deploymentId = runtime.deploymentId := by
              rw [← hvolume]
              rfl
            -- The record of the accepted runtime backs the new volume.
            have hbacked : tenantVolume.Harmless w₃ (.createVolume volume) := by
              intro b hb
              obtain rfl : volume.deploymentId = b := Option.some.inj hb
              rw [hid]
              exact h₃.2 devices rfl
            refine sat_step_attempt hM.refines ⟨h₃.1, fun _ => hbacked⟩
              fun a _ hstep => ?_
            have hafter := hM.step h₃.1 (fun _ => hbacked) hstep
            cases hresult : (w₃.perform (.createVolume volume) a).1 with
            | error x =>
                dsimp only
                split
                · exact hfail _ _ _ hafter
                · exact hafter
            | ok u =>
                refine keeps_bind (keeps_tame_call hM (tame_of_plain
                  (by trivial))) (fun _ => ?_) _ hafter
                exact keeps_tame hM
                  (launchPod_calls tame_repertoire tame_pods _ _)

/-! ## Teardown -/

theorem mindful_removes : RemovesContainers mindful :=
  fun _ _ _ x _ hstep => hstep.2.1 x rfl

theorem stopPod_volumes (h : tenantVolume.Covered w) :
    Sat mindful (Guarded tenantVolume MindsVolumes)
      (PodBackend.stopPod s runtime)
      (fun r w' => (∃ stopped, r = .ok stopped) ∧ tenantVolume.Covered w')
      w := by
  unfold PodBackend.stopPod
  split
  · unfold ProcessPodBackend.stopPod
    refine Sat.bind (m := fun r w' => r = .ok () ∧ tenantVolume.Covered w')
      (sat_onlyIf.mpr ?_) (fun _ w' h' => ⟨⟨_, rfl⟩, h'.2⟩)
      fun x w' h' => nomatch h'.1
    split
    · exact removeContainer_covered mindful_prudent mindful_removes _ _ h
    · exact ⟨rfl, h⟩
  · exact ⟨⟨_, rfl⟩, h⟩

theorem dropVolume_volumes (h : tenantVolume.Covered w) :
    Sat mindful (Guarded tenantVolume MindsVolumes) (do
      match ← popVolumeRecord d with
      | some volume => deleteVolume volume
      | none => pure ())
      (fun _ w' => tenantVolume.Covered w' ∧ d ∉ w'.volumes) w := by
  have hM := mindful_prudent
  have htame := hM.harmless_of_tame (w := w)
    (tame_of_plain (e := .popVolumeRecord d) trivial)
  refine sat_step_bind hM.refines ⟨h, htame⟩ fun a _ hstep => ?_
  have hafter := hM.step h htame hstep
  have hminds : d ∈ w.volumes → (w.volumeRecords.get? d).isSome = true :=
    hstep.1
  cases hget : w.volumeRecords.get? d with
  | none =>
      simp only [World.perform, hget, andThen_ok]
      refine ⟨hafter, fun hmem => ?_⟩
      simpa [hget] using hminds hmem
  | some volume =>
      have hid : volume.deploymentId = d := Table.key_of_get? hget
      simp only [World.perform, hget, andThen_ok]
      generalize (w.answer (.popVolumeRecord d) a).2 = w₁ at hafter ⊢
      have htame := hM.harmless_of_tame (w := w₁)
        (tame_of_plain (e := .deleteVolume volume) trivial)
      refine ⟨⟨hafter, htame⟩, fun r w₂ hstep => ?_⟩
      exact ⟨hM.step hafter htame hstep, hid ▸ hstep.2.1⟩

theorem volumes_cleared :
    Clears tenantVolume mindful MindsVolumes s := by
  intro runtime w h
  have hM := mindful_prudent
  by_cases hpod :
      runtime.workloadKind = .pod ∧ truthy runtime.containerId = true
  · unfold stopBackend
    rw [hpod.1]
    simp only [hpod.2, if_true]
    refine Sat.bind (stopPod_volumes h) (fun _ w₁ h₁ => ?_)
      fun x w₁ h₁ => ?_
    · exact (dropVolume_volumes h₁.2).weaken
        fun _ _ h' => ⟨h'.1, fun _ => h'.2⟩
    · obtain ⟨⟨_, hstopped⟩, -⟩ := h₁
      cases hstopped
  · refine (keeps_tame hM (stopBackend_calls tame_repertoire.plain) w h).weaken
      fun _ w' h' => ⟨h', fun hminds hhas => ?_⟩
    exact hpod ((hminds hhas).2 rfl)

/-! ## Every run -/

/-- In every run that minds the volumes, a live record has each of them. -/
theorem volumes_recorded (h : CrashRun s mindful w) :
    ∀ d ∈ w.volumes, ∃ runtime, w.runtimes.get? d = some runtime ∧
      runtime.status ≠ .terminated ∧ runtime.status ≠ .failed := by
  have hM := mindful_prudent
  have hfiles : MakesFiles tenantVolume.Tame :=
    fun _ => ⟨⟨rfl, by simp, by simp⟩, fun _ _ => ⟨rfl, by simp, by simp⟩⟩
  have hcovered : tenantVolume.Covered w := by
    refine crashRun_covered hM volumes_cleared
      (startLease_keeps hM ?_) ?_ h
    · intro runtime workload w hkind h hlive
      unfold dispatch
      split
      · exact keeps_tame hM (startInferenceRuntime_calls tame_repertoire
          tame_inference hfiles _) w h
      · exact startPodRuntime_volumes workload h hlive
      · exact keeps_tame hM (startVmRuntime_calls tame_repertoire _) w h
      · exact keeps_tame hM (failRuntime_calls tame_repertoire _) w h
    · exact fun _ => keeps_tame hM
        (resumeRuntime_calls tame_repertoire tame_inference hfiles)
  intro d hd
  obtain ⟨⟨runtime, hget, hspent⟩, -⟩ := hcovered d hd
  exact ⟨runtime, hget, by simpa [tenantVolume] using hspent⟩

/-! ## A pod that starts, and one that does not -/

/-- All goes well, but for a `docker run`, which exits as given. -/
def runExits (code : Int) (leases : List LeaseAssignment) : Environment :=
  fun w e => match e with
    | .dockerRun command =>
        if code = 0 then podHost leases w (.dockerRun command)
        else { result := .ok { returncode := code } }
    | e => podHost leases w e

theorem runExits_orderly (code : Int) (leases : List LeaseAssignment) :
    Follows orderly (runExits code leases) fun _ _ => true := by
  intro w e _ hallows
  refine ⟨?_, trivial, _, hallows, rfl⟩
  cases e with
  | dockerRm owner target => exact fun x heq => nomatch heq
  | deleteVolume volume => exact Finset.notMem_erase _ _
  | _ => exact trivial

theorem runExits_mindful (code : Int) (leases : List LeaseAssignment) :
    Follows mindful (runExits code leases)
      fun w e => decide (MindsVolumes w e) :=
  fun w e hchecks hallows => ⟨of_decide_eq_true hchecks,
    runExits_orderly code leases w e rfl hallows⟩

def firstPodPass (s : Settings) (code : Int) (leases : List LeaseAssignment)
    (checks : World → Effect → Bool) : Agent Unit × World :=
  replayFor (runExits code leases) checks 100 (reconcileOnce s "hotkey") (.init s)

def twoPodsStarted : Agent Unit × World :=
  firstPodPass { gpuCount := 2 } 0 [leaseOn "pod-1", leaseOn "pod-2"]
    fun w e => decide (MindsVolumes w e)

def onePodTornDown : Agent Unit × World :=
  replayFor (runExits 0 []) (fun w e => decide (MindsVolumes w e)) 100
    (Request.program { gpuCount := 2 } (.terminate "pod-1")) twoPodsStarted.2

/-- Its volume is gone, and the other one has its record. -/
theorem volumes_recorded_onePodTornDown :
    "pod-1" ∉ onePodTornDown.2.volumes ∧ "pod-2" ∈ onePodTornDown.2.volumes ∧
    ∃ runtime, onePodTornDown.2.runtimes.get? "pod-2" = some runtime ∧
      runtime.status ≠ .terminated ∧ runtime.status ≠ .failed := by
  have hstarted : Exec mindful (reconcileOnce { gpuCount := 2 } "hotkey")
      (.init { gpuCount := 2 }) (.ok ()) twoPodsStarted.2 :=
    replayFor_exec (runExits_mindful 0 _) 100 rfl
  have htornDown : Exec mindful
      (Request.program { gpuCount := 2 } (.terminate "pod-1")) twoPodsStarted.2
      (.ok ()) onePodTornDown.2 :=
    replayFor_exec (runExits_mindful 0 _) 100 rfl
  have hvolume : "pod-2" ∈ onePodTornDown.2.volumes := by
    decide +kernel
  exact ⟨by decide +kernel, hvolume, volumes_recorded
    (.serve (.serve .boot (.reconcile "hotkey") hstarted) (.terminate "pod-1")
      htornDown) "pod-2" hvolume⟩

/-- `docker run` fails, and the volume outlives the deployment. -/
theorem failed_start_keeps_volume : ∃ w,
    CrashRun {} orderly w ∧ "pod-1" ∈ w.volumes ∧
      (w.runtimes.get? "pod-1").map (·.status) = some .failed := by
  have hexec : Exec orderly (reconcileOnce {} "hotkey") (.init {}) (.ok ())
      (firstPodPass {} 125 [leaseOn "pod-1"] fun _ _ => true).2 :=
    replayFor_exec (runExits_orderly 125 _) 100 rfl
  exact ⟨_, .serve .boot (.reconcile "hotkey") hexec, by decide +kernel, rfl⟩

end NodeAgent
