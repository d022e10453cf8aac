import NodeAgent.Application.Housekeeping

/-!
# What a start leaves of a deployment's containers

A start removes the container that has its name and runs a new one.  A backend
that gives up afterwards may have removed the new one again.
-/

namespace NodeAgent

open Effectful Program Agent

/-! ## The GPUs that a container is started with -/

theorem gpuDockerFlags_deviceSet {devices : List Nat} (h : devices ≠ [])
    (totalGpus : Nat) :
    (gpuDockerFlags devices).deviceSet totalGpus = devices.toFinset := by
  simp [gpuDockerFlags, h, GpuRequest.deviceSet]

theorem podGpus_deviceSet {runtime : UnifiedRuntimeRecord}
    (h : originalDevices runtime = [] → runtime.gpuFraction ≤ 0)
    (totalGpus : Nat) :
    (ProcessPodBackend.podGpus runtime).deviceSet totalGpus =
      (originalDevices runtime).toFinset := by
  unfold ProcessPodBackend.podGpus
  by_cases hdevices : runtime.metadata.gpuDevices.getD [] = []
  · have hfraction : ¬(0 < runtime.gpuFraction) := Rat.not_lt.mpr (h hdevices)
    simp [hdevices, hfraction, originalDevices, GpuRequest.deviceSet]
  · simp [hdevices, originalDevices, gpuDockerFlags_deviceSet]

namespace Tenancy

variable {s : Settings} {permitted : Permitted} {d : String} {α β : Type}
variable {v v' : Tenancy} {runtime : UnifiedRuntimeRecord}
variable {N : Machine Effect Effect.Ret Exn Tenancy}

/-- A new container ran, once the deployment's others had faded. -/
def Launched (s : Settings) (v : Tenancy) (command : DockerRun) (id : String)
    (v' : Tenancy) : Prop :=
  ∃ v₁, Fades v v₁ ∧
    (∀ c ∈ v₁.containers, c.answersTo id = false ∧ c.name ≠ command.name) ∧
    (∀ runtime, OnFile v₁ runtime →
      ¬Names s runtime id ∧ ¬Names s runtime command.name) ∧
    Fades (v₁.ran command id) v'

/-- Calls that stop containers, and a `docker run` with the given GPUs. -/
def Launching (d : String) (gpus : GpuRequest) (v v' : Tenancy) : Effect → Prop
  | .dockerRun command => command.gpus = gpus ∧ Fades v v'
  | e => StopCall anyContainer d e

/--
What a start's backend has done: a launch, or nothing but stopping.  A docker
backend that does the latter raises.
-/
def Outset (s : Settings) (docker : Prop) (name : String) (gpus : GpuRequest)
    (v : Tenancy) (r : Except Exn UnifiedRuntimeRecord) (v' : Tenancy) : Prop :=
  (docker → ∃ x, r = .error x) ∧ Fades v v' ∨
    ∃ command id, command.name = name ∧ command.gpus = gpus ∧
      Launched s v command id v' ∧
      ∀ started, r = .ok started → started.containerId = some id

theorem StopCall.launching {gpus : GpuRequest} {e : Effect}
    (h : StopCall anyContainer d e) : Launching d gpus v v' e := by
  cases e <;> first | exact h | exact h.elim

theorem Launched.fades {command : DockerRun} {id : String} {v₂ : Tenancy}
    (h : Launched s v command id v₂) (hfades : Fades v₂ v') :
    Launched s v command id v' := by
  obtain ⟨v₁, hbefore, hfresh, hnames, hafter⟩ := h
  exact ⟨v₁, hbefore, hfresh, hnames, hafter.trans hfades⟩

section Starts

variable (hN : Obeys s permitted N)
include hN

theorem sat_files {p : Agent α} {ends : Except Exn α → Prop}
    {guard : Tenancy → Effect → Prop}
    (hp : Always (Typed s anyContainer) (FileCall d) p ends)
    (hguard : ∀ e, FileCall d e → guard v e) :
    Sat N guard p (fun r v' => ends r ∧ v' = v) v := by
  refine hp.sat_of_stutter (fun e r v' he hstep => ?_) hguard
    fun r hr => ⟨hr, rfl⟩
  obtain ⟨-, htyped, hown⟩ := hN v e r v' hstep
  refine ⟨htyped, ?_⟩
  cases e <;> first | exact hown | exact he.elim

theorem sat_stops {p : Agent α} {ends : Except Exn α → Prop}
    {guard : Tenancy → Effect → Prop}
    (hp : Always (Typed s anyContainer) (StopCall anyContainer d) p ends)
    (hguard : ∀ v e, StopCall anyContainer d e → guard v e) :
    Sat N guard p (fun r v' => ends r ∧ Fades v v') v := by
  refine (hp.sat_keeping (M := N) (I := Fades v) ?_ (.refl v)).mono
    (fun v₁ e h => hguard v₁ e h.2) fun r v' h => ⟨h.2, h.1⟩
  intro v₁ e r v₂ h he hstep
  exact ⟨(hN v₁ e r v₂ hstep).2.1, h.trans (fades_of_stopCall hN he hstep)⟩

theorem sat_asides {p : Agent α} {gpus : GpuRequest} {v₁ : Tenancy}
    (hp : Within (Typed s anyContainer) (FileCall d) p fun _ => True) :
    Sat N (Launching d gpus v) p (fun _ v' => v' = v₁) v₁ :=
  (sat_files hN hp.always fun _ he => StopCall.launching he.stopCall).weaken
    fun _ _ h => h.2

theorem dockerRun_launched {gpus : GpuRequest} {v₁ : Tenancy}
    {command : DockerRun} (hgpus : command.gpus = gpus) (error : Exn → Exn)
    (hfades : Fades v v₁) :
    Sat N (Launching d gpus v) (orNotAvailable error (dockerRun command))
      (fun r v' => ∃ completed, r = .ok completed ∧ completed.returncode = 0 ∧
        Launched s v command (strip completed.stdout) v') v₁ := by
  unfold orNotAvailable
  refine sat_bind'.mpr (sat_attempt.mpr ⟨⟨hgpus, hfades⟩, fun r v' hstep => ?_⟩)
  obtain ⟨-, -, completed, rfl, hzero, hfresh, hnames, rfl⟩ :=
    hN _ _ _ _ hstep
  exact ⟨completed, rfl, hzero, v₁, hfades, hfresh, hnames, .refl _⟩

theorem removeContainer_fades {gpus : GpuRequest} {v₁ : Tenancy}
    (hfades : Fades v v₁) {target : String}
    (htarget : OwnTarget anyContainer d target) :
    Sat N (Launching d gpus v) (removeContainer d target)
      (fun _ v' => Fades v v') v₁ :=
  (sat_stops hN (removeContainer_stops rfl htarget).always
    fun _ _ => StopCall.launching).weaken fun _ _ h => hfades.trans h.2

theorem processStartPod_outset (workload : WorkloadSpec) :
    Sat N (Launching runtime.deploymentId (ProcessPodBackend.podGpus runtime) v)
      (ProcessPodBackend.startPod s runtime workload)
      (Outset s True (podContainerName runtime.deploymentId)
        (ProcessPodBackend.podGpus runtime) v) v := by
  have hprobe : ∀ question, FileCall runtime.deploymentId (.probe question) :=
    fileCall_probe
  have hraise : ∀ x v', Fades v v' → Outset s True
      (podContainerName runtime.deploymentId)
      (ProcessPodBackend.podGpus runtime) v (.error x) v' :=
    fun x v' hfades => .inl ⟨fun _ => ⟨x, rfl⟩, hfades⟩
  unfold ProcessPodBackend.startPod
  refine Sat.bind (removeContainer_fades hN (.refl v) (.inl rfl))
    (fun _ v₁ h₁ => ?_) hraise
  refine Sat.bind (sat_asides hN (within_onlyIf fun _ =>
    probe_within hprobe _)) (fun _ v₂ h₂ => ?_)
    fun x v₂ h₂ => hraise x v₂ (h₂ ▸ h₁)
  subst h₂
  split
  · exact hraise _ _ h₁
  · refine Sat.bind (dockerRun_launched hN rfl _ h₁) ?_ ?_
    · rintro result v₃ ⟨_, heq, hzero, hlaunched⟩
      cases heq
      rw [if_neg (not_not.mpr hzero)]
      have hran : ∀ r : Except Exn UnifiedRuntimeRecord,
          (∀ started, r = .ok started →
            started.containerId = some (strip result.stdout)) →
          Outset s True (podContainerName runtime.deploymentId)
            (ProcessPodBackend.podGpus runtime) v r v₃ :=
        fun r hr => .inr ⟨_, _, rfl, rfl, hlaunched, hr⟩
      refine Sat.bind (sat_asides hN (readBackSshPort_within hprobe _ _))
        (fun sshPort v₄ h₄ => ?_) fun x v₄ h₄ => h₄ ▸ hran _ (by simp)
      subst h₄
      refine Sat.bind (sat_asides hN (verifyPorts_within hprobe _ _))
        (fun ports v₅ h₅ => ?_) fun x v₅ h₅ => h₅ ▸ hran _ (by simp)
      subst h₅
      refine hran _ fun started heq => ?_
      cases heq
      rfl
    · rintro x v₃ ⟨_, heq, -⟩
      cases heq

theorem startPod_outset (workload : WorkloadSpec) :
    Sat N (Launching runtime.deploymentId (ProcessPodBackend.podGpus runtime) v)
      (PodBackend.startPod s runtime workload)
      (Outset s (s.podBackend = .process)
        (podContainerName runtime.deploymentId)
        (ProcessPodBackend.podGpus runtime) v) v := by
  unfold PodBackend.startPod
  cases hs : s.podBackend with
  | process =>
      refine (processStartPod_outset hN workload).weaken fun r v' h => ?_
      exact h.imp_left fun h => ⟨fun _ => h.1 trivial, h.2⟩
  | stub => exact .inl ⟨by simp, .refl v⟩

theorem awaitStarted_outset {docker : Prop} {name : String} {gpus : GpuRequest}
    {command : DockerRun} {id : String} {params : Option MultiNodeParams}
    (hd : runtime.deploymentId = d) (hname : command.name = name)
    (hgpus : command.gpus = gpus) (hkind : runtime.workloadKind = .inference)
    (hid : runtime.containerId = some id)
    (hlaunched : Launched s v command id v') :
    Sat N (Launching d gpus v)
      (DockerInferenceBackend.awaitStarted s runtime params)
      (Outset s docker name gpus v) v' := by
  subst hd
  have hran : ∀ (r : Except Exn UnifiedRuntimeRecord) v₁,
      (∀ started, r = .ok started → started.containerId = some id) →
      Fades v' v₁ → Outset s docker name gpus v r v₁ :=
    fun r v₁ hr hfades => .inr ⟨command, id, hname, hgpus,
      hlaunched.fades hfades, hr⟩
  have hstop : ∀ {v₁ : Tenancy} (x : Exn), Fades v' v₁ →
      Sat N (Launching runtime.deploymentId gpus v) (do
        let _ ← DockerInferenceBackend.stopRuntime runtime
        raise x) (Outset s docker name gpus v) v₁ := by
    intro v₁ x hfades
    refine Sat.bind (sat_stops (d := runtime.deploymentId) hN
      (dockerStopRuntime_stops hkind (Ledger.belongs_any runtime)).always
      fun _ _ => StopCall.launching) (fun _ v₂ h₂ => ?_) fun y v₂ h₂ => ?_
    · exact hran _ _ (by simp) (hfades.trans h₂.2)
    · exact hran _ _ (by simp) (hfades.trans h₂.2)
  have hprobe : ∀ question, FileCall runtime.deploymentId (.probe question) :=
    fileCall_probe
  unfold DockerInferenceBackend.awaitStarted
  split
  · refine Sat.bind (sat_asides hN
      (waitForContainerRunning_within hprobe _ _)) (fun running v₁ h₁ => ?_)
      fun x v₁ h₁ => hran _ _ (by simp) (h₁ ▸ .refl _)
    subst h₁
    split
    · refine hran _ _ (fun started heq => ?_) (.refl _)
      cases heq
      exact hid
    · exact hstop _ (.refl _)
  · refine sat_bind'.mpr (sat_attempt.mpr
      ((sat_asides hN (waitForHealth_within hprobe _ _)).weaken
        fun r v₁ h₁ => ?_))
    subst h₁
    rw [andThen_ok]
    split
    · refine hran _ _ (fun started heq => ?_) (.refl _)
      cases heq
      exact hid
    · exact hstop _ (.refl _)
    · exact hran _ _ (by simp) (.refl _)

theorem dockerStartRuntime_outset (hkind : runtime.workloadKind = .inference)
    (artifact : ArtifactBundle) :
    Sat N (Launching runtime.deploymentId
        (gpuDockerFlags (originalDevices runtime)) v)
      (DockerInferenceBackend.startRuntime s runtime artifact)
      (Outset s True (DockerInferenceBackend.containerName runtime.deploymentId)
        (gpuDockerFlags (originalDevices runtime)) v) v := by
  have hprobe : ∀ question, FileCall runtime.deploymentId (.probe question) :=
    fileCall_probe
  have hraise : ∀ x v', Fades v v' → Outset s True
      (DockerInferenceBackend.containerName runtime.deploymentId)
      (gpuDockerFlags (originalDevices runtime)) v (.error x) v' :=
    fun x v' hfades => .inl ⟨fun _ => ⟨x, rfl⟩, hfades⟩
  unfold DockerInferenceBackend.startRuntime
  refine Sat.bind (sat_asides hN (probe_within hprobe _)) (fun port v₁ h₁ => ?_)
    fun x v₁ h₁ => hraise x v₁ (h₁ ▸ .refl v)
  subst h₁
  refine Sat.bind (removeContainer_fades hN (.refl _) (.inr (.inl rfl)))
    (fun _ v₂ h₂ => ?_) hraise
  refine Sat.bind (sat_asides hN (probe_within hprobe _)) (fun _ v₃ h₃ => ?_)
    fun x v₃ h₃ => hraise x v₃ (h₃ ▸ h₂)
  subst h₃
  dsimp only
  split
  · exact hraise _ _ h₂
  · refine Sat.bind (dockerRun_launched hN rfl _ h₂) ?_ ?_
    · rintro result v₄ ⟨_, heq, hzero, hlaunched⟩
      cases heq
      rw [if_neg (not_not.mpr hzero)]
      exact awaitStarted_outset hN rfl rfl rfl hkind rfl hlaunched
    · rintro x v₄ ⟨_, heq, -⟩
      cases heq

theorem startRuntime_outset (hkind : runtime.workloadKind = .inference)
    (artifact : ArtifactBundle) :
    Sat N (Launching runtime.deploymentId
        (gpuDockerFlags (originalDevices runtime)) v)
      (InferenceBackend.startRuntime s runtime artifact)
      (Outset s (s.inferenceBackend = .docker)
        (DockerInferenceBackend.containerName runtime.deploymentId)
        (gpuDockerFlags (originalDevices runtime)) v) v := by
  have hfiles : s.inferenceBackend ≠ .docker →
      ∀ {p : Agent UnifiedRuntimeRecord} {Q : UnifiedRuntimeRecord → Prop},
      Within (Typed s anyContainer) (FileCall runtime.deploymentId) p Q →
      Sat N (Launching runtime.deploymentId
          (gpuDockerFlags (originalDevices runtime)) v) p
        (Outset s (s.inferenceBackend = .docker)
          (DockerInferenceBackend.containerName runtime.deploymentId)
          (gpuDockerFlags (originalDevices runtime)) v) v := by
    intro hs p Q hp
    refine (sat_files hN hp fun _ he =>
      StopCall.launching he.stopCall).weaken fun r v' h => ?_
    exact .inl ⟨fun hdocker => absurd hdocker hs, h.2 ▸ .refl v⟩
  unfold InferenceBackend.startRuntime
  split
  · refine (dockerStartRuntime_outset hN hkind artifact).weaken fun r v' h => ?_
    exact h.imp_left fun h => ⟨fun _ => h.1 trivial, h.2⟩
  · exact hfiles (by simp [*])
      (processStartRuntime_files (Ledger.belongs_any runtime) artifact)
  · exact hfiles (by simp [*])
      (textGeneration_files artifact (Ledger.belongs_any runtime))

end Starts

end Tenancy

end NodeAgent
