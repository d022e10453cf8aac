import NodeAgent.Application.Launch
import NodeAgent.Foundation.Completes

/-!
# Starts in which every call succeeds

Such a start leaves a ready record and one running container on the GPUs that
the deployment holds, if only a container of the same name ran before.
-/

namespace NodeAgent

open Effectful Program Agent

def succeeds : Permitted
  | .allocate _ _ _, _ | .allocateSpecific _ _, _ => True
  | .dockerRun _, r => ∃ completed, r = .ok completed ∧
      completed.returncode = 0 ∧ strip completed.stdout ≠ ""
  | .dockerRm _ _, r | .dockerStop _ _, r | .dockerStart _ _, r =>
      World.exitedZero r = true
  | .probe (.dockerInspect _ .running), r => ∃ completed, r = .ok completed ∧
      completed.returncode = 0 ∧ lower (strip completed.stdout) = "true"
  | .probe (.dockerInspect _ .status), r => ∃ completed, r = .ok completed ∧
      strip completed.stdout ≠ "exited"
  | .probe (.httpGet _), r => r = .ok 200
  -- Every wait has time for a round at least.
  | .probe .rounds, r => ∃ rounds, r = .ok (rounds + 1)
  | _, r => World.isOk r = true

theorem succeeds_works : Works succeeds := by
  intro e r h
  cases e with
  | dockerRun command =>
      obtain ⟨completed, rfl, hzero, -⟩ := h
      simp [dockerWorks, World.exitedZero, hzero]
  | dockerRm owner target => exact h
  | dockerStop owner target => exact h
  | dockerStart owner target => exact h
  | _ => exact trivial

theorem ok_of_isOk {α : Type} {r : Except Exn α} (h : World.isOk r = true) :
    ∃ a, r = .ok a := by
  cases r with
  | ok a => exact ⟨a, rfl⟩
  | error x => cases h

namespace Tenancy

variable {s : Settings} {v v' : Tenancy} {α β : Type} {d : String}
variable {runtime : UnifiedRuntimeRecord} {workload : WorkloadSpec}

/-- The deployment while every call succeeds. -/
abbrev smooth (s : Settings) : Machine Effect Effect.Ret Exn Tenancy :=
  machine s succeeds

/-- The program changes nothing of what the deployment has, and returns. -/
def Quietly (s : Settings) (p : Agent α) (Q : α → Prop) (v : Tenancy) : Prop :=
  Completes (smooth s) p (fun a v' => v' = v ∧ Q a) v

theorem quietly_pure {a : α} {Q : α → Prop} (h : Q a) :
    Quietly s (pure a) Q v :=
  completes_pure ⟨rfl, h⟩

theorem Quietly.bind {p : Agent α} {f : α → Agent β} {Q : α → Prop}
    {R : β → Prop} (hp : Quietly s p Q v)
    (hf : ∀ a, Q a → Quietly s (f a) R v) : Quietly s (p >>= f) R v := by
  refine Completes.bind hp ?_
  rintro a v' ⟨rfl, ha⟩
  exact hf a ha

theorem Quietly.attempt {p : Agent α} {Q : α → Prop} (hp : Quietly s p Q v) :
    Quietly s p.attempt (fun r => ∃ a, r = .ok a ∧ Q a) v := by
  refine (Completes.attempt hp).weaken ?_
  rintro _ v' ⟨a, rfl, rfl, ha⟩
  exact ⟨rfl, a, rfl, ha⟩

theorem Quietly.completes_bind {p : Agent α} {f : α → Agent β}
    {Q : α → Prop} {post : β → Tenancy → Prop} (hp : Quietly s p Q v)
    (hf : ∀ a, Q a → Completes (smooth s) (f a) post v) :
    Completes (smooth s) (p >>= f) post v := by
  refine Completes.bind hp ?_
  rintro a v' ⟨rfl, ha⟩
  exact hf a ha

theorem quietly_perform {e : Effect} {Q : e.Ret → Prop}
    (hok : ∀ r, succeeds e r → ∃ a, r = .ok a ∧ Q a)
    (hsame : ∀ r v', OwnStep s v e r v' → v' = v) :
    Quietly s (perform e) Q v := by
  refine completes_perform ?_
  rintro r v' ⟨hr, -, hown⟩
  obtain ⟨a, rfl, ha⟩ := hok r hr
  exact ⟨a, rfl, hsame _ v' hown, ha⟩

theorem quietly_probe (question : Probe)
    (hok : ∀ r, succeeds (.probe question) r → World.isOk r = true) :
    Quietly s (probe question) (fun _ => True) v := by
  refine quietly_perform (fun r hr => ?_) fun _ _ h => h
  obtain ⟨a, rfl⟩ := ok_of_isOk (hok r hr)
  exact ⟨a, rfl, trivial⟩

theorem quietly_rounds :
    Quietly s (probe .rounds) (fun rounds => 0 < rounds) v := by
  refine quietly_perform (fun r hr => ?_) fun _ _ h => h
  obtain ⟨rounds, rfl⟩ := hr
  exact ⟨rounds + 1, rfl, Nat.succ_pos rounds⟩

/-! ## Ports and keys -/

theorem setUpSsh_quietly : Quietly s (setUpSsh s) (fun _ => True) v := by
  refine Quietly.bind (quietly_probe _ fun _ h => h) fun port _ => ?_
  refine Quietly.bind (quietly_probe _ fun _ h => h) fun keys _ => ?_
  exact quietly_pure trivial

theorem chooseUnusedPort_quietly (used : List Nat) (rounds : Nat) :
    Quietly s (chooseUnusedPort s used rounds) (fun _ => True) v := by
  induction rounds with
  | zero =>
      exact Quietly.bind (quietly_probe .never fun _ h => h)
        fun hopeless _ => hopeless.elim
  | succ rounds ih =>
      refine Quietly.bind (quietly_probe _ fun _ h => h) fun port _ => ?_
      split
      · exact ih
      · exact quietly_pure trivial

theorem sameNumberFree_quietly (used : List Nat) (containerPort : Nat) :
    Quietly s (sameNumberFree s used containerPort) (fun _ => True) v := by
  unfold sameNumberFree
  split
  · exact quietly_probe _ fun _ h => h
  · exact quietly_pure trivial

theorem choosePort_quietly (used : List Nat) (containerPort : Nat)
    (sameNumber : Bool) :
    Quietly s (choosePort s used containerPort sameNumber)
      (fun _ => True) v := by
  unfold choosePort
  split
  · exact quietly_pure trivial
  · exact Quietly.bind quietly_rounds
      fun rounds _ => chooseUnusedPort_quietly used rounds

theorem assignPorts_quietly (assigned : List (Nat × Nat)) (ports : List Nat) :
    Quietly s (assignPorts s assigned ports) (fun _ => True) v := by
  induction ports generalizing assigned with
  | nil => exact quietly_pure trivial
  | cons containerPort rest ih =>
      refine Quietly.bind (sameNumberFree_quietly _ _) fun sameNumber _ => ?_
      refine Quietly.bind (choosePort_quietly _ _ _).attempt ?_
      rintro _ ⟨port, rfl, -⟩
      exact ih _

theorem readBackPort_quietly (container : String) (port requested : Nat) :
    Quietly s (ProcessPodBackend.readBackPort container port requested)
      (fun _ => True) v := by
  refine Quietly.bind
    (quietly_probe (.dockerPort container port) fun _ h => h).attempt ?_
  rintro _ ⟨answer, rfl, -⟩
  cases answer <;> exact quietly_pure trivial

theorem verifyPorts_quietly (container : String) (ports : List (Nat × Nat)) :
    Quietly s (ProcessPodBackend.verifyPorts container ports)
      (fun _ => True) v := by
  induction ports with
  | nil => exact quietly_pure trivial
  | cons port rest ih =>
      refine Quietly.bind (readBackPort_quietly _ _ _) fun actual _ => ?_
      refine Quietly.bind ih fun verified _ => ?_
      exact quietly_pure trivial

theorem readBackSshPort_quietly (container : String) (port : Option Nat) :
    Quietly s (ProcessPodBackend.readBackSshPort container port)
      (fun _ => True) v := by
  cases port with
  | none => exact quietly_pure trivial
  | some port =>
      unfold ProcessPodBackend.readBackSshPort
      dsimp only
      split
      · exact quietly_pure trivial
      · refine Quietly.bind (readBackPort_quietly _ _ _) fun actual _ => ?_
        exact quietly_pure trivial

/-! ## Waiting -/

theorem waitForSshd_quietly (container : String) (rounds : Nat) :
    Quietly s (ProcessPodBackend.waitForSshd container rounds)
      (fun _ => True) v := by
  induction rounds with
  | zero => exact quietly_pure trivial
  | succ rounds ih =>
      refine Quietly.bind
        (quietly_probe (.dockerTop container) fun _ h => h).attempt ?_
      rintro _ ⟨top, rfl, -⟩
      dsimp only
      split
      · exact quietly_pure trivial
      · exact ih

theorem waitForReady_quietly :
    Quietly s (PodBackend.waitForReady s runtime) (fun _ => True) v := by
  unfold PodBackend.waitForReady
  split
  · unfold ProcessPodBackend.waitForReady
    split
    · exact Quietly.bind quietly_rounds
        fun rounds _ => waitForSshd_quietly _ rounds
    · exact quietly_pure trivial
  · exact quietly_pure trivial

theorem containerRunning_quietly {id : String} (hid : id ≠ "") :
    Quietly s (DockerInferenceBackend.containerRunning (some id))
      (fun running => running = true) v := by
  unfold DockerInferenceBackend.containerRunning
  rw [if_pos (by simpa [truthy] using hid)]
  have hinspect : Quietly s (probe (.dockerInspect id .running))
      (fun completed => completed.returncode = 0 ∧
        lower (strip completed.stdout) = "true") v :=
    quietly_perform (fun r hr => hr) fun _ _ h => h
  refine Quietly.bind hinspect.attempt ?_
  rintro _ ⟨completed, rfl, hzero, htrue⟩
  exact quietly_pure (by simp [hzero, htrue])

theorem checkNotExited_quietly (container : String) :
    Quietly s (DockerInferenceBackend.checkNotExited container)
      (fun _ => True) v := by
  have hinspect : Quietly s (probe (.dockerInspect container .status))
      (fun completed => strip completed.stdout ≠ "exited") v :=
    quietly_perform (fun r hr => hr) fun _ _ h => h
  refine Quietly.bind hinspect.attempt ?_
  rintro _ ⟨completed, rfl, hexited⟩
  dsimp only
  rw [if_neg fun h => hexited h.2]
  exact quietly_pure trivial

theorem waitForHealth_quietly :
    Quietly s (DockerInferenceBackend.waitForHealth s runtime)
      (fun _ => True) v := by
  unfold DockerInferenceBackend.waitForHealth
  refine Quietly.bind quietly_rounds fun rounds hrounds => ?_
  obtain ⟨rounds, rfl⟩ := Nat.exists_eq_succ_of_ne_zero hrounds.ne'
  have hcheck : Quietly s (onlyIf (truthy runtime.containerId)
      (DockerInferenceBackend.checkNotExited
        (runtime.containerId.getD ""))) (fun _ => True) v :=
    completes_onlyIf (fun _ => checkNotExited_quietly _)
      fun _ => ⟨rfl, trivial⟩
  have hget : ∀ url, Quietly s (probe (.httpGet url))
      (fun status => status = 200) v :=
    fun url => quietly_perform (fun r hr => ⟨200, hr, rfl⟩) fun _ _ h => h
  have hhealth : ∀ url, Quietly s (DockerInferenceBackend.healthRounds
      runtime.containerId url none (rounds + 1)) (fun r => r = .ok ()) v := by
    intro url
    refine Quietly.bind hcheck fun _ _ => Quietly.bind (hget url).attempt ?_
    rintro _ ⟨status, rfl, rfl⟩
    exact quietly_pure rfl
  refine Quietly.bind (hhealth _) ?_
  rintro _ rfl
  exact quietly_pure trivial

/-! ## One container -/

/-- Of the containers only those of the name run. -/
def Alone (name : String) (v : Tenancy) : Prop :=
  ∀ c ∈ v.containers, c.running = true → c.name = name

/-- One container runs, and it was given these GPUs. -/
def Hosts (gpus : GpuRequest) (v : Tenancy) : Prop :=
  ∃ c, v.containers.filter (·.running) = [c] ∧ c.gpus = gpus

/-- Ready, with one running container on the GPUs that are held. -/
def Served (s : Settings) (v : Tenancy) : Prop :=
  (∃ runtime, v.record = some runtime ∧ runtime.status = .ready) ∧
    ∃ c, v.containers.filter (·.running) = [c] ∧
      c.devices s.gpuCount = v.held

theorem Alone.fades {name : String} (h : Alone name v) (hfades : Fades v v') :
    Alone name v' := by
  intro c hc hrunning
  obtain ⟨c', hc', -, hname, -, -, hran⟩ := hfades.containers c hc
  exact hname.trans (h c' hc' (hran hrunning))

theorem hosts_ran {command : DockerRun} {id : String}
    (halone : Alone command.name v)
    (hnone : ∀ c ∈ v.containers, c.answersTo command.name = false) :
    Hosts command.gpus (v.ran command id) := by
  have hstopped : v.containers.filter (·.running) = [] := by
    refine List.filter_eq_nil_iff.mpr fun c hc hrunning => ?_
    have hanswers := hnone c hc
    simp [Container.answersTo, halone c hc hrunning] at hanswers
  refine ⟨⟨id, command.name, command.owner, command.gpus, command.publish,
    true⟩, ?_, rfl⟩
  simp [ran, List.filter_append, hstopped]

theorem removeContainer_completes (target : String) :
    Completes (smooth s) (removeContainer d target) (fun _ v' => Fades v v' ∧
      ∀ c ∈ v'.containers, c.answersTo target = false) v := by
  refine Completes.ignoring (Completes.bind (completes_perform ?_)
    fun _ v' h => completes_pure h)
  rintro r v' ⟨hr, -, -, rfl⟩
  obtain ⟨completed, rfl, -⟩ := exitedZero_ok hr
  refine ⟨completed, rfl, fades_of_shrinks (shrinks_filter _ _), fun c hc => ?_⟩
  simpa using (List.mem_filter.mp hc).2

theorem dockerRun_completes (error : Exn → Exn) (command : DockerRun)
    (halone : Alone command.name v)
    (hnone : ∀ c ∈ v.containers, c.answersTo command.name = false) :
    Completes (smooth s) (orNotAvailable error (dockerRun command))
      (fun completed v' => completed.returncode = 0 ∧
        strip completed.stdout ≠ "" ∧ v'.held = v.held ∧
          Hosts command.gpus v') v := by
  have hrun : Completes (smooth s) (dockerRun command)
      (fun completed v' => completed.returncode = 0 ∧
        strip completed.stdout ≠ "" ∧ v'.held = v.held ∧
          Hosts command.gpus v') v := by
    refine completes_perform ?_
    rintro r v' ⟨⟨completed, rfl, hzero, hid⟩, -, _, heq, -, -, -, rfl⟩
    cases heq
    exact ⟨completed, rfl, hzero, hid, rfl, hosts_ran halone hnone⟩
  refine Completes.bind hrun.attempt ?_
  rintro _ v' ⟨completed, rfl, h⟩
  exact completes_pure h

theorem upsert_completes (runtime : UnifiedRuntimeRecord) :
    Completes (smooth s) (upsertRuntime runtime) (fun _ v' =>
      v'.record = some runtime ∧ v'.held = v.held ∧
        v'.containers = v.containers) v := by
  refine completes_perform ?_
  rintro r v' ⟨hr, -, rfl⟩
  obtain ⟨a, rfl⟩ := ok_of_isOk hr
  exact ⟨a, rfl, rfl, rfl, rfl⟩

theorem report_quietly (update : DeploymentStatusUpdate) :
    Quietly s (report update) (fun _ => True) v := by
  refine Completes.ignoring (quietly_perform (fun r hr => ?_) fun _ _ h => h)
  obtain ⟨a, rfl⟩ := ok_of_isOk hr
  exact ⟨a, rfl, trivial⟩

theorem writeReady_serves {gpus : GpuRequest} (hready : runtime.status = .ready)
    (hhosts : Hosts gpus v) (hheld : gpus.deviceSet s.gpuCount = v.held) :
    Completes (smooth s) (do
      upsertRuntime runtime
      reportDeploymentReady runtime) (fun _ v' => Served s v') v := by
  refine Completes.bind (upsert_completes runtime) ?_
  rintro _ v' ⟨hrecord, hsame, hcontainers⟩
  have hserved : Served s v' := by
    obtain ⟨c, hc, hgpus⟩ := hhosts
    refine ⟨⟨runtime, hrecord, hready⟩, c, hcontainers ▸ hc, ?_⟩
    rw [Container.devices, hgpus, hheld, hsame]
  refine (report_quietly _).weaken ?_
  rintro _ v'' ⟨rfl, -⟩
  exact hserved

/-! ## Pods -/

theorem processStartPod_hosts (himage : truthy runtime.metadata.image = true)
    (halone : Alone (podContainerName runtime.deploymentId) v) :
    Completes (smooth s) (ProcessPodBackend.startPod s runtime workload)
      (fun started v' => started.status = .ready ∧ v'.held = v.held ∧
        Hosts (ProcessPodBackend.podGpus runtime) v') v := by
  obtain ⟨image, hsome⟩ : ∃ image, runtime.metadata.image = some image := by
    cases hnone : runtime.metadata.image with
    | none => simp [hnone, truthy] at himage
    | some image => exact ⟨image, rfl⟩
  rw [hsome] at himage
  unfold ProcessPodBackend.startPod
  simp only [hsome, himage, if_true]
  refine Completes.bind (removeContainer_completes _) ?_
  rintro _ v₁ ⟨hfades, hnone⟩
  have hmode : Quietly s (onlyIf (ProcessPodBackend.podGpus runtime ≠ .none)
      (probe .gpuMode)) (fun _ => True) v₁ :=
    completes_onlyIf (fun _ => quietly_probe .gpuMode fun _ h => h)
      fun _ => ⟨rfl, trivial⟩
  refine hmode.completes_bind fun _ _ => ?_
  refine Completes.bind (dockerRun_completes _ (ProcessPodBackend.runCommand s
    runtime image) (halone.fades hfades) hnone) ?_
  rintro completed v₂ ⟨hzero, -, hheld, hhosts⟩
  rw [if_neg (not_not.mpr hzero)]
  refine (readBackSshPort_quietly _ _).completes_bind fun sshPort _ => ?_
  refine (verifyPorts_quietly _ _).completes_bind fun mappings _ => ?_
  exact completes_pure ⟨rfl, hheld.trans hfades.held, hhosts⟩

theorem launchPod_serves (hbackend : s.podBackend = .process)
    {setup : PodSetup} (himage : truthy (podImage workload) = true)
    (halone : Alone (podContainerName runtime.deploymentId) v)
    (hheld : v.held = setup.devices.toFinset)
    (hcpu : setup.devices = [] → setup.gpuCount ≤ 0) :
    Completes (smooth s) (launchPod s runtime workload setup)
      (fun _ v' => Served s v') v := by
  unfold launchPod
  dsimp only
  generalize hstarting : startingPod s runtime workload setup = starting
  have hstart : truthy starting.metadata.image = true ∧
      starting.deploymentId = runtime.deploymentId ∧
      originalDevices starting = setup.devices ∧
      (originalDevices starting = [] → starting.gpuFraction ≤ 0) := by
    subst hstarting
    refine ⟨himage, rfl, rfl, fun hnone => ?_⟩
    show (setup.gpuCount : Rat) ≤ 0
    exact_mod_cast hcpu hnone
  obtain ⟨himage, hid, hdevices, hfraction⟩ := hstart
  refine Completes.bind (upsert_completes starting) ?_
  rintro _ v₁ ⟨-, hheld₁, hcontainers⟩
  have halone₁ : Alone (podContainerName starting.deploymentId) v₁ := by
    intro c hc
    rw [hid]
    exact halone c (hcontainers ▸ hc)
  have hstarted : Completes (smooth s) (ProcessPodBackend.startPod s starting
      workload) (fun started v' => started.status = .ready ∧
        v'.held = v₁.held ∧
          Hosts (ProcessPodBackend.podGpus starting) v') v₁ :=
    processStartPod_hosts himage halone₁
  simp only [PodBackend.startPod, hbackend]
  refine Completes.bind hstarted.attempt ?_
  rintro _ v₂ ⟨started, rfl, hready, hheld₂, hhosts⟩
  dsimp only
  refine waitForReady_quietly.completes_bind fun verified _ => ?_
  refine writeReady_serves (by exact hready) hhosts ?_
  rw [podGpus_deviceSet hfraction, hdevices, hheld₂, hheld₁, hheld]

/-! ## Inference -/

theorem awaitStarted_quietly {params : Option MultiNodeParams} {id : String}
    (hsome : runtime.containerId = some id) (hid : id ≠ "") :
    Quietly s (DockerInferenceBackend.awaitStarted s runtime params)
      (fun _ => True) v := by
  unfold DockerInferenceBackend.awaitStarted
  split
  · have hwait : Quietly s (DockerInferenceBackend.waitForContainerRunning
        runtime.containerId 6) (fun running => running = true) v := by
      rw [hsome]
      refine Quietly.bind (containerRunning_quietly hid) ?_
      rintro running rfl
      exact quietly_pure rfl
    refine Quietly.bind hwait ?_
    rintro running rfl
    exact quietly_pure trivial
  · refine Quietly.bind waitForHealth_quietly.attempt ?_
    rintro _ ⟨_, rfl, -⟩
    exact quietly_pure trivial

theorem dockerStartRuntime_hosts {artifact : ArtifactBundle}
    (hvalid : ((parseMultiNodeParams artifact.multiNode).map
      validateParams).getD [] = [])
    (halone : Alone (DockerInferenceBackend.containerName runtime.deploymentId)
      v) :
    Completes (smooth s) (DockerInferenceBackend.startRuntime s runtime
      artifact) (fun _ v' => v'.held = v.held ∧
        Hosts (gpuDockerFlags (originalDevices runtime)) v') v := by
  unfold DockerInferenceBackend.startRuntime
  refine (quietly_probe .chooseLoopbackPort fun _ h => h).completes_bind
    fun port _ => ?_
  refine Completes.bind (removeContainer_completes _) ?_
  rintro _ v₁ ⟨hfades, hnone⟩
  refine (quietly_probe .gpuMode fun _ h => h).completes_bind fun _ _ => ?_
  dsimp only
  rw [if_neg (not_not.mpr hvalid)]
  refine Completes.bind (dockerRun_completes _ (DockerInferenceBackend.runCommand
    s runtime artifact port (parseMultiNodeParams artifact.multiNode))
    (halone.fades hfades) hnone) ?_
  rintro completed v₂ ⟨hzero, hid, hheld, hhosts⟩
  rw [if_neg (not_not.mpr hzero)]
  refine (awaitStarted_quietly rfl hid).weaken ?_
  rintro _ v₃ ⟨rfl, -⟩
  exact ⟨hheld.trans hfades.held, hhosts⟩

theorem launchInference_serves (hbackend : s.inferenceBackend = .docker)
    {artifact : ArtifactBundle}
    (hvalid : ((parseMultiNodeParams artifact.multiNode).map
      validateParams).getD [] = [])
    (halone : Alone (DockerInferenceBackend.containerName runtime.deploymentId)
      v)
    (hheld : v.held = (originalDevices runtime).toFinset)
    (hsome : originalDevices runtime ≠ []) :
    Completes (smooth s) (launchInference s runtime workload artifact)
      (fun _ v' => Served s v') v := by
  have hmake : Quietly s (makeRuntimeDir runtime.deploymentId)
      (fun _ => True) v := by
    refine quietly_perform (fun r hr => ?_) fun _ _ h => h
    obtain ⟨a, rfl⟩ := ok_of_isOk hr
    exact ⟨a, rfl, trivial⟩
  unfold launchInference
  refine hmake.completes_bind fun dir _ => ?_
  dsimp only
  generalize hstarting :
    startingInference s runtime workload artifact dir = starting
  have hstart : starting.deploymentId = runtime.deploymentId ∧
      originalDevices starting = originalDevices runtime := by
    subst hstarting
    exact ⟨rfl, rfl⟩
  refine Completes.bind (upsert_completes starting) ?_
  rintro _ v₁ ⟨-, hheld₁, hcontainers⟩
  have halone₁ : Alone (DockerInferenceBackend.containerName
      starting.deploymentId) v₁ := by
    intro c hc
    rw [hstart.1]
    exact halone c (hcontainers ▸ hc)
  simp only [InferenceBackend.startRuntime, hbackend]
  refine Completes.bind
    (dockerStartRuntime_hosts (s := s) hvalid halone₁).attempt ?_
  rintro _ v₂ ⟨started, rfl, hheld₂, hhosts⟩
  dsimp only
  refine writeReady_serves (by rfl) hhosts ?_
  rw [gpuDockerFlags_deviceSet (hstart.2 ▸ hsome), hstart.2, hheld₂, hheld₁,
    hheld]

end Tenancy

end NodeAgent
