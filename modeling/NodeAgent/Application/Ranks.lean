import NodeAgent.Application.Repertoire
import NodeAgent.Application.Services
import NodeAgent.Foundation.Keeps
import NodeAgent.Foundation.Leads
import NodeAgent.Infrastructure.Replay
import NodeAgent.Infrastructure.Steps

/-!
# The ranks of distributed replicas

A lease may make the node one rank of a replica.  Its runtime is to be ready
only once the rank's own command was launched, with an endpoint only for the
head, and never as a server of its own.
-/

namespace NodeAgent

open Effectful Program Agent

/-- The control plane knows the workload as given, if it answers at all. -/
def supplies (workload : WorkloadSpec) : Permitted
  | .getWorkload _, .ok (some found) => found = workload
  | _, _ => True

def RankLaunched (w₀ w : World) (d : String) (p : MultiNodeParams) : Prop :=
  ∃ command completed,
    (⟨.dockerRun command, .ok completed⟩ : Event) ∈ issued w₀ w ∧
      completed.returncode = 0 ∧ command.owner = d ∧ command.rank = some p

structure RankRuns (lease : LeaseAssignment) (w₀ w : World)
    (p : MultiNodeParams) : Prop where
  parsed : parseMultiNodeParams lease.multiNode = some p
  valid : validateParams p = []
  launched : RankLaunched w₀ w lease.deploymentId p

def RankGuard (lease : LeaseAssignment) (w₀ w : World) : Effect → Prop
  | .upsertRuntime runtime => runtime.status = .ready →
      ∃ p, RankRuns lease w₀ w p ∧
        (runtime.endpoint ≠ none → p.isHead = true)
  | .updateDeploymentStatus update => update.state = .ready →
      ∃ p, RankRuns lease w₀ w p ∧ (update.endpoint ≠ none → p.isHead = true)
  | .dockerRun command => command.rank ≠ none
  | .spawnServer _ => False
  | _ => True

/--
In every run of the node with these settings that starts the lease, or resumes
what it started.
-/
def RanksOnly (s : Settings) (lease : LeaseAssignment)
    (workload : WorkloadSpec) : Prop :=
  (∀ w, w.allocator.totalGpus = s.gpuCount →
    Sat (host (supplies workload)) (RankGuard lease w)
      (startLease s lease) (fun _ _ => True) w) ∧
  ∀ w runtime, w.allocator.totalGpus = s.gpuCount →
    runtime.workloadKind = .inference →
    runtime.deploymentId = lease.deploymentId →
    runtime.metadata.multiNode = lease.multiNode →
    Sat (host (supplies workload)) (RankGuard lease w)
      (resumeRuntime s runtime) (fun _ _ => True) w

/-- The artifact store does not refuse the workload's artifact. -/
def Stageable (workload : WorkloadSpec) : Prop :=
  workload.metadata.artifactUri ≠ some "" ∧
    workload.metadata.artifactDigest ≠ some ""

variable {s : Settings} {lease : LeaseAssignment} {w₀ w w' : World}
variable {workload : WorkloadSpec} {runtime : UnifiedRuntimeRecord}
variable {artifact : ArtifactBundle} {p : MultiNodeParams} {α : Type}
variable {e : Effect} {r : Except Exn e.Ret} {permitted : Permitted}

/-! ## The calls since a state -/

structure Since (w₀ w : World) : Prop where
  logged : w₀.log.length ≤ w.log.length
  sameGpus : w.allocator.totalGpus = w₀.allocator.totalGpus

theorem Since.refl (w : World) : Since w w := ⟨Nat.le_refl _, rfl⟩

theorem Since.issued_answer (h : Since w₀ w) (a : Answer e) :
    issued w₀ (w.answer e a).2 =
      issued w₀ w ++ [⟨e, (w.perform e a).1⟩] := by
  rw [issued, log_answer, List.drop_append_of_le_length h.logged, ← issued]

theorem Since.answer (h : Since w₀ w) (a : Answer e) :
    Since w₀ (w.answer e a).2 where
  logged := by
    rw [log_answer, List.length_append]
    exact Nat.le_add_right_of_le h.logged
  sameGpus := (totalGpus_perform w e a).trans h.sameGpus

theorem Since.step (h : Since w₀ w)
    (hstep : (host permitted).Step w e r w') : Since w₀ w' := by
  obtain ⟨a, -, -, rfl⟩ := host_refines.answered hstep
  exact h.answer a

theorem RankRuns.answer (h : RankRuns lease w₀ w p) (hsince : Since w₀ w)
    (a : Answer e) : RankRuns lease w₀ (w.answer e a).2 p := by
  obtain ⟨command, completed, hmem, hrun⟩ := h.launched
  refine ⟨h.parsed, h.valid, command, completed, ?_, hrun⟩
  rw [hsince.issued_answer]
  exact List.mem_append_left _ hmem

theorem RankRuns.step (h : RankRuns lease w₀ w p) (hsince : Since w₀ w)
    (hstep : (host permitted).Step w e r w') : RankRuns lease w₀ w' p := by
  obtain ⟨a, -, -, rfl⟩ := host_refines.answered hstep
  exact h.answer hsince a

/-! ## Starting a rank on docker -/

def Checks : Effect → Prop
  | .probe _ | .dockerRm _ _ => True
  | _ => False

abbrev Ranked (lease : LeaseAssignment) (w₀ : World) (workload : WorkloadSpec)
    (p : Agent α) : Prop :=
  Keeps (host (supplies workload)) (RankGuard lease w₀) (Since w₀) p

theorem ranked_perform (he : ∀ w, RankGuard lease w₀ w e) :
    Ranked lease w₀ workload (perform e) :=
  keeps_perform (fun w _ => he w) fun _ _ _ h hstep => h.step hstep

theorem ranked_probe (question : Probe) :
    Ranked lease w₀ workload (probe question) :=
  ranked_perform fun _ => trivial

theorem checks_guard (he : Checks e) (w : World) : RankGuard lease w₀ w e := by
  cases e <;> first | exact trivial | exact he.elim

theorem removeContainer_checks (owner target : String) :
    Within (fun _ _ => True) Checks (removeContainer owner target)
      fun _ => True := by
  unfold removeContainer
  refine within_ignoring ?_
  exact within_bind (within_perform (by trivial) fun _ _ => trivial)
    fun _ _ => within_pure trivial

theorem awaitStarted_checks (params : Option MultiNodeParams) :
    Within (fun _ _ => True) Checks
      (DockerInferenceBackend.awaitStarted s runtime params)
      fun started => started = runtime := by
  have hprobe : ∀ question, Checks (.probe question) := fun _ => trivial
  have hstop : Within (fun _ _ => True) Checks
      (DockerInferenceBackend.stopRuntime runtime) fun _ => True := by
    unfold DockerInferenceBackend.stopRuntime
    exact within_bind (within_onlyIf fun _ => removeContainer_checks _ _)
      fun _ _ => within_pure trivial
  unfold DockerInferenceBackend.awaitStarted
  split
  · refine within_bind (waitForContainerRunning_within hprobe _ _)
      fun running _ => ?_
    split
    · exact within_pure rfl
    · exact within_bind hstop fun _ _ => within_raise
  · refine within_bind (Q := fun _ => True) (within_attempt
      ((waitForHealth_within hprobe _ _).weaken fun _ _ => trivial)
      fun _ => trivial) fun r _ => ?_
    split
    · exact within_pure rfl
    · exact within_bind hstop fun _ _ => within_raise
    · exact within_raise

theorem sat_checks {Q : α → Prop} {q : Agent α}
    (hq : Within (fun _ _ => True) Checks q Q) (hsince : Since w₀ w)
    (h : RankRuns lease w₀ w p) :
    Sat (host (supplies workload)) (RankGuard lease w₀) q (fun r w' =>
      (Since w₀ w' ∧ RankRuns lease w₀ w' p) ∧ ∀ a, r = .ok a → Q a) w := by
  refine (Always.sat_keeping (I := fun w => Since w₀ w ∧
    RankRuns lease w₀ w p) hq ?_ ⟨hsince, h⟩).mono ?_ fun _ _ h => h
  · rintro w₁ e r w₂ ⟨hsince, h⟩ _ hstep
    exact ⟨trivial, hsince.step hstep, h.step hsince hstep⟩
  · exact fun w₁ _ h₁ => checks_guard h₁.2 w₁

theorem ranked_checks {Q : α → Prop} {q : Agent α}
    (hq : Within (fun _ _ => True) Checks q Q) :
    Ranked lease w₀ workload q :=
  keeps_of_always hq (fun w _ _ he => checks_guard he w)
    fun _ _ _ _ h _ hstep => ⟨trivial, h.step hstep⟩

theorem dockerRun_runs {command : DockerRun} {error : Exn → Exn}
    (hparse : parseMultiNodeParams lease.multiNode = some p)
    (hvalid : validateParams p = [])
    (howner : command.owner = lease.deploymentId)
    (hrank : command.rank = some p) (h : Since w₀ w) :
    Sat (host (supplies workload)) (RankGuard lease w₀)
      (orNotAvailable error (dockerRun command))
      (fun r w' => Since w₀ w' ∧ ∀ result, r = .ok result →
        result.returncode = 0 → RankRuns lease w₀ w' p) w := by
  unfold orNotAvailable
  refine sat_step_attempt host_refines (by simp [RankGuard, hrank])
    fun a _ _ => ?_
  have hafter := h.answer (e := .dockerRun command) a
  cases hresult : (w.perform (.dockerRun command) a).1 with
  | error x =>
      dsimp only
      split
      · exact ⟨hafter, by simp⟩
      · exact ⟨hafter, by simp⟩
  | ok completed =>
      refine ⟨hafter, ?_⟩
      rintro result heq hzero
      cases heq
      refine ⟨hparse, hvalid, command, completed, ?_, hzero, howner, hrank⟩
      rw [h.issued_answer, ← hresult]
      exact List.mem_append_right _ (List.mem_singleton_self _)

theorem dockerStartRuntime_runs
    (hparse : parseMultiNodeParams lease.multiNode = some p)
    (hdict : artifact.multiNode = lease.multiNode)
    (hid : runtime.deploymentId = lease.deploymentId) (h : Since w₀ w) :
    Sat (host (supplies workload)) (RankGuard lease w₀)
      (DockerInferenceBackend.startRuntime s runtime artifact)
      (fun r w' => Since w₀ w' ∧ ∀ started, r = .ok started →
        RankRuns lease w₀ w' p ∧
          started.metadata.multiNodeRole = some p.role.text) w := by
  unfold DockerInferenceBackend.startRuntime
  rw [hdict, hparse]
  refine Sat.bind (ranked_probe _ w h) (fun port w₁ h₁ => ?_)
    fun x w₁ h₁ => ⟨h₁, by simp⟩
  refine Sat.bind (ranked_checks (removeContainer_checks _ _) w₁ h₁)
    (fun _ w₂ h₂ => ?_) fun x w₂ h₂ => ⟨h₂, by simp⟩
  refine Sat.bind (ranked_probe _ w₂ h₂) (fun _ w₃ h₃ => ?_)
    fun x w₃ h₃ => ⟨h₃, by simp⟩
  dsimp only
  split
  · exact ⟨h₃, by simp⟩
  · rename_i hvalid
    have hvalid : validateParams p = [] := by simpa using hvalid
    generalize hcommand : DockerInferenceBackend.runCommand s runtime artifact
      port (some p) = command
    have howner : command.owner = lease.deploymentId := by
      rw [← hcommand]
      exact hid
    have hrank : command.rank = some p := by
      rw [← hcommand]
      rfl
    refine Sat.bind (dockerRun_runs hparse hvalid howner hrank h₃)
      (fun result w₄ h₄ => ?_) fun x w₄ h₄ => ⟨h₄.1, by simp⟩
    split
    · exact ⟨h₄.1, by simp⟩
    · rename_i hzero
      have hruns := h₄.2 result rfl (not_not.mp hzero)
      refine (sat_checks (awaitStarted_checks _) h₄.1 hruns).weaken
        fun r w₅ h₅ => ⟨h₅.1.1, fun started heq => ⟨h₅.1.2, ?_⟩⟩
      rw [h₅.2 started heq]
      rfl

/-! ## Starting and resuming the lease's runtime -/

/-- All calls but a launch, and what says that a runtime is ready. -/
def Prepares : Effect → Prop
  | .dockerRun _ | .spawnServer _ => False
  | .upsertRuntime runtime => runtime.status ≠ .ready
  | .updateDeploymentStatus update => update.state ≠ .ready
  | _ => True

theorem checks_prepares (e : Effect) (he : Checks e) : Prepares e := by
  cases e <;> first | exact trivial | exact he.elim

theorem failRuntime_prepares (error : String) :
    Within (fun _ _ => True) Prepares (failRuntime runtime error)
      fun _ => True := by
  refine within_bind (Q := fun _ => True)
    (within_perform (by trivial) fun _ _ => trivial) fun _ _ => ?_
  refine within_bind (Q := fun _ => True)
    (within_perform (by simp [Prepares]) fun _ _ => trivial) fun _ _ => ?_
  exact within_ignoring
    (within_perform (by simp [Prepares]) fun _ _ => trivial)

section Prepared

variable {guard : World → Effect → Prop} {inv : World → Prop}

theorem keeps_prepared {Q : α → Prop} {q : Agent α}
    (hguard : ∀ w e, Prepares e → guard w e)
    (hinv : ∀ w e r w', inv w → (host (supplies workload)).Step w e r w' →
      inv w') (hq : Within (fun _ _ => True) Prepares q Q) :
    Keeps (host (supplies workload)) guard inv q :=
  keeps_of_always hq (fun w e _ he => hguard w e he)
    fun w e r w' h _ hstep => ⟨trivial, hinv w e r w' h hstep⟩

theorem since_prepared {Q : α → Prop} {q : Agent α}
    (hguard : ∀ w e, Prepares e → guard w e)
    (hq : Within (fun _ _ => True) Prepares q Q) :
    Keeps (host (supplies workload)) guard (Since w₀) q :=
  keeps_prepared hguard (fun _ _ _ _ h hstep => h.step hstep) hq

theorem since_call (hguard : ∀ w e, Prepares e → guard w e)
    (he : Prepares e) :
    Keeps (host (supplies workload)) guard (Since w₀) (perform e) :=
  since_prepared (Q := fun _ => True) hguard
    (within_perform he fun _ _ => trivial)

theorem getWorkload_supplied (hguard : ∀ w e, Prepares e → guard w e)
    (id : String) (h : Since w₀ w) :
    Sat (host (supplies workload)) guard (getWorkload id)
      (fun r w' => Since w₀ w' ∧
        ∀ found, r = .ok (some found) → found = workload) w := by
  refine sat_step_perform host_refines (hguard _ _ trivial) fun a _ hstep => ?_
  have hsupplies : supplies workload (.getWorkload id) a.result := hstep.1
  refine ⟨h.answer a, ?_⟩
  rintro found heq
  change a.result = _ at heq
  rw [heq] at hsupplies
  exact hsupplies

theorem workloadToResume_supplied (hguard : ∀ w e, Prepares e → guard w e)
    (h : Since w₀ w) :
    Sat (host (supplies workload)) guard (workloadToResume runtime)
      (fun r w' => Since w₀ w' ∧
        ∀ found, r = .ok (some found) → found = workload) w := by
  unfold workloadToResume
  refine sat_bind'.mpr (sat_attempt.mpr
    ((getWorkload_supplied hguard _ h).weaken fun r w₁ h₁ => ?_))
  rw [andThen_ok]
  cases r with
  | ok found => exact ⟨h₁.1, fun other heq => h₁.2 other (by simpa using heq)⟩
  | error x =>
      dsimp only
      split <;> exact ⟨h₁.1, by simp⟩

def Starts (s : Settings) (lease : LeaseAssignment) (workload : WorkloadSpec)
    (guard : World → Effect → Prop) (w₀ : World) : Prop :=
  ∀ runtime : UnifiedRuntimeRecord,
    runtime.metadata.multiNode = lease.multiNode →
    runtime.deploymentId = lease.deploymentId →
    Keeps (host (supplies workload)) guard (Since w₀)
      (startInferenceRuntime s runtime workload)

theorem Starts.startLease (hstarts : Starts s lease workload guard w₀)
    (hguard : ∀ w e, Prepares e → guard w e)
    (hkind : workload.kind = .inference) :
    Keeps (host (supplies workload)) guard (Since w₀)
      (startLease s lease) := by
  have hreconcile : Keeps (host (supplies workload)) guard (Since w₀)
      (reconcileWorkload s lease) := by
    intro w h
    unfold reconcileWorkload
    refine Sat.bind (getWorkload_supplied hguard _ h) (fun found w₁ h₁ => ?_)
      fun x w₁ h₁ => h₁.1
    obtain ⟨hsince, hfound⟩ := h₁
    cases found with
    | none => exact since_call hguard (by simp [Prepares]) w₁ hsince
    | some found =>
        obtain rfl := hfound found rfl
        refine keeps_bind
          (since_call hguard (by simp [Prepares, acceptedRuntime]))
          (fun _ => ?_) w₁ hsince
        simp only [dispatch, hkind]
        exact hstarts _ rfl rfl
  unfold NodeAgent.startLease
  refine keeps_bind (keeps_attempt hreconcile) fun r => ?_
  split
  · exact keeps_pure _
  · exact keeps_ignoring (since_call hguard (by simp [Prepares]))

theorem Starts.redispatch (hstarts : Starts s lease workload guard w₀)
    (hguard : ∀ w e, Prepares e → guard w e)
    (hkind : runtime.workloadKind = .inference)
    (hdict : runtime.metadata.multiNode = lease.multiNode)
    (hid : runtime.deploymentId = lease.deploymentId) :
    Keeps (host (supplies workload)) guard (Since w₀)
      (redispatch s runtime) := by
  unfold NodeAgent.redispatch
  refine keeps_bind (since_call hguard trivial) fun _ => ?_
  intro w h
  refine Sat.bind (workloadToResume_supplied hguard h)
    (fun found w₁ h₁ => ?_) fun x w₁ h₁ => h₁.1
  obtain ⟨hsince, hsupplied⟩ := h₁
  cases found with
  | none => exact hsince
  | some found =>
      obtain rfl := hsupplied found rfl
      refine keeps_bind (since_call hguard (by simp [Prepares]))
        (fun _ => ?_) w₁ hsince
      simp only [hkind]
      exact hstarts _ hdict hid

theorem Starts.resumeRuntime (hstarts : Starts s lease workload guard w₀)
    (hguard : ∀ w e, Prepares e → guard w e)
    (hkind : runtime.workloadKind = .inference)
    (hdict : runtime.metadata.multiNode = lease.multiNode)
    (hid : runtime.deploymentId = lease.deploymentId) :
    Keeps (host (supplies workload)) guard (Since w₀)
      (resumeRuntime s runtime) := by
  have hreacquire : Keeps (host (supplies workload)) guard (Since w₀)
      (reacquire runtime) := by
    simp only [reacquire, hkind]
    exact keeps_bind (since_prepared hguard
      (foreignBusyDevices_within (fun _ => trivial) trivial))
      fun avoid => since_call hguard trivial
  unfold NodeAgent.resumeRuntime
  refine keeps_bind (keeps_attempt hreacquire) fun r => ?_
  split
  · split
    · exact keeps_pure _
    · exact keeps_raise _
  · rw [if_neg (by simp [hkind])]
    exact hstarts.redispatch hguard hkind hdict hid

end Prepared

theorem prepares_guard (w : World) (e : Effect) (he : Prepares e) :
    RankGuard lease w₀ w e := by
  cases e with
  | upsertRuntime runtime => exact fun hready => absurd hready he
  | updateDeploymentStatus update => exact fun hready => absurd hready he
  | _ => first | exact trivial | exact he.elim

theorem readyInference_endpoint
    (hrole : runtime.metadata.multiNodeRole = some p.role.text)
    (h : (readyInference s runtime).endpoint ≠ none) : p.isHead = true := by
  cases hhead : p.role with
  | head => simp [MultiNodeParams.isHead, hhead]
  | worker =>
      simp [readyInference, isWorkerRuntime, hrole, hhead,
        ReplicaRole.text] at h

theorem launchInference_ranked (hs : s.inferenceBackend = .docker)
    (hparse : parseMultiNodeParams lease.multiNode = some p)
    (hdict : artifact.multiNode = lease.multiNode)
    (hid : runtime.deploymentId = lease.deploymentId) :
    Ranked lease w₀ workload
      (launchInference s runtime workload artifact) := by
  intro w h
  unfold launchInference
  refine Sat.bind (ranked_perform (e := .makeRuntimeDir _)
    (fun _ => trivial) w h) (fun dir w₁ h₁ => ?_) fun x w₁ h₁ => h₁
  have hstarting : (startingInference s runtime workload artifact
      dir).deploymentId = lease.deploymentId := hid
  have hstatus : (startingInference s runtime workload artifact
      dir).status ≠ .ready := by simp [startingInference]
  dsimp only
  generalize startingInference s runtime workload artifact dir = starting
    at hstarting hstatus ⊢
  refine Sat.bind (since_call prepares_guard (e := .upsertRuntime _) hstatus
    w₁ h₁) (fun _ w₂ h₂ => ?_) fun x w₂ h₂ => h₂
  simp only [InferenceBackend.startRuntime, hs]
  refine sat_bind'.mpr (sat_attempt.mpr ((dockerStartRuntime_runs hparse
    hdict hstarting h₂).weaken fun r w₃ h₃ => ?_))
  rw [andThen_ok]
  obtain ⟨hsince, hstarted⟩ := h₃
  split
  · rename_i started
    obtain ⟨hruns, hrole⟩ := hstarted started rfl
    refine sat_step_bind host_refines
      (fun _ => ⟨p, hruns, readyInference_endpoint hrole⟩) fun a _ _ => ?_
    have hsince' := hsince.answer (e := .upsertRuntime _) a
    have hruns' := hruns.answer hsince (e := .upsertRuntime _) a
    cases (World.perform w₃ (.upsertRuntime (readyInference s started)) a).1
      with
    | error x => exact hsince'
    | ok u =>
        refine (sat_ignoring.mpr ?_)
        refine sat_step_perform host_refines
          (fun _ => ⟨p, hruns', readyInference_endpoint hrole⟩)
          fun a' _ _ => ?_
        have hlast := hsince'.answer (e := .updateDeploymentStatus _) a'
        split
        · exact hlast
        · split <;> exact hlast
  · exact since_prepared prepares_guard (failRuntime_prepares _) w₃ hsince
  · exact hsince

/-- A start of the workload may get as far as a backend. -/
def Launchable (s : Settings) (workload : WorkloadSpec) : Prop :=
  requestedGpus workload ≤ s.gpuCount ∧ Stageable workload

/-- Where no start yields more than a rank that runs. -/
def KeepsToRanks (s : Settings) (lease : LeaseAssignment)
    (workload : WorkloadSpec) : Prop :=
  Launchable s workload → s.inferenceBackend = .docker ∧
    (parseMultiNodeParams lease.multiNode).isSome = true

theorem stageFor_stages :
    Within (fun _ _ => True) (fun e => ∃ d uri digest,
        e = .stageArtifact d uri digest) (stageFor runtime workload)
      fun artifact => Stageable workload ∧
        artifact.multiNode = runtime.metadata.multiNode := by
  unfold stageFor StagedArtifactStore.stageArtifact
  split
  · exact within_raise
  · rename_i huri
    split
    · exact within_raise
    · rename_i hdigest
      refine within_bind (Q := fun _ => True)
        (within_perform ⟨_, _, _, rfl⟩ fun _ _ => trivial) fun path _ => ?_
      refine within_pure ⟨⟨fun h => ?_, fun h => ?_⟩, rfl⟩
      · simp [h] at huri
      · simp [h] at hdigest

theorem allocateOrFail_fits (n : Int) (h : Since w₀ w) :
    Sat (host (supplies workload)) (RankGuard lease w₀)
      (allocateOrFail runtime n) (fun r w' => Since w₀ w' ∧
        ∀ devices, r = .ok (some devices) →
          n ≤ w₀.allocator.totalGpus) w := by
  unfold allocateOrFail
  refine Sat.bind (since_prepared prepares_guard
    (foreignBusyDevices_within (fun _ => trivial) trivial) w h)
    (fun avoid w₁ h₁ => ?_) fun x w₁ h₁ => ⟨h₁, by simp⟩
  refine sat_step_attempt host_refines trivial fun a _ _ => ?_
  have hafter := h₁.answer (e := .allocate runtime.deploymentId n avoid) a
  cases hresult :
      (w₁.perform (.allocate runtime.deploymentId n avoid) a).1 with
  | ok devices =>
      have hok : World.isOk
          (w₁.allocator.allocate runtime.deploymentId n avoid).1 = true :=
        congrArg World.isOk hresult
      have hle := GpuAllocator.allocate_isOk.mp hok
      have husable := w₁.allocator.length_usable_le avoid
      rw [h₁.sameGpus] at husable
      exact ⟨hafter, fun _ _ => by omega⟩
  | error x =>
      dsimp only
      split
      · refine Sat.bind (since_prepared prepares_guard
          (failRuntime_prepares _) _ hafter) (fun _ w₂ h₂ => ?_)
          fun x w₂ h₂ => ⟨h₂, by simp⟩
        exact ⟨h₂, by simp⟩
      · exact ⟨hafter, by simp⟩

theorem startInferenceRuntime_ranked (hmeets : KeepsToRanks s lease workload)
    (hcount : w₀.allocator.totalGpus = s.gpuCount)
    (hdict : runtime.metadata.multiNode = lease.multiNode)
    (hid : runtime.deploymentId = lease.deploymentId) :
    Ranked lease w₀ workload (startInferenceRuntime s runtime workload) := by
  intro w₁ h₁
  unfold startInferenceRuntime
  refine Sat.bind (allocateOrFail_fits _ h₁) (fun allocated w h => ?_)
    fun x w h => h.1
  obtain ⟨h, hfits⟩ := h
  split
  · exact h
  · rename_i devices
    have hdict' : ({ withGpus runtime devices (requestedGpus workload) with
        gpuFraction := requestedGpus workload } :
          UnifiedRuntimeRecord).metadata.multiNode = lease.multiNode := hdict
    have hid' : ({ withGpus runtime devices (requestedGpus workload) with
        gpuFraction := requestedGpus workload } :
          UnifiedRuntimeRecord).deploymentId = lease.deploymentId := hid
    dsimp only
    generalize ({ withGpus runtime devices (requestedGpus workload) with
      gpuFraction := requestedGpus workload } : UnifiedRuntimeRecord) =
        runtime at hdict' hid' ⊢
    refine sat_bind'.mpr (sat_attempt.mpr (((stageFor_stages).sat_keeping
      (I := Since w₀) ?_ h).mono ?_ fun r w₁ h₁ => ?_))
    · exact fun _ _ _ _ h₁ _ hstep => ⟨trivial, h₁.step hstep⟩
    · rintro w₁ e ⟨-, d, uri, digest, rfl⟩
      exact trivial
    · obtain ⟨hsince, hstaged⟩ := h₁
      rw [andThen_ok]
      split
      · rename_i artifact
        obtain ⟨hstageable, hbundle⟩ := hstaged artifact rfl
        have hfits := hfits devices rfl
        rw [hcount] at hfits
        obtain ⟨hs, hparse⟩ := hmeets ⟨hfits, hstageable⟩
        obtain ⟨p, hp⟩ := Option.isSome_iff_exists.mp hparse
        exact launchInference_ranked hs hp (hbundle.trans hdict') hid' w₁
          hsince
      · exact since_prepared prepares_guard (failRuntime_prepares _) w₁ hsince
      · exact hsince

theorem ranksOnly_of_keepsToRanks (hkind : workload.kind = .inference)
    (hmeets : KeepsToRanks s lease workload) : RanksOnly s lease workload := by
  have hstarts : ∀ w, w.allocator.totalGpus = s.gpuCount →
      Starts s lease workload (RankGuard lease w) w :=
    fun w hcount runtime => startInferenceRuntime_ranked hmeets hcount
  refine ⟨fun w hcount => ?_, fun w runtime hcount hinference hid hdict => ?_⟩
  · exact ((hstarts w hcount).startLease prepares_guard hkind w
      (.refl w)).weaken fun _ _ _ => trivial
  · exact ((hstarts w hcount).resumeRuntime prepares_guard hinference hdict hid
      w (.refl w)).weaken fun _ _ _ => trivial

/-! ## Starts that get past every rank -/

/-- No container was launched since, and the allocator is as given. -/
structure Idle (w₀ : World) (g : GpuAllocator) (w : World) : Prop where
  allocator : w.allocator = g
  since : Since w₀ w
  undocked : ∀ event ∈ issued w₀ w, ∀ command,
    event.call ≠ .dockerRun command

variable {g : GpuAllocator}

theorem Idle.not_runs (h : Idle w₀ g w) : ¬RankRuns lease w₀ w p := by
  intro hruns
  obtain ⟨command, completed, hmem, -⟩ := hruns.launched
  exact h.undocked _ hmem command rfl

theorem Idle.answer {g' : GpuAllocator} (h : Idle w₀ g w)
    (hrun : ∀ command, e ≠ .dockerRun command) (a : Answer e)
    (hsame : (w.perform e a).2.allocator = g') :
    Idle w₀ g' (w.answer e a).2 := by
  refine ⟨hsame, h.since.answer a, fun event hevent command => ?_⟩
  rw [h.since.issued_answer] at hevent
  rcases List.mem_append.mp hevent with hevent | hevent
  · exact h.undocked event hevent command
  · obtain rfl := List.mem_singleton.mp hevent
    exact hrun command

abbrev Passes (workload : WorkloadSpec) (w₀ : World) (g : GpuAllocator)
    (p q : Agent α) : Prop :=
  Leads (host (supplies workload)) (Idle w₀ g) p q (Idle w₀ g)

theorem passes_perform (a : Answer e)
    (hallows : ∀ w : World, w.allows e a = true)
    (hresult : ∀ w : World, (w.perform e a).1 = r)
    (hsupplies : supplies workload e r)
    (hrun : ∀ command, e ≠ .dockerRun command)
    (hsame : ∀ w : World, (w.perform e a).2.allocator = w.allocator) :
    Passes workload w₀ g (perform e) (.done r) := by
  refine leads_perform fun w h => ⟨_, h.answer hrun a
    ((hsame w).trans h.allocator), ?_, a, hallows w, ?_⟩
  · exact hsupplies
  · rw [World.answer, hresult w]

theorem passes_probe (question : Probe) {r : Except Exn question.Ret}
    (h : question ≠ .never) :
    Passes workload w₀ g (probe question) (.done r) := by
  refine passes_perform { result := r } (fun w => ?_) (fun _ => rfl) trivial
    (by simp) fun _ => rfl
  cases question <;> first | rfl | exact absurd rfl h

theorem passes_upsertRuntime :
    Passes workload w₀ g (upsertRuntime runtime) (.done (.ok ())) :=
  passes_perform { result := .ok () } (fun _ => rfl) (fun _ => rfl) trivial
    (by simp) fun _ => rfl

theorem passes_makeRuntimeDir (d : String) :
    Passes workload w₀ g (makeRuntimeDir d)
      (.done (.ok (World.runtimeDirPath d))) :=
  passes_perform { result := .ok (World.runtimeDirPath d) }
    (fun _ => by simp [World.allows, World.returnsPath]) (fun _ => rfl)
    trivial (by simp) fun _ => rfl

theorem passes_stageArtifact (d uri digest : String) :
    Passes workload w₀ g (stageArtifact d uri digest)
      (.done (.ok (World.stagedPath d))) :=
  passes_perform { result := .ok (World.stagedPath d) }
    (fun _ => by simp [World.allows, World.returnsPath]) (fun _ => rfl)
    trivial (by simp) fun _ => rfl

theorem removeContainer_passes (owner target : String) :
    Passes workload w₀ g (removeContainer owner target) (.done (.ok ())) := by
  have hrm : Passes workload w₀ g (dockerRm owner target)
      (.done (.ok {})) :=
    passes_perform { result := .ok {} } (fun _ => rfl) (fun _ => rfl) trivial
      (by simp) fun _ => rfl
  exact ((hrm.bind _).attempt).bind _

theorem foreignBusyDevices_passes :
    Passes workload w₀ g foreignBusyDevices (.done (.ok ∅)) := by
  unfold foreignBusyDevices
  have hbusy : Passes workload w₀ g (probe .busyGpuDevices)
      (.done (.error (.unexpected "nvidia-smi"))) := passes_probe _ (by simp)
  exact ((hbusy.bind _).attempt).bind _

theorem allocateOrFail_passes (w₀ : World) (workload : WorkloadSpec)
    (runtime : UnifiedRuntimeRecord) {n : Int}
    (hn : n ≤ (g.usable ∅).length) :
    ∃ devices g', Leads (host (supplies workload)) (Idle w₀ g)
      (allocateOrFail runtime n) (.done (.ok (some devices)))
      (Idle w₀ g') := by
  have hok := GpuAllocator.allocate_isOk (d := runtime.deploymentId).mpr hn
  cases hresult : (g.allocate runtime.deploymentId n ∅).1 with
  | error x => simp [hresult, World.isOk] at hok
  | ok devices =>
      refine ⟨devices, (g.allocate runtime.deploymentId n ∅).2, ?_⟩
      have hallocate : Leads (host (supplies workload)) (Idle w₀ g)
          (allocate runtime.deploymentId n ∅) (.done (.ok devices))
          (Idle w₀ (g.allocate runtime.deploymentId n ∅).2) := by
        refine leads_perform fun w h => ?_
        have hanswer : (w.perform (.allocate runtime.deploymentId n ∅)
            { result := .ok [] }).1 = .ok devices := by
          rw [← hresult, ← h.allocator]
          rfl
        refine ⟨_, h.answer (e := .allocate runtime.deploymentId n ∅)
          (by simp) { result := .ok [] } (by rw [← h.allocator]; rfl),
          trivial, { result := .ok [] }, rfl, ?_⟩
        rw [World.answer, hanswer]
      unfold allocateOrFail
      exact (foreignBusyDevices_passes.bind _).trans
        (hallocate.attempt.bind _)

theorem stageFor_passes (w₀ : World) (g : GpuAllocator)
    (runtime : UnifiedRuntimeRecord) (h : Stageable workload) :
    ∃ path, Passes workload w₀ g (stageFor runtime workload)
      (.done (.ok (artifactBundle runtime workload path))) := by
  have huri : workload.metadata.artifactUri.getD
      ("local://" ++ orText workload.image "unknown") ≠ "" := by
    cases hsome : workload.metadata.artifactUri with
    | none => simp
    | some uri => simpa [hsome] using h.1
  have hdigest : workload.metadata.artifactDigest.getD
      ("sha256:" ++ prefixOf 16 runtime.deploymentId) ≠ "" := by
    cases hsome : workload.metadata.artifactDigest with
    | none => simp
    | some digest => simpa [hsome] using h.2
  refine ⟨World.stagedPath runtime.deploymentId, ?_⟩
  unfold stageFor StagedArtifactStore.stageArtifact
  rw [if_neg huri, if_neg hdigest]
  exact (passes_stageArtifact _ _ _).bind _

abbrev Arrives (workload : WorkloadSpec) (w₀ : World) (g : GpuAllocator)
    (p : Agent α) (e : Effect) : Prop :=
  Issues (host (supplies workload)) (Idle w₀ g) p e (Idle w₀ g)

theorem dockerStartRuntime_arrives (s : Settings) (w₀ : World)
    (workload : WorkloadSpec) (g : GpuAllocator)
    (runtime : UnifiedRuntimeRecord)
    (hparse : parseMultiNodeParams artifact.multiNode = none) :
    ∃ command, command.rank = none ∧ Arrives workload w₀ g
      (DockerInferenceBackend.startRuntime s runtime artifact)
      (.dockerRun command) := by
  refine ⟨DockerInferenceBackend.runCommand s runtime artifact 0 none, rfl,
    ?_⟩
  unfold DockerInferenceBackend.startRuntime
  rw [hparse]
  refine Leads.issues (a := (0 : Nat))
    (passes_probe .chooseLoopbackPort (by simp)) ?_
  refine Leads.issues (removeContainer_passes _ _) ?_
  refine Leads.issues (a := ()) (passes_probe .gpuMode (by simp)) ?_
  exact Issues.bind (Issues.bind (Issues.attempt (issues_perform _)) _) _

theorem processStartRuntime_arrives {dir : String}
    (hdir : runtime.runtimeDir = some dir) (hpid : runtime.processId = none) :
    Arrives workload w₀ g
      (ProcessInferenceBackend.startRuntime s runtime artifact)
      (.spawnServer runtime.deploymentId) := by
  unfold ProcessInferenceBackend.startRuntime
  refine Issues.bind (Issues.attempt ?_) _
  simp only [ProcessInferenceBackend.startProcessRuntime,
    ProcessInferenceBackend.reuses, hdir, hpid, pure_bind]
  refine Leads.issues (passes_makeRuntimeDir _) ?_
  refine Leads.issues (a := (0 : Nat))
    (passes_probe .chooseLoopbackPort (by simp)) ?_
  exact Issues.bind (issues_perform _) _

theorem fallbackStartRuntime_passes (w₀ : World) (workload : WorkloadSpec)
    (g : GpuAllocator) (runtime : UnifiedRuntimeRecord)
    (artifact : ArtifactBundle) :
    ∃ started, Passes workload w₀ g
      (LocalArtifactInferenceBackend.startRuntime runtime artifact)
      (.done (.ok started)) :=
  ⟨_, Leads.bind (passes_probe (r := .ok artifact.image) _ (by simp)) _⟩

/-- A call that no run may issue while nothing was launched. -/
def Strays (lease : LeaseAssignment) (w₀ : World) (e : Effect) : Prop :=
  ∀ g w, Idle w₀ g w → ¬RankGuard lease w₀ w e

theorem strays_ready (h : runtime.status = .ready) :
    Strays lease w₀ (.upsertRuntime runtime) := by
  intro g w hidle hguard
  obtain ⟨p, hruns, -⟩ := hguard h
  exact hidle.not_runs hruns

theorem launchInference_strays (w₀ : World) (workload : WorkloadSpec)
    (g : GpuAllocator) (artifact : ArtifactBundle)
    (hnot : ¬(s.inferenceBackend = .docker ∧
      (parseMultiNodeParams lease.multiNode).isSome = true))
    (hdict : artifact.multiNode = lease.multiNode)
    (hpid : runtime.processId = none) :
    ∃ e, Strays lease w₀ e ∧ Arrives workload w₀ g
      (launchInference s runtime workload artifact) e := by
  have hstarting : ∀ dir, (startingInference s runtime workload artifact
      dir).processId = none := fun _ => hpid
  unfold launchInference
  cases hs : s.inferenceBackend with
  | docker =>
      have hparse : parseMultiNodeParams artifact.multiNode = none := by
        rw [hdict]
        simpa [hs] using hnot
      obtain ⟨command, hrank, harrives⟩ :=
        dockerStartRuntime_arrives s w₀ workload g (startingInference s
          runtime workload artifact
          (World.runtimeDirPath runtime.deploymentId)) hparse
      refine ⟨.dockerRun command, fun _ _ _ hguard => hguard hrank, ?_⟩
      refine Leads.issues (passes_makeRuntimeDir _) ?_
      refine Leads.issues passes_upsertRuntime ?_
      simp only [InferenceBackend.startRuntime, hs]
      exact Issues.bind (Issues.attempt harrives) _
  | process =>
      refine ⟨.spawnServer runtime.deploymentId,
        fun _ _ _ hguard => hguard, ?_⟩
      refine Leads.issues (passes_makeRuntimeDir _) ?_
      refine Leads.issues passes_upsertRuntime ?_
      simp only [InferenceBackend.startRuntime, hs]
      exact Issues.bind (Issues.attempt
        (processStartRuntime_arrives (by rfl) (hstarting _))) _
  | fallback =>
      obtain ⟨started, hpasses⟩ :=
        fallbackStartRuntime_passes w₀ workload g (startingInference s
          runtime workload artifact
          (World.runtimeDirPath runtime.deploymentId)) artifact
      refine ⟨.upsertRuntime (readyInference s started), strays_ready rfl, ?_⟩
      refine Leads.issues (passes_makeRuntimeDir _) ?_
      refine Leads.issues passes_upsertRuntime ?_
      simp only [InferenceBackend.startRuntime, hs]
      refine Leads.caught hpasses ?_
      exact Issues.bind (issues_perform _) _

theorem startInferenceRuntime_strays (w₀ : World)
    (runtime : UnifiedRuntimeRecord)
    (hstageable : Stageable workload)
    (hnot : ¬(s.inferenceBackend = .docker ∧
      (parseMultiNodeParams lease.multiNode).isSome = true))
    (hdict : runtime.metadata.multiNode = lease.multiNode)
    (hpid : runtime.processId = none)
    (hn : requestedGpus workload ≤ (g.usable ∅).length) :
    ∃ e g', Strays lease w₀ e ∧ Issues (host (supplies workload))
      (Idle w₀ g) (startInferenceRuntime s runtime workload) e
      (Idle w₀ g') := by
  obtain ⟨devices, g', hallocated⟩ :=
    allocateOrFail_passes w₀ workload runtime hn
  unfold startInferenceRuntime
  dsimp only
  generalize hpinned : ({ withGpus runtime devices (requestedGpus workload)
    with gpuFraction := requestedGpus workload } : UnifiedRuntimeRecord) =
      pinned
  have hdict' : pinned.metadata.multiNode = lease.multiNode := by
    rw [← hpinned]
    exact hdict
  have hpid' : pinned.processId = none := by
    rw [← hpinned]
    exact hpid
  obtain ⟨path, hstaged⟩ :=
    stageFor_passes w₀ g' pinned hstageable
  obtain ⟨e, hstrays, harrives⟩ := launchInference_strays w₀ workload g'
    (artifactBundle pinned workload path) hnot hdict' hpid'
  refine ⟨e, g', hstrays, Leads.issues hallocated ?_⟩
  dsimp only
  rw [hpinned]
  exact Leads.caught hstaged harrives

theorem startLease_strays (w₀ : World) (hkind : workload.kind = .inference)
    (hstageable : Stageable workload)
    (hnot : ¬(s.inferenceBackend = .docker ∧
      (parseMultiNodeParams lease.multiNode).isSome = true))
    (hn : requestedGpus workload ≤ (g.usable ∅).length) :
    ∃ e g', Strays lease w₀ e ∧ Issues (host (supplies workload))
      (Idle w₀ g) (startLease s lease) e (Idle w₀ g') := by
  have hfound : Passes workload w₀ g (getWorkload lease.workloadId)
      (.done (.ok (some workload))) :=
    passes_perform { result := .ok (some workload) } (fun _ => rfl)
      (fun _ => rfl) rfl (by simp) fun _ => rfl
  obtain ⟨e, g', hstrays, hissues⟩ := startInferenceRuntime_strays w₀
    { acceptedRuntime lease workload with
      gpuFraction := s.defaultGpuFraction } hstageable hnot rfl rfl hn
  refine ⟨e, g', hstrays, Issues.bind (Issues.attempt ?_) _⟩
  refine Leads.issues hfound (Leads.issues passes_upsertRuntime ?_)
  simp only [dispatch, hkind]
  exact hissues

theorem usable_init (n : Nat) :
    ((GpuAllocator.init n).usable ∅).length = n := by
  have hall : (GpuAllocator.init n).usable ∅ = List.range n := by
    refine List.filter_eq_self.mpr fun device hdevice => ?_
    have hlt : device < n := List.mem_range.mp hdevice
    simp [GpuAllocator.freeDevices, GpuAllocator.deviceIds,
      GpuAllocator.allocatedDevices, GpuAllocator.init, Dict.values,
      Dict.empty, hlt]
  rw [hall, List.length_range]

def headLease (nodeCount : Option Json) : LeaseAssignment :=
  { leaseOn "chat-1" with
    multiNode := some {
      role := some (.str "head")
      nodeCount := nodeCount
      gpusPerNode := some (.int 1) } }

def beforeReady (_ : World) : Effect → Bool
  | .upsertRuntime runtime => runtime.status ≠ .ready
  | _ => true

/-- The start of the lease, up to the write that makes its runtime ready. -/
def almostServing (lease : LeaseAssignment) : Agent Unit × World :=
  replayFor (cooperative [lease] (fun _ => some llama) fun _ => none)
    beforeReady 100 (startLease {} lease) (.init {})

def advertises : Agent Unit → Bool
  | .call (.upsertRuntime runtime) _ =>
      runtime.status = .ready && runtime.endpoint.isSome
  | _ => false

theorem supplied_reaches (leases : List LeaseAssignment)
    (deployment : String → Option Deployment) (workload : WorkloadSpec)
    (checks : World → Effect → Bool) (n : Nat) (q : Agent α) (w : World) :
    Reaches (host (supplies workload)) q w
      (replayFor (cooperative leases (fun _ => some workload) deployment)
        checks n q w).1
      (replayFor (cooperative leases (fun _ => some workload) deployment)
        checks n q w).2 := by
  refine replayFor_reaches (fun w e _ hallows => ?_) _ _ _
  refine ⟨?_, _, hallows, rfl⟩
  cases e with
  | getWorkload id => exact rfl
  | _ => exact trivial

theorem almostServing_reaches (lease : LeaseAssignment)
    (h : advertises (almostServing lease).1 = true) :
    ∃ runtime next w', Reaches (host (supplies llama))
      (startLease {} lease) (.init {}) (.call (.upsertRuntime runtime) next)
      w' ∧ runtime.status = .ready ∧ runtime.endpoint ≠ none := by
  have hreached : Reaches (host (supplies llama)) (startLease {} lease)
      (.init {}) (almostServing lease).1 (almostServing lease).2 :=
    supplied_reaches _ _ _ _ _ _ _
  revert hreached h
  generalize (almostServing lease).1 = rest
  intro h hreached
  unfold advertises at h
  split at h
  · rename_i runtime next
    simp only [Bool.and_eq_true, decide_eq_true_eq] at h
    exact ⟨runtime, next, _, hreached, h.1,
      Option.isSome_iff_ne_none.mp h.2⟩
  · simp at h

end NodeAgent
