import NodeAgent.Infrastructure.Host

/-!
# Replaying a program against a fixed environment

An environment that answers by a function makes the host deterministic, so a
program can be evaluated; what the evaluation returns is a run of the host.
-/

namespace NodeAgent

open Effectful Program

abbrev Environment := World → (e : Effect) → Answer e

/-- `none` when the environment answers as no docker or file system would. -/
def replay {α : Type} (env : Environment) :
    Agent α → World → Option (Except Exn α × World)
  | .done r, w => some (r, w)
  | .call e next, w =>
      if w.allows e (env w e) then
        replay env (next (w.answer e (env w e)).1) (w.answer e (env w e)).2
      else none

/-- The environment stays within an assumption about the answers. -/
def Environment.Respects (env : Environment) (permitted : Permitted) : Prop :=
  ∀ (w : World) e, permitted e (w.perform e (env w e)).1

variable {α : Type} {env : Environment} {permitted : Permitted}

theorem replay_exec (henv : env.Respects permitted) {p : Agent α} {w w' : World}
    {r : Except Exn α} (h : replay env p w = some (r, w')) :
    Exec (host permitted) p w r w' := by
  induction p generalizing w with
  | done result =>
      simp only [replay, Option.some.injEq, Prod.mk.injEq] at h
      obtain ⟨rfl, rfl⟩ := h
      exact .refl _ _
  | call e next ih =>
      rw [replay] at h
      by_cases hallows : w.allows e (env w e) = true
      · rw [if_pos hallows] at h
        exact .step ⟨henv w e, env w e, hallows, rfl⟩ (ih _ h)
      · rw [if_neg hallows] at h
        cases h

def replayed (env : Environment) (p : Agent α) (w : World) : World :=
  (replay env p w).elim w Prod.snd

theorem replayed_exec (henv : env.Respects permitted) {p : Agent α} {w : World}
    (h : (replay env p w).isSome = true) :
    ∃ r, Exec (host permitted) p w r (replayed env p w) := by
  obtain ⟨⟨r, w'⟩, heq⟩ := Option.isSome_iff_exists.mp h
  exact ⟨r, by simpa [replayed, heq] using replay_exec henv heq⟩

/-- The first calls of a program: what is left of it, and the state then. -/
def replayFor {α : Type} (env : Environment) (checks : World → Effect → Bool) :
    Nat → Agent α → World → Agent α × World
  | 0, p, w => (p, w)
  | _ + 1, .done r, w => (.done r, w)
  | n + 1, .call e next, w =>
      if checks w e && w.allows e (env w e) then
        replayFor env checks n (next (w.answer e (env w e)).1)
          (w.answer e (env w e)).2
      else (.call e next, w)

/-- The machine does what the environment answers to the calls that pass. -/
def Follows (M : Machine Effect Effect.Ret Exn World) (env : Environment)
    (checks : World → Effect → Bool) : Prop :=
  ∀ w e, checks w e = true → w.allows e (env w e) = true →
    M.Step w e (w.answer e (env w e)).1 (w.answer e (env w e)).2

theorem replayFor_reaches {M : Machine Effect Effect.Ret Exn World}
    {checks : World → Effect → Bool} (henv : Follows M env checks) (n : Nat)
    (p : Agent α) (w : World) :
    Reaches M p w (replayFor env checks n p w).1
      (replayFor env checks n p w).2 := by
  induction n generalizing p w with
  | zero => exact .refl _ _
  | succ n ih =>
      cases p with
      | done r => exact .refl _ _
      | call e next =>
          rw [replayFor]
          split
          · rename_i h
            obtain ⟨hchecks, hallows⟩ := Bool.and_eq_true_iff.mp h
            exact .step (henv w e hchecks hallows) (ih _ _)
          · exact .refl _ _

theorem replayFor_exec {M : Machine Effect Effect.Ret Exn World}
    {checks : World → Effect → Bool} (henv : Follows M env checks) (n : Nat)
    {p : Agent α} {w : World} {r : Except Exn α}
    (h : (replayFor env checks n p w).1 = .done r) :
    Exec M p w r (replayFor env checks n p w).2 := by
  rw [Exec, ← h]
  exact replayFor_reaches henv n p w

theorem Environment.Respects.follows (henv : env.Respects permitted) :
    Follows (host permitted) env fun _ _ => true :=
  fun w e _ hallows => ⟨henv w e, env w e, hallows, rfl⟩

theorem anyResult_respected (env : Environment) : env.Respects anyResult :=
  fun _ _ => trivial

/-! ## An environment in which everything goes well -/

def nextContainerId (w : World) : String :=
  "container-" ++ toString w.issuedIds.length

def answerProbe : (question : Probe) → Except Exn question.Ret
  | .busyGpuDevices => .ok ∅
  | .chooseFreePort start _ => .ok start
  | .chooseLoopbackPort => .ok 40000
  | .rounds => .ok 1
  | .isPortFree _ | .pidAlive _ => .ok true
  | .generateSshKeypair => .ok ("private", "public")
  | .dockerPort _ port => .ok (some port)
  | .dockerTop _ => .ok { stdout := "root sshd" }
  | .dockerInspect _ .running => .ok { stdout := "true" }
  | .dockerInspect _ .status => .ok { stdout := "running" }
  | .dockerLogs _ | .firecrackerVersion => .ok {}
  | .httpGet _ => .ok 200
  | .healthz _ => .ok (some "ready")
  | .textGenerationBackend _ image => .ok image
  | .gpuMode => .ok ()
  | .never => .error (.unexpected "interrupted")

/-- Every call succeeds; the control plane knows the given records. -/
def cooperative (leases : List LeaseAssignment)
    (workload : String → Option WorkloadSpec)
    (deployment : String → Option Deployment) : Environment := fun w e =>
  match e with
  | .listLeases _ => { result := .ok leases }
  | .getWorkload id => { result := .ok (workload id) }
  | .getDeployment d => { result := .ok (deployment d) }
  | .dockerRun _ => {
      result := .ok { stdout := nextContainerId w }
      created := some (nextContainerId w, true) }
  | .dockerRm _ _ | .dockerStop _ _ | .dockerStart _ _ =>
      { result := .ok {} }
  | .spawnServer _ => { result := .ok (w.processes.length + 1) }
  | .stageArtifact d _ _ => { result := .ok (World.stagedPath d) }
  | .makeRuntimeDir d => { result := .ok (World.runtimeDirPath d) }
  | .probe question => { result := answerProbe question }
  | .upsertRuntime _ | .removeRuntime _ | .updateDeploymentStatus _
  | .createVolume _ | .deleteVolume _ | .deleteRuntimeDir _ _
  | .deleteStagedArtifact _ _ | .terminatePid _ _ | .storeVolumeRecord _
  | .releaseReconcileLock => { result := .ok () }
  -- The agent's own state decides these, whatever the environment says.
  | .allocate _ _ _ | .allocateSpecific _ _ => { result := .ok [] }
  | .release _ | .allocatedDevices => { result := .ok ∅ }
  | .getRuntime _ | .popVolumeRecord _ => { result := .ok none }
  | .snapshotRuntimeItems => { result := .ok [] }
  | .acquireReconcileLock => { result := .ok true }

/-! ## A small node -/

def ubuntuPod : WorkloadSpec where
  workloadId := "ubuntu"
  name := "ubuntu"
  kind := .pod
  image := some "ubuntu:24.04"
  requirements := some { gpuCount := 1 }

def llama : WorkloadSpec where
  workloadId := "llama"
  name := "llama"
  kind := .inference
  image := some "llama:8b"

def leaseOn (d : String) : LeaseAssignment where
  deploymentId := d
  workloadId := "ubuntu"
  hotkey := "hotkey"

def suspendedLease (d : String) : LeaseAssignment :=
  { leaseOn d with status := some "suspended" }

/-- The given leases, all of them for one-GPU pods. -/
def podHost (leases : List LeaseAssignment) : Environment :=
  cooperative leases (fun _ => some ubuntuPod) fun _ => none

end NodeAgent
