import NodeAgent.Domain.Inference
import NodeAgent.Foundation.Always
import NodeAgent.Infrastructure.Outcomes

/-!
# What a failed start of an inference process leaves running

The process backend writes the number of the process that it spawned into a copy
of the record, and falls back with the record from before.
-/

namespace NodeAgent

open Effectful Program Agent

/-! ## The model, for every manifest and fallback -/

namespace LocalArtifactInferenceBackend

/-- `start_runtime`, for every `runtime_manifest` in the payload. -/
def startFrom (manifest : Option Json) (runtime : UnifiedRuntimeRecord)
    (artifact : ArtifactBundle) : Agent UnifiedRuntimeRecord :=
  match manifest with
  | some (.obj _) => startRuntime runtime artifact
  | _ => raise (.inferenceRuntimeError
      "runtime manifest missing from staged artifact" "prepare_runtime")

end LocalArtifactInferenceBackend

namespace ProcessInferenceBackend

abbrev Fallback :=
  UnifiedRuntimeRecord → ArtifactBundle → Agent UnifiedRuntimeRecord

/-- `artifact.payload.get("runtime_manifest", {})` has a `get`. -/
def hasGet : Option Json → Bool
  | none | some (.obj _) => true
  | _ => false

/-- `_start_process_runtime`, for every manifest in the payload. -/
def spawnRuntime (s : Settings) (manifest : Option Json)
    (runtime : UnifiedRuntimeRecord) (artifact : ArtifactBundle) :
    Agent UnifiedRuntimeRecord := do
  match runtime.runtimeDir with
  | none => raise (.inferenceRuntimeError
      "runtime directory missing before start" "start_inference_backend")
  | some _ => do
      if ← reuses runtime then
        pure { runtime with
          backendName := some "process-local-runtime"
          metadata := { runtime.metadata with backendStarted := some true } }
      else do
        let _ ← makeRuntimeDir runtime.deploymentId
        let port ← probe .chooseLoopbackPort
        let pid ← spawnServer runtime.deploymentId
        if hasGet manifest then do
          let url := s!"http://{s.dockerHost}:{port}"
          let rounds ← probe .rounds
          healthRounds url none rounds
          pure { runtime with
            processId := some pid
            runtimeUrl := some url
            backendName := some "process-local-runtime"
            runtimeMode := some "process"
            modelIdentifier :=
              if truthy artifact.modelIdentifier then artifact.modelIdentifier
              else some artifact.image
            metadata := { runtime.metadata with backendStarted := some true } }
        else
          -- The process runs by now, and its number is in no record.
          raise (.unexpected "AttributeError")

/-- `_start_fallback_runtime` -/
def fallBack (fallback : Option Fallback) (runtime : UnifiedRuntimeRecord)
    (artifact : ArtifactBundle) (reason : String) :
    Agent UnifiedRuntimeRecord :=
  match fallback with
  | none => raise (.inferenceRuntimeError reason "start_inference_backend")
  | some start => do
      terminateRecordedPid runtime
      let started ←
        start { runtime with processId := none, runtimeUrl := none } artifact
      pure { started with
        backendName := some "fallback-local-artifact-backend"
        runtimeMode := some "fallback" }

def fallsBack : Exn → Bool
  | .permissionError _ => true
  | .inferenceRuntimeError _ stage =>
      stage = "start_inference_backend" ∨ stage = "health_check"
  | _ => false

/-- `start_runtime` of a backend with this fallback. -/
def startWith (s : Settings) (fallback : Option Fallback)
    (manifest : Option Json) (runtime : UnifiedRuntimeRecord)
    (artifact : ArtifactBundle) : Agent UnifiedRuntimeRecord := do
  match ← attempt (spawnRuntime s manifest runtime artifact) with
  | .ok started => pure started
  | .error e =>
      if fallsBack e then fallBack fallback runtime artifact e.message
      else raise e

theorem startWith_local (s : Settings) (fields : List (String × Json)) :
    startWith s (some (LocalArtifactInferenceBackend.startFrom
      (some (.obj fields)))) (some (.obj fields)) = startRuntime s := by
  funext runtime artifact
  have hspawn : spawnRuntime s (some (.obj fields)) runtime artifact =
      startProcessRuntime s runtime artifact := by
    cases hdir : runtime.runtimeDir <;>
      simp only [spawnRuntime, startProcessRuntime, hdir, hasGet, if_true]
  rw [startWith, startRuntime, hspawn]
  congr 1
  funext result
  cases result with
  | ok started => rfl
  | error e =>
      cases e with
      | inferenceRuntimeError message stage =>
          by_cases hstage : stage = "start_inference_backend" ∨
              stage = "health_check" <;>
            simp [fallsBack, fallBack, startFallbackRuntime, hstage,
              LocalArtifactInferenceBackend.startFrom]
      | permissionError message => rfl
      | _ => rfl

/-! ## Outcomes -/

/-- The process that was spawned. -/
def spawnedPid : CallOutcome → Option Nat
  | ⟨.spawnServer _, a⟩ => a.result.toOption
  | _ => none

def saysOk : CallOutcome → Bool
  | ⟨.probe (.healthz _), a⟩ => match a.result with
      | .ok status => status = some "ok"
      | .error _ => false
  | _ => false

/-- A failed question is asked again, or ends in the fallback. -/
def leadsOn : CallOutcome → Bool
  | ⟨.probe (.healthz _), a⟩ => match a.result with
      | .ok _ => true
      | .error e => isRequestFailure e || fallsBack e
  | _ => true

/-- Every new process is the returned runtime's. -/
def NoStray (before : World) (r : Except Exn UnifiedRuntimeRecord)
    (after : World) : Prop :=
  ∀ pid ∈ after.processes, pid ∉ before.processes →
    ∃ started, r = .ok started ∧ started.processId = some pid

/--
The server was up in time; or the recorded number of an earlier process happens
to be the new one's, and the fallback terminates that.
-/
def Kept (fallback : Option Fallback) (manifest : Option Json)
    (runtime : UnifiedRuntimeRecord) (outcomes : List CallOutcome) (pid : Nat) :
    Prop :=
  (∃ o ∈ outcomes, saysOk o = true) ∨
    hasGet manifest = true ∧ fallback.isSome = true ∧
      runtime.processId = some pid ∧ ∀ o ∈ outcomes, leadsOn o = true

/-- Calls of a fallback that has nothing to do with processes. -/
def Aside : Effect → Prop
  | .spawnServer _ | .terminatePid _ _ | .probe (.healthz _) => False
  | _ => True

/-- A fallback that returns the record without a process, and touches none. -/
def Bystander (start : Fallback) : Prop :=
  ∀ runtime artifact, runtime.processId = none →
    Within (fun _ _ => True) Aside (start runtime artifact) fun started =>
      started.processId = none

theorem localArtifact_bystander (manifest : Option Json) :
    Bystander (LocalArtifactInferenceBackend.startFrom manifest) := by
  intro runtime artifact hpid
  unfold LocalArtifactInferenceBackend.startFrom
  split
  · exact within_bind (within_perform (Q := fun _ => True) trivial
      fun _ _ => trivial) fun modelIdentifier _ => within_pure hpid
  · exact within_raise

variable {s : Settings} {before : World} {x x' : Recorded} {α β : Type}
variable {runtime : UnifiedRuntimeRecord} {artifact : ArtifactBundle}

theorem perform_aside {w : World} {e : Effect} (h : Aside e) (a : Answer e) :
    (w.perform e a).2.processes = w.processes := by
  cases e with
  | spawnServer d => exact h.elim
  | terminatePid d pid => exact h.elim
  | dockerRun command =>
      cases hcreated : a.created <;>
        simp [World.perform, hcreated, World.withContainer]
  | _ =>
      simp only [World.perform, World.saved]
      try split
      all_goals rfl

theorem outcome_aside {e : Effect} (h : Aside e) (a : Answer e) :
    spawnedPid ⟨e, a⟩ = none ∧ saysOk ⟨e, a⟩ = false ∧
      leadsOn ⟨e, a⟩ = true := by
  cases e with
  | spawnServer d => exact h.elim
  | probe question =>
      cases question with
      | healthz url => exact h.elim
      | _ => exact ⟨rfl, rfl, rfl⟩
  | _ => exact ⟨rfl, rfl, rfl⟩

theorem exists_mem_append {P : CallOutcome → Prop} {outcomes added : List CallOutcome} :
    (∃ o ∈ outcomes ++ added, P o) ↔
      (∃ o ∈ outcomes, P o) ∨ ∃ o ∈ added, P o := by
  simp only [List.mem_append, or_and_right, exists_or]

theorem spawned_after {e : Effect} {a : Answer e}
    (h : spawnedPid ⟨e, a⟩ = none) (pid : Nat) :
    (∃ o ∈ (x.after e a).2, spawnedPid o = some pid) ↔
      ∃ o ∈ x.2, spawnedPid o = some pid := by
  rw [Recorded.exists_after, h, or_iff_left (by simp)]

/-- Nothing was spawned, nor asked of a server. -/
def Quiet (o : CallOutcome) : Prop :=
  spawnedPid o = none ∧ saysOk o = false ∧ leadsOn o = true

/-! ## Polling -/

/-- What the health check adds, and how that decides its result. -/
structure Polled (x : Recorded) (r : Except Exn Unit) (x' : Recorded) : Prop where
  processes : x'.1.processes = x.1.processes
  outcomes : ∃ added, x'.2 = x.2 ++ added ∧
    (∀ o ∈ added, spawnedPid o = none) ∧
    ((∃ o ∈ added, saysOk o = true) ↔ r = .ok ()) ∧
    ∀ e, r = .error e →
      (fallsBack e = true ↔ ∀ o ∈ added, leadsOn o = true)

theorem Polled.after {e : Effect} {a : Answer e} {r : Except Exn Unit}
    (hprocesses : (x.after e a).1.processes = x.1.processes)
    (hquiet : Quiet ⟨e, a⟩) (h : Polled (x.after e a) r x') : Polled x r x' := by
  obtain ⟨hspawned, hsaid, hleads⟩ := hquiet
  obtain ⟨hsame, added, hadded, hnone, hok, herror⟩ := h
  refine ⟨hsame.trans hprocesses, ⟨e, a⟩ :: added, ?_, ?_, ?_, fun e' he' => ?_⟩
  · rw [hadded, Recorded.after, List.append_assoc]
    rfl
  · exact List.forall_mem_cons.mpr ⟨hspawned, hnone⟩
  · rw [← hok, List.exists_mem_cons_iff, hsaid]
    simp
  · rw [herror e' he', List.forall_mem_cons, and_iff_right hleads]

theorem healthRounds_polled (url : String) (lastError : Option String)
    (rounds : Nat) (x : Recorded) :
    Sat recording (fun _ _ => True) (healthRounds url lastError rounds)
      (Polled x) x := by
  induction rounds generalizing lastError x with
  | zero =>
      refine ⟨rfl, [], by simp, by simp, by simp, fun e he => ?_⟩
      obtain rfl := Except.error.inj he
      simp [fallsBack]
  | succ rounds ih =>
      refine sat_bind'.mpr (sat_attempt.mpr (recorded_perform trivial
        fun a _ _ => ?_))
      have hperform : (x.1.perform (.probe (.healthz url)) a).1 = a.result := rfl
      rw [hperform, andThen_ok]
      cases hresult : a.result with
      | ok status =>
          by_cases hstatus : status = some "ok"
          · have hsaid : saysOk ⟨.probe (.healthz url), a⟩ = true := by
              simp [saysOk, hresult, hstatus]
            simp only [hstatus, if_true, sat_pure]
            exact ⟨rfl, [_], rfl, by simp [spawnedPid], by simp [hsaid], by simp⟩
          · simp only [hstatus, if_false]
            have hquiet : Quiet ⟨.probe (.healthz url), a⟩ := by
              simp [Quiet, spawnedPid, saysOk, leadsOn, hresult, hstatus]
            exact (ih lastError _).weaken fun r x' h => h.after rfl hquiet
      | error e =>
          cases hrequest : isRequestFailure e with
          | true =>
              simp only [hrequest, if_true]
              have hquiet : Quiet ⟨.probe (.healthz url), a⟩ := by
                simp [Quiet, spawnedPid, saysOk, leadsOn, hresult, hrequest]
              exact (ih _ _).weaken fun r x' h => h.after rfl hquiet
          | false =>
              simp only [hrequest, Bool.false_eq_true, if_false, sat_raise]
              refine ⟨rfl, [_], rfl, by simp [spawnedPid], ?_, fun e' he' => ?_⟩
              · simp [saysOk, hresult]
              · obtain rfl := Except.error.inj he'
                simp [leadsOn, hresult, hrequest]

/-! ## Spawning -/

/-- No process was spawned, and none was terminated. -/
structure Unspawned (before : World) (x : Recorded) : Prop where
  processes : x.1.processes = before.processes
  quiet : ∀ o ∈ x.2, Quiet o

theorem Unspawned.after (h : Unspawned before x) {e : Effect} (he : Aside e)
    (a : Answer e) : Unspawned before (x.after e a) where
  processes := (perform_aside he a).trans h.processes
  quiet := Recorded.forall_after.mpr ⟨h.quiet, outcome_aside he a⟩

structure OneSpawned (before : World) (pid : Nat) (x : Recorded) : Prop where
  processes : x.1.processes = pid :: before.processes
  fresh : pid ∉ before.processes
  nonzero : pid ≠ 0
  spawned : ∀ other, (∃ o ∈ x.2, spawnedPid o = some other) ↔ other = pid

def SpawnEnds (before : World) (manifest : Option Json)
    (r : Except Exn UnifiedRuntimeRecord) (x : Recorded) : Prop :=
  Unspawned before x ∨ ∃ pid, OneSpawned before pid x ∧
    match r with
    | .ok started => started.processId = some pid ∧ ∃ o ∈ x.2, saysOk o = true
    | .error e => (∀ o ∈ x.2, saysOk o = false) ∧
        (fallsBack e = true ↔
          hasGet manifest = true ∧ ∀ o ∈ x.2, leadsOn o = true)

theorem Unspawned.performs (h : Unspawned before x) {e : Effect} (he : Aside e)
    {f : e.Ret → Agent α} {post : Except Exn α → Recorded → Prop}
    (hf : ∀ answer x', Unspawned before x' →
      Sat recording (fun _ _ => True) (f answer) post x')
    (hpost : ∀ r x', Unspawned before x' → post r x') :
    Sat recording (fun _ _ => True) (perform e >>= f) post x := by
  refine sat_bind'.mpr (recorded_perform trivial fun a _ _ => ?_)
  have hafter := h.after he a
  cases (x.1.perform e a).1 with
  | ok answer => exact hf answer _ hafter
  | error e => exact hpost _ _ hafter

theorem Unspawned.spawns (h : Unspawned before x) {d : String} {pid : Nat}
    {a : Answer (.spawnServer d)} (hresult : a.result = .ok pid)
    (hallows : x.1.allows (.spawnServer d) a = true)
    (hworks : works (.spawnServer d) a = true) :
    OneSpawned before pid (x.after (.spawnServer d) a) where
  processes := by
    simp [Recorded.after, World.answer, World.perform, hresult, h.processes]
  fresh := by
    simp only [World.allows, hresult, Bool.not_eq_true',
      List.contains_eq_mem, decide_eq_false_iff_not] at hallows
    rwa [h.processes] at hallows
  nonzero := by simpa [works, hresult] using hworks
  spawned := by
    intro other
    have hnone : ¬∃ o ∈ x.2, spawnedPid o = some other := by
      rintro ⟨o, ho, hspawned⟩
      simp [(h.quiet o ho).1] at hspawned
    have hlast : spawnedPid ⟨.spawnServer d, a⟩ = some other ↔
        other = pid := by
      simp [spawnedPid, hresult, Except.toOption, eq_comm]
    rw [Recorded.exists_after, or_iff_right hnone, hlast]

theorem reuses_unspawned (h : Unspawned before x) :
    Sat recording (fun _ _ => True) (reuses runtime)
      (fun _ => Unspawned before) x := by
  unfold reuses
  split
  · exact h
  · split
    · exact h
    · exact recorded_perform trivial fun a _ _ => h.after (by trivial) a

theorem OneSpawned.polled {pid : Nat} (h : OneSpawned before pid x)
    {r : Except Exn Unit} (hpolled : Polled x r x') :
    OneSpawned before pid x' := by
  obtain ⟨hprocesses, added, hadded, hnone, -⟩ := hpolled
  refine ⟨hprocesses.trans h.processes, h.fresh, h.nonzero, fun other => ?_⟩
  have hnone : ¬∃ o ∈ added, spawnedPid o = some other := by
    rintro ⟨o, ho, hspawned⟩
    simp [hnone o ho] at hspawned
  rw [hadded, exists_mem_append, ← h.spawned other, or_iff_left hnone]

theorem OneSpawned.after {pid : Nat} (h : OneSpawned before pid x) {e : Effect}
    (he : Aside e) (a : Answer e) : OneSpawned before pid (x.after e a) where
  processes := (perform_aside he a).trans h.processes
  fresh := h.fresh
  nonzero := h.nonzero
  spawned other :=
    (spawned_after (outcome_aside he a).1 other).trans (h.spawned other)

/-- No server has said that it is up, and no question has failed for good. -/
def Silent (x : Recorded) : Prop :=
  ∀ o ∈ x.2, saysOk o = false ∧ leadsOn o = true

theorem Silent.after (h : Silent x) {e : Effect} {a : Answer e}
    (hsaid : saysOk ⟨e, a⟩ = false) (hleads : leadsOn ⟨e, a⟩ = true) :
    Silent (x.after e a) :=
  Recorded.forall_after.mpr ⟨h, hsaid, hleads⟩

theorem Silent.polled (h : Silent x) {r : Except Exn Unit}
    (hpolled : Polled x r x') :
    ((∃ o ∈ x'.2, saysOk o = true) ↔ r = .ok ()) ∧
      ∀ e, r = .error e →
        (fallsBack e = true ↔ ∀ o ∈ x'.2, leadsOn o = true) := by
  obtain ⟨-, added, hadded, -, hok, herror⟩ := hpolled
  have hsilent : ¬∃ o ∈ x.2, saysOk o = true := by
    rintro ⟨o, ho, hsaid⟩
    simp [(h o ho).1] at hsaid
  refine ⟨?_, fun e he => ?_⟩
  · rw [hadded, exists_mem_append, or_iff_right hsilent, hok]
  · rw [hadded, List.forall_mem_append, herror e he,
      and_iff_right fun o ho => (h o ho).2]

theorem awaitServer_ends {pid : Nat} {manifest : Option Json} {url : String}
    {started : Unit → UnifiedRuntimeRecord} (hone : OneSpawned before pid x)
    (hsilent : Silent x) (hget : hasGet manifest = true)
    (hstarted : ∀ u, (started u).processId = some pid) :
    Sat recording (fun _ _ => True)
      (probe .rounds >>= fun rounds =>
        healthRounds url none rounds >>= fun u => pure (started u))
      (SpawnEnds before manifest) x := by
  refine sat_bind'.mpr (recorded_perform trivial fun a _ hworks => ?_)
  have hperform : (x.1.perform (.probe .rounds) a).1 = a.result := rfl
  have hone := hone.after (by trivial : Aside (.probe .rounds)) a
  have hsilent := hsilent.after (rfl : saysOk ⟨.probe .rounds, a⟩ = false) rfl
  rw [hperform]
  cases hresult : a.result with
  | error e => simp [works, hresult, World.isOk] at hworks
  | ok rounds =>
      refine Sat.bind (healthRounds_polled url none rounds _)
        (fun u x' hpolled => ?_) fun e x' hpolled => ?_
      · obtain ⟨hok, -⟩ := hsilent.polled hpolled
        exact .inr ⟨pid, hone.polled hpolled, hstarted u, hok.mpr rfl⟩
      · obtain ⟨hok, herror⟩ := hsilent.polled hpolled
        refine .inr ⟨pid, hone.polled hpolled, fun o ho => ?_, ?_⟩
        · rw [← Bool.not_eq_true]
          exact fun hsaid => by simpa using hok.mp ⟨o, ho, hsaid⟩
        · rw [herror e rfl, and_iff_right hget]

theorem spawnRuntime_ends (s : Settings) (manifest : Option Json)
    (runtime : UnifiedRuntimeRecord) (artifact : ArtifactBundle)
    (before : World) :
    Sat recording (fun _ _ => True) (spawnRuntime s manifest runtime artifact)
      (SpawnEnds before manifest) (before, []) := by
  have hstart : Unspawned before (before, []) := ⟨rfl, by simp⟩
  unfold spawnRuntime
  split
  · exact .inl hstart
  · refine Sat.bind (reuses_unspawned hstart) (fun reused x₁ h₁ => ?_)
      fun e x₁ h₁ => .inl h₁
    split
    · exact .inl h₁
    · refine h₁.performs (by trivial) (fun _ x₂ h₂ => ?_) fun _ _ h => .inl h
      refine h₂.performs (by trivial) (fun port x₃ h₃ => ?_) fun _ _ h => .inl h
      refine sat_bind'.mpr (recorded_perform trivial fun a hallows hworks => ?_)
      have hperform : (x₃.1.perform (.spawnServer runtime.deploymentId) a).1 =
          a.result := rfl
      rw [hperform]
      cases hresult : a.result with
      | error e =>
          refine .inl ⟨?_, Recorded.forall_after.mpr ⟨h₃.quiet, ?_⟩⟩
          · simpa [Recorded.after, World.answer, World.perform, hresult]
              using h₃.processes
          · simp [Quiet, spawnedPid, saysOk, leadsOn, hresult,
              Except.toOption]
      | ok pid =>
          have hone := h₃.spawns hresult hallows hworks
          have hsilent : Silent (x₃.after (.spawnServer runtime.deploymentId) a) :=
            Silent.after (fun o ho => (h₃.quiet o ho).2) rfl rfl
          rw [andThen_ok]
          split
          · rename_i hget
            exact awaitServer_ends hone hsilent hget fun _ => rfl
          · rename_i hget
            refine .inr ⟨pid, hone, fun o ho => (hsilent o ho).1, ?_⟩
            simp [fallsBack, hget]

/-! ## Falling back -/

variable {fallback : Option Fallback} {manifest : Option Json}

/-- No process is left exactly if every one that was spawned is kept. -/
def StrayIff (fallback : Option Fallback) (manifest : Option Json)
    (runtime : UnifiedRuntimeRecord) (before : World)
    (r : Except Exn UnifiedRuntimeRecord) (x : Recorded) : Prop :=
  NoStray before r x.1 ↔
    ∀ pid, (∃ o ∈ x.2, spawnedPid o = some pid) →
      Kept fallback manifest runtime x.2 pid

/-- At most processes of before, and no new one. -/
structure Fewer (before : World) (x : Recorded) : Prop where
  processes : ∀ pid ∈ x.1.processes, pid ∈ before.processes
  unspawned : ∀ o ∈ x.2, spawnedPid o = none

theorem Unspawned.fewer (h : Unspawned before x) : Fewer before x :=
  ⟨fun _ hpid => h.processes ▸ hpid, fun o ho => (h.quiet o ho).1⟩

theorem Fewer.strayIff (h : Fewer before x)
    (r : Except Exn UnifiedRuntimeRecord) :
    StrayIff fallback manifest runtime before r x := by
  refine iff_of_true (fun pid hpid hnew => absurd (h.processes pid hpid) hnew) ?_
  rintro pid ⟨o, ho, hspawned⟩
  simp [h.unspawned o ho] at hspawned

theorem Fewer.after (h : Fewer before x) {e : Effect} {a : Answer e}
    (hprocesses : ∀ pid ∈ (x.after e a).1.processes, pid ∈ x.1.processes)
    (hspawned : spawnedPid ⟨e, a⟩ = none) : Fewer before (x.after e a) where
  processes pid hpid := h.processes pid (hprocesses pid hpid)
  unspawned := Recorded.forall_after.mpr ⟨h.unspawned, hspawned⟩

theorem bystander_keeps {p : Agent α} {Q : α → Prop} {I : Recorded → Prop}
    (hp : Within (fun _ _ => True) Aside p Q)
    (hI : ∀ x e (a : Answer e), I x → Aside e → I (x.after e a)) (hx : I x) :
    Sat recording (fun _ _ => True) p
      (fun r x' => I x' ∧ ∀ a, r = .ok a → Q a) x := by
  refine (Always.sat_keeping hp ?_ hx).mono (fun _ _ _ => trivial) fun _ _ h => h
  rintro x₁ e r ⟨w, outcomes⟩ hx₁ he ⟨a, -, -, hanswer, rfl⟩
  refine ⟨trivial, ?_⟩
  obtain rfl : (x₁.1.answer e a).2 = w := congrArg Prod.snd hanswer
  exact hI x₁ e a hx₁ he

theorem terminateRecordedPid_recorded
    {post : Except Exn Unit → Recorded → Prop}
    (hzero : runtime.processId.getD 0 = 0 → post (.ok ()) x)
    (hpid : ∀ a : Answer
        (.terminatePid runtime.deploymentId (runtime.processId.getD 0)),
      runtime.processId.getD 0 ≠ 0 → a.tookEffect = true →
      post (.ok ()) (x.after
        (.terminatePid runtime.deploymentId (runtime.processId.getD 0)) a)) :
    Sat recording (fun _ _ => True) (terminateRecordedPid runtime) post x := by
  refine sat_onlyIf.mpr ?_
  by_cases h : runtime.processId.getD 0 = 0
  · simpa [h] using hzero h
  · rw [if_pos (by simpa using h)]
    exact recorded_perform trivial fun a _ hworks => hpid a h hworks

theorem processes_after_terminate {d : String} {pid : Nat}
    {a : Answer (.terminatePid d pid)} (h : a.tookEffect = true) :
    (x.after (.terminatePid d pid) a).1.processes =
      x.1.processes.filter (· ≠ pid) := by
  simp [Recorded.after, World.answer, World.perform, h]

theorem Fewer.falls_back (h : Fewer before x) {start : Fallback}
    (hstart : Bystander start) (reason : String) :
    Sat recording (fun _ _ => True)
      (fallBack (some start) runtime artifact reason)
      (fun _ x' => Fewer before x') x := by
  have hrest : ∀ x, Fewer before x → Sat recording (fun _ _ => True)
      (start { runtime with processId := none, runtimeUrl := none } artifact)
      (fun _ x' => Fewer before x') x := fun x hx =>
    (bystander_keeps (hstart _ _ rfl)
      (fun x e a hx he => hx.after (fun pid hpid => perform_aside he a ▸ hpid)
        (outcome_aside he a).1) hx).weaken fun _ _ h => h.1
  have hstarts : ∀ x, Fewer before x → Sat recording (fun _ _ => True)
      (start { runtime with processId := none, runtimeUrl := none } artifact >>=
        fun started => pure { started with
          backendName := some "fallback-local-artifact-backend"
          runtimeMode := some "fallback" })
      (fun _ x' => Fewer before x') x := fun x hx =>
    Sat.bind (hrest x hx) (fun _ _ h => h) fun _ _ h => h
  refine sat_bind'.mpr (terminateRecordedPid_recorded (fun _ => hstarts x h)
    fun a _ heffect => hstarts _ (h.after (fun pid hpid => ?_) rfl))
  rw [processes_after_terminate heffect] at hpid
  exact List.mem_of_mem_filter hpid

/-- One process was spawned, and the recorded one was terminated. -/
structure Fallen (before : World) (runtime : UnifiedRuntimeRecord) (pid : Nat)
    (x : Recorded) : Prop where
  spawned : ∀ other, (∃ o ∈ x.2, spawnedPid o = some other) ↔ other = pid
  fresh : pid ∉ before.processes
  silent : Silent x
  mem : pid ∈ x.1.processes ↔ runtime.processId ≠ some pid
  others : ∀ other ∈ x.1.processes, other ≠ pid → other ∈ before.processes

theorem Fallen.after {pid : Nat} (h : Fallen before runtime pid x) {e : Effect}
    (he : Aside e) (a : Answer e) : Fallen before runtime pid (x.after e a) := by
  have hprocesses : (x.after e a).1.processes = x.1.processes :=
    perform_aside he a
  obtain ⟨hspawned, hsaid, hleads⟩ := outcome_aside he a
  exact ⟨fun other => (spawned_after hspawned other).trans (h.spawned other),
    h.fresh, h.silent.after hsaid hleads, hprocesses ▸ h.mem,
    hprocesses ▸ h.others⟩

theorem Fallen.strayIff {pid : Nat} (h : Fallen before runtime pid x)
    {r : Except Exn UnifiedRuntimeRecord} {start : Fallback}
    (hget : hasGet manifest = true)
    (hr : ∀ started, r = .ok started → started.processId = none) :
    StrayIff (some start) manifest runtime before r x := by
  have hkept : (∀ other, (∃ o ∈ x.2, spawnedPid o = some other) →
      Kept (some start) manifest runtime x.2 other) ↔
        runtime.processId = some pid := by
    have hsilent : ¬∃ o ∈ x.2, saysOk o = true := by
      rintro ⟨o, ho, hsaid⟩
      simp [(h.silent o ho).1] at hsaid
    have hleads : ∀ o ∈ x.2, leadsOn o = true := fun o ho => (h.silent o ho).2
    simp only [h.spawned, forall_eq, Kept, hsilent, false_or, hget,
      Option.isSome_some, true_and]
    exact ⟨fun hk => hk.1, fun hk => ⟨hk, hleads⟩⟩
  rw [StrayIff, hkept]
  constructor
  · intro hstray
    by_contra hne
    obtain ⟨started, rfl, hstarted⟩ := hstray pid (h.mem.mpr hne) h.fresh
    simp [hr started rfl] at hstarted
  · intro heq other hother hnew
    by_cases hpid : other = pid
    · subst hpid
      exact absurd heq (h.mem.mp hother)
    · exact absurd (h.others other hother hpid) hnew

theorem OneSpawned.falls_back {pid : Nat} (h : OneSpawned before pid x)
    (hsilent : Silent x) {start : Fallback} (hstart : Bystander start)
    (hget : hasGet manifest = true) (reason : String) :
    Sat recording (fun _ _ => True)
      (fallBack (some start) runtime artifact reason)
      (StrayIff (some start) manifest runtime before) x := by
  have hstarts : ∀ x, Fallen before runtime pid x →
      Sat recording (fun _ _ => True)
        (start { runtime with processId := none, runtimeUrl := none } artifact >>=
          fun started => pure { started with
            backendName := some "fallback-local-artifact-backend"
            runtimeMode := some "fallback" })
        (StrayIff (some start) manifest runtime before) x := by
    intro x hx
    refine Sat.bind (bystander_keeps (hstart _ _ rfl)
      (fun x e a hx he => hx.after he a) hx) (fun started x' h => ?_)
      fun e x' h => h.1.strayIff hget (by simp)
    refine h.1.strayIff hget fun final hfinal => ?_
    obtain rfl := Except.ok.inj hfinal
    exact h.2 started rfl
  refine sat_bind'.mpr (terminateRecordedPid_recorded (fun hzero => ?_)
    fun a hnonzero heffect => ?_)
  · refine hstarts x ⟨h.spawned, h.fresh, hsilent, ?_, ?_⟩
    · refine iff_of_true (by simp [h.processes]) fun heq => h.nonzero ?_
      simpa [heq] using hzero
    · intro other hother hne
      exact (List.mem_cons.mp (h.processes ▸ hother)).resolve_left hne
  · have hrecorded : runtime.processId =
        some (runtime.processId.getD 0) := by
      cases hpid : runtime.processId <;> simp_all
    have hprocesses := processes_after_terminate (x := x) heffect
    rw [h.processes] at hprocesses
    refine hstarts _
      ⟨fun other => (spawned_after rfl other).trans (h.spawned other), h.fresh,
        hsilent.after rfl rfl, ?_, ?_⟩
    · have hsame : pid = runtime.processId.getD 0 ↔
          runtime.processId = some pid :=
        ⟨fun heq => heq ▸ hrecorded, fun heq => by simp [heq]⟩
      rw [hprocesses, List.mem_filter, decide_eq_true_eq]
      simp only [List.mem_cons_self, true_and, ne_eq, hsame]
    · intro other hother hne
      rw [hprocesses] at hother
      exact (List.mem_cons.mp (List.mem_of_mem_filter hother)).resolve_left hne

theorem OneSpawned.kept_iff {pid : Nat} (h : OneSpawned before pid x) :
    (∀ other, (∃ o ∈ x.2, spawnedPid o = some other) →
      Kept fallback manifest runtime x.2 other) ↔
        Kept fallback manifest runtime x.2 pid := by
  simp only [h.spawned, forall_eq]

theorem OneSpawned.strays {pid : Nat} (h : OneSpawned before pid x)
    (hkept : ¬Kept fallback manifest runtime x.2 pid) (e : Exn) :
    StrayIff fallback manifest runtime before (.error e) x := by
  refine iff_of_false (fun hstray => ?_) (by rwa [h.kept_iff])
  obtain ⟨started, hr, -⟩ := hstray pid (by simp [h.processes]) h.fresh
  cases hr

theorem OneSpawned.returns {pid : Nat} (h : OneSpawned before pid x)
    {started : UnifiedRuntimeRecord} (hpid : started.processId = some pid)
    (hok : ∃ o ∈ x.2, saysOk o = true) :
    StrayIff fallback manifest runtime before (.ok started) x := by
  refine iff_of_true (fun other hother hnew => ⟨started, rfl, ?_⟩)
    (h.kept_iff.mpr (.inl hok))
  rcases List.mem_cons.mp (h.processes ▸ hother) with rfl | hold
  · exact hpid
  · exact absurd hold hnew

theorem startWith_recorded
    (hfallback : ∀ start ∈ fallback, Bystander start) (before : World) :
    Sat recording (fun _ _ => True)
      (startWith s fallback manifest runtime artifact)
      (StrayIff fallback manifest runtime before) (before, []) := by
  refine sat_bind'.mpr (sat_attempt.mpr
    ((spawnRuntime_ends s manifest runtime artifact before).weaken ?_))
  rintro r x (hnone | ⟨pid, hone, hends⟩)
  · cases r with
    | ok started => exact hnone.fewer.strayIff _
    | error e =>
        rw [andThen_ok]
        dsimp only
        split
        · cases fallback with
          | none => exact hnone.fewer.strayIff _
          | some start =>
              exact (hnone.fewer.falls_back (hfallback start rfl) _).weaken
                fun r x' h => h.strayIff r
        · exact hnone.fewer.strayIff _
  · cases r with
    | ok started => exact hone.returns hends.1 hends.2
    | error e =>
        obtain ⟨hsaid, hleads⟩ := hends
        have hunsaid : ¬∃ o ∈ x.2, saysOk o = true := by
          rintro ⟨o, ho, hok⟩
          simp [hsaid o ho] at hok
        rw [andThen_ok]
        dsimp only
        split
        · rename_i hfalls
          obtain ⟨hget, hleads⟩ := hleads.mp hfalls
          cases fallback with
          | none => exact hone.strays (by simp [Kept, hunsaid]) _
          | some start =>
              exact hone.falls_back (fun o ho => ⟨hsaid o ho, hleads o ho⟩)
                (hfallback start rfl) hget _
        · rename_i hfalls
          refine hone.strays (fun hkept => ?_) _
          rcases hkept with hsaid | ⟨hget, -, -, hall⟩
          · exact hunsaid hsaid
          · exact hfalls (hleads.mpr ⟨hget, hall⟩)

/--
No process is left behind exactly if each one that is spawned is up before the
polling ends, or has the number that the record had from an earlier one.
-/
theorem startWith_noStray_iff {before after : World}
    {r : Except Exn UnifiedRuntimeRecord} {outcomes : List CallOutcome}
    (hfallback : ∀ start ∈ fallback, Bystander start)
    (h : Exec recording (startWith s fallback manifest runtime artifact)
      (before, []) r (after, outcomes)) :
    NoStray before r after ↔
      ∀ pid, (∃ o ∈ outcomes, spawnedPid o = some pid) →
        Kept fallback manifest runtime outcomes pid :=
  (startWith_recorded hfallback before).exec h

/-! ## A server that does not come up -/

def serverRuntime : UnifiedRuntimeRecord where
  deploymentId := "llama-1"
  workloadId := "llama"
  hotkey := "hotkey"
  workloadKind := .inference
  status := .starting
  runtimeDir := some "llama-1.runtime"

def serverArtifact : ArtifactBundle where
  image := "llama:8b"
  stagedArtifactPath := "llama-1.artifact.json"
  runtimeKind := "hf-causal-lm"
  modelIdentifier := some "llama:8b"
  multiNode := none

def causalManifest : Option Json :=
  some (.obj [("runtime_kind", .str "hf-causal-lm"),
    ("model_identifier", .str "llama:8b")])

def serverHost (status : String) : Environment := fun w e =>
  match e with
  | .probe (.healthz _) => { result := .ok (some status) }
  | e => cooperative [] (fun _ => none) (fun _ => none) w e

def startOn (status : String) :
    Option (Except Exn UnifiedRuntimeRecord × Recorded) :=
  rerun (serverHost status)
    (startWith {} (some (LocalArtifactInferenceBackend.startFrom causalManifest))
      causalManifest serverRuntime serverArtifact) (World.init {}, [])

theorem startWith_noStray_iff_up :
    ∃ r after outcomes, startOn "ok" = some (r, after, outcomes) ∧
      NoStray (World.init {}) r after := by
  have hup : (startOn "ok").any fun run => run.2.2.any saysOk := by decide +kernel
  obtain ⟨⟨r, after, outcomes⟩, hrun, hsaid⟩ := (Option.any_eq_true _ _).mp hup
  refine ⟨r, after, outcomes, hrun, ?_⟩
  refine (startWith_noStray_iff ?_ (rerun_exec hrun)).mpr fun pid _ =>
    .inl (List.any_eq_true.mp hsaid)
  rintro start ⟨⟩
  exact localArtifact_bystander causalManifest

def leavesProcess : Except Exn UnifiedRuntimeRecord × Recorded → Bool
  | (.ok started, after, _) =>
      started.runtimeMode = some "fallback" ∧ started.processId = none ∧
        1 ∈ after.processes
  | _ => false

theorem process_left_running :
    ∃ started after outcomes,
      Exec recording
        (startWith {} (some
            (LocalArtifactInferenceBackend.startFrom causalManifest))
          causalManifest serverRuntime serverArtifact)
        (World.init {}, []) (.ok started) (after, outcomes) ∧
      started.runtimeMode = some "fallback" ∧
      ¬NoStray (World.init {}) (.ok started) after := by
  have hleaves : (startOn "loading").any leavesProcess := by decide +kernel
  obtain ⟨⟨r, after, outcomes⟩, hrun, hleft⟩ := (Option.any_eq_true _ _).mp hleaves
  cases r with
  | error e => simp [leavesProcess] at hleft
  | ok started =>
      simp only [leavesProcess, decide_eq_true_eq] at hleft
      obtain ⟨hmode, hnone, hrunning⟩ := hleft
      refine ⟨started, after, outcomes, rerun_exec hrun, hmode, fun hclean => ?_⟩
      obtain ⟨started', hstarted, hpid⟩ := hclean 1 hrunning (by simp [World.init])
      obtain rfl := Except.ok.inj hstarted
      simp [hnone] at hpid

end ProcessInferenceBackend

end NodeAgent
