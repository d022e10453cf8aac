import NodeAgent.Application.Resume

/-!
# A ready pod has a container that docker started

The log says what the last `docker run` or `docker start` for a deployment did.
A pod's record is written as ready, and reported as that, only after one that
started the record's container.
-/

namespace NodeAgent

open Effectful Program Agent

/-- A `docker run` or `docker start` of `d`, with the container it started. -/
def startOf (d : String) (event : Event) : Option (Option String) :=
  match event with
  | ⟨.dockerRun command, .ok completed⟩ =>
      if command.owner = d then
        some (if completed.returncode = 0 then some (strip completed.stdout)
          else none)
      else none
  | ⟨.dockerRun command, .error _⟩ =>
      if command.owner = d then some none else none
  | ⟨.dockerStart owner target, r⟩ =>
      if owner = d then
        some (if World.exitedZero r then some target else none)
      else none
  | _ => none

def lastStart (log : List Event) (d : String) : Option (Option String) :=
  (log.filterMap (startOf d)).getLast?

theorem lastStart_append (log : List Event) (d : String) (event : Event) :
    lastStart (log ++ [event]) d = (startOf d event).or (lastStart log d) := by
  cases h : startOf d event <;> simp [lastStart, List.filterMap_append, h]

def Started (w : World) (runtime : UnifiedRuntimeRecord) : Prop :=
  ∃ c, runtime.containerId = some c ∧
    lastStart w.log runtime.deploymentId = some (some c)

/-- When a pod may be written as ready, and when it may be reported. -/
def ReadyGuard (w : World) : Effect → Prop
  | .upsertRuntime runtime =>
      runtime.workloadKind = .pod → runtime.status = .ready → Started w runtime
  | .updateDeploymentStatus update => update.state = .ready → ∀ runtime,
      w.runtimes.get? update.deploymentId = some runtime →
        runtime.workloadKind = .pod →
          runtime.status = .ready ∧ Started w runtime
  | _ => True

/-- No devices are handed to a suspended pod that has no container. -/
def Careful (w : World) : (e : Effect) → Except Exn e.Ret → Prop
  | .allocate d _ _, .ok _ | .allocateSpecific d _, .ok _ => ∀ runtime,
      w.runtimes.get? d = some runtime → runtime.workloadKind = .pod →
        runtime.status = .suspended → truthy runtime.containerId = true
  | _, _ => True

def careful : Machine Effect Effect.Ret Exn World where
  Step w e r w' := (host anyResult).Step w e r w' ∧ Careful w e r

theorem careful_refines : Refines careful := fun _ _ _ _ h => h.1.2

variable {s : Settings} {runtime : UnifiedRuntimeRecord} {d : String}
variable {α β : Type}

abbrev StartsFirst (p : Agent α) : Prop :=
  Keeps careful ReadyGuard (fun _ => True) p

theorem startsFirst_perform {e : Effect} (he : ∀ w, ReadyGuard w e) :
    StartsFirst (perform e) :=
  keeps_perform (fun w _ => he w) fun _ _ _ _ _ => trivial

theorem readyGuard_backendCall {e : Effect}
    (he : BackendCall anyContainer d e) (w : World) : ReadyGuard w e := by
  cases e <;> first | exact trivial | exact absurd he id

theorem startsFirst_backend {p : Agent α} {Q : α → Prop}
    (hp : Within (Typed s anyContainer) (BackendCall anyContainer d) p Q) :
    StartsFirst p :=
  keeps_of_always hp.always (fun w _ _ he => readyGuard_backendCall he w)
    fun _ _ _ _ _ _ hstep =>
      ⟨host_typed s (careful_refines.host hstep), trivial⟩

theorem startsFirst_bind {p : Agent α} {f : α → Agent β} {Q : α → Prop}
    (hp : Within (Typed s anyContainer) (BackendCall anyContainer d) p Q)
    (hf : ∀ a, Q a → StartsFirst (f a)) : StartsFirst (p >>= f) := by
  intro w _
  refine sat_bind'.mpr ((backend_host careful_refines
    (fun w _ he => readyGuard_backendCall he w) hp).weaken ?_)
  rintro r w' ⟨hr, -⟩
  cases r with
  | ok a => exact hf a (hr a rfl) w' trivial
  | error x => exact trivial

theorem startsFirst_attempt {p : Agent α} {f : Except Exn α → Agent β}
    {Q : α → Prop}
    (hp : Within (Typed s anyContainer) (BackendCall anyContainer d) p Q)
    (hok : ∀ a, Q a → StartsFirst (f (.ok a)))
    (herror : ∀ x, StartsFirst (f (.error x))) :
    StartsFirst (attempt p >>= f) := by
  refine startsFirst_bind (Q := fun r => ∀ a, r = .ok a → Q a)
    (within_attempt (hp.weaken ?_) ?_) fun r hr => ?_
  · rintro a ha b heq
    cases heq
    exact ha
  · rintro x b heq
    cases heq
  · cases r with
    | ok a => exact hok a (hr a rfl)
    | error x => exact herror x

theorem startsFirst_upsert
    (h : runtime.workloadKind = .pod → runtime.status ≠ .ready) :
    StartsFirst (upsertRuntime runtime) :=
  startsFirst_perform fun _ hkind hready => absurd hready (h hkind)

theorem startsFirst_report {update : DeploymentStatusUpdate}
    (h : update.state ≠ .ready) : StartsFirst (report update) :=
  keeps_ignoring (startsFirst_perform fun _ hready => absurd hready h)

/-! ## Handlers that make nothing ready -/

theorem failRuntime_startsFirst (error : String) :
    StartsFirst (failRuntime runtime error) := by
  unfold failRuntime
  refine keeps_bind (startsFirst_perform fun _ => trivial) fun _ => ?_
  refine keeps_bind (startsFirst_upsert fun _ => by simp) fun _ => ?_
  exact startsFirst_report (by simp)

theorem terminateRuntime_startsFirst (reported : Bool) :
    StartsFirst (terminateRuntime s runtime reported) := by
  unfold terminateRuntime
  refine keeps_bind (startsFirst_perform fun _ => trivial) fun _ => ?_
  refine keeps_bind (keeps_ignoring (startsFirst_backend
    (Within.backend (stopBackend_stops (Ledger.belongs_any runtime))))) fun _ => ?_
  refine keeps_bind (startsFirst_upsert fun _ => by simp) fun _ => ?_
  exact keeps_onlyIf fun _ => startsFirst_report (by simp)

theorem suspendRuntime_startsFirst :
    StartsFirst (suspendRuntime s runtime) := by
  unfold suspendRuntime
  refine keeps_bind (startsFirst_perform fun _ => trivial) fun _ => ?_
  refine startsFirst_bind (Within.backend <| pausedOrMarked_stops
    (Ledger.belongs_any runtime)) fun paused hpaused => ?_
  refine keeps_bind (startsFirst_upsert fun _ => by simp [hpaused.2.2])
    fun _ => ?_
  exact startsFirst_report (by simp)

theorem allocateOrFail_startsFirst (n : Int) :
    StartsFirst (allocateOrFail runtime n) := by
  unfold allocateOrFail
  refine startsFirst_bind (s := {}) (d := runtime.deploymentId)
    (foreignBusyDevices_within backendCall_probe trivial) fun avoid _ => ?_
  refine keeps_bind (keeps_attempt (startsFirst_perform fun _ => trivial))
    fun r => ?_
  split
  · exact keeps_pure _
  · split
    · exact keeps_bind (failRuntime_startsFirst _) fun _ => keeps_pure _
    · exact keeps_raise _

/-! ## Writing a runtime as ready -/

theorem Started.answer {w : World} (h : Started w runtime) {e : Effect}
    (a : Answer e)
    (he : startOf runtime.deploymentId ⟨e, (w.perform e a).1⟩ = none) :
    Started (w.answer e a).2 runtime := by
  obtain ⟨c, hcontainer, hlast⟩ := h
  refine ⟨c, hcontainer, ?_⟩
  rw [log_answer, lastStart_append, he, Option.none_or, hlast]

theorem writeReady_startsFirst {w : World}
    (h : runtime.workloadKind = .pod →
      runtime.status = .ready ∧ Started w runtime) :
    Sat careful ReadyGuard (upsertRuntime runtime >>= fun _ =>
      reportDeploymentReady runtime) (fun _ _ => True) w := by
  refine sat_step_bind careful_refines (fun hkind _ => (h hkind).2)
    fun a _ _ => ?_
  have hrecord : (w.answer (.upsertRuntime runtime) a).2.runtimes.get?
      runtime.deploymentId = some runtime := by
    simp [World.answer, World.perform, World.saved, Table.get?_upsert]
  cases (w.perform (.upsertRuntime runtime) a).1 with
  | error x => trivial
  | ok =>
      refine sat_ignoring.mpr (sat_step_perform careful_refines ?_
        fun b _ _ => ?_)
      · intro _ runtime' hget hkind
        rw [hrecord] at hget
        cases hget
        exact ⟨(h hkind).1, (h hkind).2.answer a rfl⟩
      · split
        · trivial
        · split <;> trivial

theorem launchInference_startsFirst
    (hkind : runtime.workloadKind = .inference) (workload : WorkloadSpec)
    (artifact : ArtifactBundle) :
    StartsFirst (launchInference s runtime workload artifact) := by
  unfold launchInference
  refine keeps_bind (startsFirst_perform fun _ => trivial) fun dir => ?_
  refine keeps_bind (startsFirst_upsert fun h => ?_) fun _ => ?_
  · simp [startingInference]
  · have hbelongs : Belongs s anyContainer runtime.deploymentId
        (startingInference s runtime workload artifact dir) :=
      Ledger.belongs_any _
    refine startsFirst_attempt
      (startRuntime_within (by exact hkind) hbelongs artifact) ?_ ?_
    · rintro started ⟨-, hkept, -⟩ w -
      refine writeReady_startsFirst fun hpod => ?_
      have hinference : (readyInference s started).workloadKind = .inference :=
        hkept.workloadKind.trans hkind
      rw [hinference] at hpod
      cases hpod
    · intro x
      split
      · rename_i heq
        cases heq
      · exact failRuntime_startsFirst _
      · exact keeps_raise _

theorem startInferenceRuntime_startsFirst
    (hkind : runtime.workloadKind = .inference) (workload : WorkloadSpec) :
    StartsFirst (startInferenceRuntime s runtime workload) := by
  unfold startInferenceRuntime
  refine keeps_bind (allocateOrFail_startsFirst _) fun allocated => ?_
  cases allocated with
  | none => exact keeps_pure _
  | some devices =>
      refine startsFirst_attempt (s := s) (d := runtime.deploymentId)
        (Within.files (stageFor_files (by rfl) workload)) (fun artifact _ => ?_) fun x => ?_
      · exact launchInference_startsFirst (by exact hkind) _ _
      · split
        · rename_i heq
          cases heq
        · exact failRuntime_startsFirst _
        · exact keeps_raise _

theorem startVmRuntime_startsFirst (hkind : runtime.workloadKind ≠ .pod)
    (workload : WorkloadSpec) :
    StartsFirst (startVmRuntime s runtime workload) := by
  unfold startVmRuntime
  refine keeps_bind (allocateOrFail_startsFirst _) fun allocated => ?_
  cases allocated with
  | none => exact keeps_pure _
  | some devices =>
      refine keeps_bind (startsFirst_upsert fun h => absurd h hkind)
        fun _ => ?_
      have hbelongs : Belongs s anyContainer runtime.deploymentId
          (startingVm runtime devices (requestedGpus workload)) :=
        Ledger.belongs_any _
      refine startsFirst_attempt (Within.files (startVm_files hbelongs)) ?_ ?_
      · rintro started ⟨-, hkept, -⟩ w -
        refine writeReady_startsFirst fun hpod => ?_
        have hsame : started.workloadKind = runtime.workloadKind :=
          hkept.workloadKind
        exact absurd (hsame.symm.trans hpod) hkind
      · intro x
        split
        · rename_i heq
          cases heq
        · exact failRuntime_startsFirst _
        · exact keeps_raise _

/-! ## Starting a pod -/

theorem lastStart_probes {p : Agent α} {Q : α → Prop}
    {last : Option (Option String)}
    (hp : Within (fun _ _ => True) (fun e => ∃ q, e = Effect.probe q) p Q) :
    Keeps careful ReadyGuard (fun w => lastStart w.log d = last) p := by
  refine keeps_of_always hp.always ?_ ?_
  · rintro w e - ⟨q, rfl⟩
    exact trivial
  · rintro w e r w' h ⟨q, rfl⟩ hstep
    refine ⟨trivial, ?_⟩
    obtain ⟨a, -, -, rfl⟩ := careful_refines.performed hstep
    rw [lastStart_append]
    exact h

theorem dockerRun_lastStart (command : DockerRun) (error : Exn → Exn)
    (w : World) :
    Sat careful ReadyGuard (orNotAvailable error (dockerRun command))
      (fun r w' => ∀ result, r = .ok result → result.returncode = 0 →
        lastStart w'.log command.owner = some (some (strip result.stdout)))
      w := by
  unfold orNotAvailable
  refine sat_step_attempt careful_refines trivial fun a _ _ => ?_
  have hlog := log_answer (w := w) a
  cases hresult : (w.perform (.dockerRun command) a).1 with
  | ok completed =>
      rintro result heq hzero
      cases heq
      rw [hlog, lastStart_append, hresult]
      simp [startOf, hzero]
  | error x =>
      dsimp only
      split <;> exact fun result heq => nomatch heq

theorem processStartPod_started (workload : WorkloadSpec) (w : World) :
    Sat careful ReadyGuard (ProcessPodBackend.startPod s runtime workload)
      (fun r w' => ∀ started, r = .ok started → started.status = .ready ∧
        Started w' started) w := by
  have hprobe : ∀ question : Probe, ∃ q, Effect.probe question = .probe q :=
    fun question => ⟨question, rfl⟩
  have hraised : ∀ (x : Exn) (w' : World) (started : UnifiedRuntimeRecord),
      Except.error x = .ok started →
        started.status = .ready ∧ Started w' started :=
    fun _ _ _ h => nomatch h
  unfold ProcessPodBackend.startPod
  refine ((startsFirst_backend (s := s) (Within.backend <| removeContainer_stops
    rfl (.inl rfl))) w trivial).andThen hraised fun _ w₁ _ => ?_
  have hmode : StartsFirst (onlyIf (ProcessPodBackend.podGpus runtime ≠ .none)
      (probe .gpuMode)) :=
    keeps_onlyIf fun _ => startsFirst_perform fun _ => trivial
  refine (hmode w₁ trivial).andThen hraised fun _ w₂ _ => ?_
  split
  · exact hraised _ _
  · rename_i image _
    refine (dockerRun_lastStart _ _ w₂).andThen hraised
      fun result w₃ hlast => ?_
    split
    · exact hraised _ _
    · rename_i hzero
      have hstarted := hlast result rfl (not_not.mp hzero)
      refine (lastStart_probes (readBackSshPort_within hprobe _ _) w₃
        hstarted).andThen hraised fun sshPort w₄ hstarted => ?_
      refine (lastStart_probes (verifyPorts_within hprobe _ _) w₄
        hstarted).andThen hraised fun ports w₅ hstarted => ?_
      rintro started heq
      cases heq
      exact ⟨rfl, _, rfl, hstarted⟩

theorem launchPod_startsFirst (hs : s.podBackend = .process)
    (workload : WorkloadSpec) (setup : PodSetup) :
    StartsFirst (launchPod s runtime workload setup) := by
  unfold launchPod PodBackend.startPod PodBackend.waitForReady
  rw [hs]
  refine keeps_bind (startsFirst_upsert fun _ => by simp [startingPod])
    fun _ w _ => ?_
  refine sat_bind'.mpr (sat_attempt.mpr
    ((processStartPod_started workload w).weaken fun r w₁ hstarted => ?_))
  rw [andThen_ok]
  cases r with
  | error x =>
      dsimp only
      split
      · rename_i heq
        cases heq
      · exact failRuntime_startsFirst _ w₁ trivial
      · exact trivial
  | ok started =>
      obtain ⟨hready, c, hcontainer, hlast⟩ := hstarted started rfl
      have hwait : Keeps careful ReadyGuard
          (fun w => lastStart w.log started.deploymentId = some (some c))
          (ProcessPodBackend.waitForReady started) :=
        lastStart_probes (processWaitForReady_within
          (fun question => ⟨question, rfl⟩) started)
      refine (hwait w₁ hlast).andThen (fun _ _ => trivial)
        fun verified w₂ hlast => ?_
      exact writeReady_startsFirst fun _ => ⟨hready, c, hcontainer, hlast⟩

theorem startPodRuntime_startsFirst (hs : s.podBackend = .process)
    (workload : WorkloadSpec) :
    StartsFirst (startPodRuntime s runtime workload) := by
  have hprobe : ∀ question, BackendCall anyContainer runtime.deploymentId
      (.probe question) := backendCall_probe
  unfold startPodRuntime
  refine startsFirst_attempt (s := s) (setUpSsh_within hprobe s)
    (fun ssh _ => ?_) fun x => ?_
  · obtain ⟨sshPort, privateKey, publicKey⟩ := ssh
    refine startsFirst_bind (s := s) (assignPorts_within hprobe _ _ _)
      fun ports _ => ?_
    refine keeps_bind (allocateOrFail_startsFirst _) fun allocated => ?_
    cases allocated with
    | none => exact keeps_pure _
    | some devices =>
        dsimp only
        split
        · exact keeps_raise _
        · refine keeps_bind (keeps_attempt (startsFirst_perform fun _ =>
            trivial)) fun r => ?_
          split
          · split
            · exact failRuntime_startsFirst _
            · exact keeps_raise _
          · refine keeps_bind (startsFirst_perform fun _ => trivial)
              fun _ => ?_
            exact launchPod_startsFirst hs workload _
  · dsimp only
    split
    · exact failRuntime_startsFirst _
    · exact keeps_raise _

/-! ## Resuming a pod -/

theorem dockerStart_lastStart (owner target : String) (error : Exn → Exn)
    (w : World) :
    Sat careful ReadyGuard (orNotAvailable error (dockerStart owner target))
      (fun r w' => ∀ result, r = .ok result → result.returncode = 0 →
        lastStart w'.log owner = some (some target)) w := by
  unfold orNotAvailable
  refine sat_step_attempt careful_refines trivial fun a _ _ => ?_
  have hlog := log_answer (w := w) a
  cases hresult : (w.perform (.dockerStart owner target) a).1 with
  | ok completed =>
      rintro result heq hzero
      cases heq
      rw [hlog, lastStart_append, hresult]
      simp [startOf, World.exitedZero, hzero]
  | error x =>
      dsimp only
      split <;> simp

theorem resumePod_started (hcontainer : truthy runtime.containerId = true)
    (w : World) :
    Sat careful ReadyGuard (ProcessPodBackend.resumePod runtime)
      (fun r w' => ∀ resumed, r = .ok resumed → resumed.status = .ready ∧
        Started w' resumed) w := by
  obtain ⟨c, hc⟩ : ∃ c, runtime.containerId = some c := by
    cases h : runtime.containerId with
    | none => simp [h, truthy] at hcontainer
    | some c => exact ⟨c, rfl⟩
  unfold ProcessPodBackend.resumePod ProcessPodBackend.restartContainer
  rw [if_pos hcontainer]
  refine Sat.andThen (m := fun r w' => r = .ok () →
    lastStart w'.log runtime.deploymentId = some (some c)) ?_
    (by simp) ?_
  · refine (dockerStart_lastStart _ _ _ w).andThen (by simp)
      fun result w₁ hlast => ?_
    split
    · simp
    · rename_i hzero
      intro _
      simpa [hc] using hlast result rfl (not_not.mp hzero)
  · rintro _ w₁ hlast _ heq
    cases heq
    exact ⟨rfl, c, hc, hlast rfl⟩

theorem resumePodRuntime_startsFirst (hs : s.podBackend = .process)
    (hcontainer : truthy runtime.containerId = true) :
    StartsFirst (resumePodRuntime s runtime) := by
  intro w _
  unfold resumePodRuntime PodBackend.resumePod
  rw [hs]
  refine sat_bind'.mpr (sat_attempt.mpr
    ((resumePod_started hcontainer w).weaken fun r w₁ hstarted => ?_))
  rw [andThen_ok]
  cases r with
  | ok resumed => exact writeReady_startsFirst fun _ => hstarted resumed rfl
  | error x =>
      have hback : ∀ message : Option String, StartsFirst (do
          let _ ← release runtime.deploymentId
          upsertRuntime { markSuspended runtime with
            lastError := message }) := fun message =>
        keeps_bind (startsFirst_perform fun _ => trivial) fun _ =>
          startsFirst_upsert fun _ => by simp [markSuspended]
      dsimp only
      split
      · rename_i heq
        cases heq
      · exact hback _ w₁ trivial
      · exact trivial

theorem reacquire_careful {w : World}
    (hget : w.runtimes.get? runtime.deploymentId = some runtime)
    (hstatus : runtime.status = .suspended) :
    Sat careful ReadyGuard (reacquire runtime) (fun r _ => ∀ devices,
      r = .ok devices → runtime.workloadKind = .pod →
        truthy runtime.containerId = true) w := by
  unfold reacquire
  split
  · refine sat_step_perform careful_refines trivial fun a _ hstep => ?_
    intro devices heq hkind
    have hcareful := hstep.2
    rw [heq] at hcareful
    exact hcareful runtime hget hkind hstatus
  · have hbusy : Within (Typed {} anyContainer)
        (BackendCall anyContainer runtime.deploymentId) foreignBusyDevices
        fun _ => True := foreignBusyDevices_within backendCall_probe trivial
    refine (backend_host careful_refines
      (fun w _ he => readyGuard_backendCall he w) hbusy).andThen
      (fun _ _ _ h => nomatch h) fun avoid w₁ h => ?_
    obtain ⟨-, hruntimes, -⟩ := h
    refine sat_step_perform careful_refines trivial fun a _ hstep => ?_
    intro devices heq hkind
    have hcareful := hstep.2
    rw [heq] at hcareful
    exact hcareful runtime (hruntimes ▸ hget) hkind hstatus

theorem redispatch_startsFirst (hkind : runtime.workloadKind ≠ .pod) :
    StartsFirst (redispatch s runtime) := by
  unfold redispatch
  refine keeps_bind (startsFirst_perform fun _ => trivial) fun _ => ?_
  have hworkload : StartsFirst (workloadToResume runtime) := by
    unfold workloadToResume
    refine keeps_bind (keeps_attempt (startsFirst_perform fun _ => trivial))
      fun r => ?_
    split
    · exact keeps_pure _
    · split
      · exact keeps_pure _
      · exact keeps_raise _
  refine keeps_bind hworkload fun found => ?_
  split
  · exact keeps_pure _
  · refine keeps_bind (startsFirst_upsert fun _ => by simp) fun _ => ?_
    split
    · exact startInferenceRuntime_startsFirst (by assumption) _
    · exact startVmRuntime_startsFirst (by exact hkind) _
    · exact keeps_pure _
    · exact keeps_pure _

theorem resumeRuntime_startsFirst (hs : s.podBackend = .process) {w : World}
    (hget : w.runtimes.get? runtime.deploymentId = some runtime)
    (hstatus : runtime.status = .suspended) :
    Sat careful ReadyGuard (resumeRuntime s runtime) (fun _ _ => True) w := by
  unfold resumeRuntime
  refine sat_bind'.mpr (sat_attempt.mpr
    ((reacquire_careful hget hstatus).weaken fun r w₁ hcontainer => ?_))
  rw [andThen_ok]
  cases r with
  | error x =>
      dsimp only
      split
      · exact trivial
      · exact trivial
  | ok devices =>
      dsimp only
      split
      · rename_i hkind
        exact resumePodRuntime_startsFirst hs
          (by exact hcontainer devices rfl hkind) w₁ trivial
      · exact redispatch_startsFirst (by assumption) w₁ trivial

/-! ## Requests -/

theorem startLease_startsFirst (hs : s.podBackend = .process)
    (lease : LeaseAssignment) : StartsFirst (startLease s lease) := by
  have hdispatch : ∀ {runtime : UnifiedRuntimeRecord} {workload : WorkloadSpec},
      runtime.workloadKind = workload.kind →
      StartsFirst (dispatch s runtime workload) := by
    intro runtime workload hkind
    unfold dispatch
    split
    · exact startInferenceRuntime_startsFirst (hkind.trans (by assumption)) _
    · exact startPodRuntime_startsFirst hs _
    · rename_i hvm
      refine startVmRuntime_startsFirst (fun hpod => ?_) _
      rw [hkind, hvm] at hpod
      cases hpod
    · exact failRuntime_startsFirst _
  have hworkload : StartsFirst (reconcileWorkload s lease) := by
    unfold reconcileWorkload
    refine keeps_bind (startsFirst_perform fun _ => trivial) fun found => ?_
    split
    · exact startsFirst_perform fun _ h => nomatch h
    · exact keeps_bind (startsFirst_upsert fun _ => by simp [acceptedRuntime])
        fun _ => hdispatch (by rfl)
  unfold startLease
  refine keeps_bind (keeps_attempt hworkload) fun r => ?_
  split
  · exact keeps_pure _
  · exact keeps_ignoring (startsFirst_perform fun _ h => nomatch h)

theorem handleLease_startsFirst (hs : s.podBackend = .process)
    (lease : LeaseAssignment) : StartsFirst (handleLease s lease) := by
  intro w _
  unfold handleLease
  refine sat_step_bind careful_refines trivial fun a _ _ => ?_
  have hstart : ∀ w', Sat careful ReadyGuard (startLease s lease)
      (fun _ _ => True) w' :=
    fun w' => startLease_startsFirst hs lease w' trivial
  have hretry : ∀ existing, StartsFirst (do
      terminateRuntime s existing false
      removeRuntime lease.deploymentId
      startLease s lease) := fun existing =>
    keeps_bind (terminateRuntime_startsFirst false) fun _ =>
      keeps_bind (startsFirst_perform fun _ => trivial) fun _ =>
        startLease_startsFirst hs lease
  simp only [World.perform, andThen_ok]
  cases hget : w.runtimes.get? lease.deploymentId with
  | none =>
      dsimp only
      split
      · exact trivial
      · exact hstart _
  | some existing =>
      dsimp only
      split
      · split
        · exact suspendRuntime_startsFirst _ trivial
        · exact suspendRuntime_startsFirst _ trivial
        · exact trivial
      · split
        · rename_i hstatus
          refine resumeRuntime_startsFirst hs ?_ hstatus
          rw [Table.key_of_get? hget]
          exact hget
        · exact hretry existing _ trivial
        · exact hretry existing _ trivial
        · exact trivial
        · exact trivial
        · exact trivial
        · exact trivial

theorem request_startsFirst (hs : s.podBackend = .process)
    (request : Request) : StartsFirst (request.program s) := by
  refine keeps_request (fun e he => startsFirst_perform fun w => ?_)
    (fun _ _ => terminateRuntime_startsFirst _) (fun _ => ?_) careful_refines
    (handleLease_startsFirst hs) request
  · cases e <;> first | exact trivial | exact he.elim
  · exact keeps_bind (terminateRuntime_startsFirst _) fun _ =>
      startsFirst_perform fun _ => trivial

/--
In every run in which no suspended pod without a container is given devices, a
pod is written as ready, and reported as ready, only with a container that the
last `docker run` or `docker start` for it started.
-/
theorem ready_started (hs : s.podBackend = .process) {w w' : World}
    (_before : CrashRun s careful w) (request : Request) {e : Effect}
    {next : Except Exn e.Ret → Agent Unit}
    (reached : Reaches careful (request.program s) w (.call e next) w') :
    ReadyGuard w' e :=
  ((request_startsFirst hs request w trivial).reaches reached).1

/-- The devices are not for a suspended pod that has no container. -/
def isCareful (w : World) : Effect → Bool
  | .allocate d _ _ | .allocateSpecific d _ =>
      match w.runtimes.get? d with
      | some runtime => runtime.workloadKind ≠ .pod ||
          runtime.status ≠ .suspended || truthy runtime.containerId
      | none => true
  | _ => true

theorem careful_follows (env : Environment) :
    Follows careful env isCareful := by
  intro w e hcareful hallows
  refine ⟨⟨trivial, env w e, hallows, rfl⟩, ?_⟩
  have hdevices : ∀ d, (match w.runtimes.get? d with
      | some runtime => decide (runtime.workloadKind ≠ .pod) ||
          decide (runtime.status ≠ .suspended) || truthy runtime.containerId
      | none => true) = true → ∀ runtime, w.runtimes.get? d = some runtime →
        runtime.workloadKind = .pod → runtime.status = .suspended →
          truthy runtime.containerId = true := by
    intro d h runtime hget hkind hstatus
    simpa [hget, hkind, hstatus] using h
  cases e with
  | allocate d n avoid =>
      cases hr : (w.answer (.allocate d n avoid) (env w _)).1 with
      | ok devices => exact hdevices d hcareful
      | error x => exact trivial
  | allocateSpecific d devices =>
      cases hr : (w.answer (.allocateSpecific d devices) (env w _)).1 with
      | ok devices => exact hdevices d hcareful
      | error x => exact trivial
  | _ => exact trivial

def almostReady : Agent Unit × World :=
  replayFor (podHost [leaseOn "pod-1"]) isCareful 19
    (reconcileOnce {} "hotkey") (.init {})

theorem ready_started_almostReady : ∃ runtime next,
    almostReady.1 = .call (.upsertRuntime runtime) next ∧
      runtime.workloadKind = .pod ∧ runtime.status = .ready ∧
      Started almostReady.2 runtime := by
  have hreaches := replayFor_reaches (careful_follows (podHost
    [leaseOn "pod-1"])) 19 (reconcileOnce {} "hotkey") (.init {})
  exact ⟨_, _, rfl, rfl, rfl,
    ready_started rfl .boot (.reconcile "hotkey") hreaches rfl rfl⟩

/-! ## A start that is cut short -/

/-- The agent dies after the record is starting and before docker runs. -/
def cutShort : Agent Unit × World :=
  replayFor (podHost [leaseOn "pod-1"]) (fun _ _ => true) 13
    (reconcileOnce {} "hotkey") (.init {})

/-- Restarted after that, and suspended by its lease. -/
def suspendedWithoutContainer : World :=
  replayed (podHost [suspendedLease "pod-1"]) (reconcileOnce {} "hotkey")
    (cutShort.2.restart {})

def resumedWithoutContainer : World :=
  replayed (podHost [leaseOn "pod-1"]) (reconcileOnce {} "hotkey")
    suspendedWithoutContainer

/-- The pod is ready and reported as ready, and has no container at all. -/
theorem ready_without_container :
    CrashRun {} (host floored) resumedWithoutContainer ∧
    ∃ runtime, resumedWithoutContainer.runtimes.get? "pod-1" = some runtime ∧
      runtime.workloadKind = .pod ∧ runtime.status = .ready ∧
      runtime.containerId = none ∧
      (resumedWithoutContainer.ledger "pod-1").sent.getLast? =
        some (.ready, true) := by
  have hrespects : ∀ leases, (podHost leases).Respects floored := fun leases =>
    cooperative_floored leases _ (by decide : 1 ≤ requestedGpus ubuntuPod)
  refine ⟨?_, _, rfl, rfl, rfl, rfl, rfl⟩
  have hcut : CrashRun {} (host floored) (cutShort.2.restart {}) :=
    .crash .boot (.reconcile "hotkey") (replayFor_reaches
      (hrespects [leaseOn "pod-1"]).follows 13 _ _)
  obtain ⟨r, hsuspend⟩ := replayed_exec (hrespects [suspendedLease "pod-1"])
    (p := reconcileOnce {} "hotkey") (w := cutShort.2.restart {}) rfl
  obtain ⟨r', hresume⟩ := replayed_exec (hrespects [leaseOn "pod-1"])
    (p := reconcileOnce {} "hotkey") (w := suspendedWithoutContainer) rfl
  exact .serve (.serve hcut (.reconcile "hotkey") hsuspend)
    (.reconcile "hotkey") hresume

end NodeAgent
