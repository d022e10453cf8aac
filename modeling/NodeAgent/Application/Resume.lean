import NodeAgent.Application.Runs

/-!
# Suspending and resuming a pod

A pod is suspended in place and resumed in the same container.  What a resume
gives back, and what it leaves alone when it fails, for every pod in service.
-/

namespace NodeAgent

open Effectful Program Agent

/-- What a tenant finds again after a resume. -/
structure SameSetup (runtime runtime' : UnifiedRuntimeRecord) : Prop where
  containerId : runtime'.containerId = runtime.containerId
  gpuDevices : runtime'.metadata.gpuDevices = runtime.metadata.gpuDevices
  gpuCount : runtime'.metadata.gpuCount = runtime.metadata.gpuCount
  portMappings : runtime'.portMappings = runtime.portMappings
  portAllocations :
    runtime'.metadata.portAllocations = runtime.metadata.portAllocations
  sshHost : runtime'.sshHost = runtime.sshHost
  sshPort : runtime'.sshPort = runtime.sshPort
  sshUsername : runtime'.sshUsername = runtime.sshUsername
  sshFingerprint : runtime'.sshFingerprint = runtime.sshFingerprint
  sshPublicKeys :
    runtime'.metadata.sshPublicKeys = runtime.metadata.sshPublicKeys
  sshPrivateKey :
    runtime'.metadata.sshPrivateKey = runtime.metadata.sshPrivateKey
  sshVerified : runtime'.metadata.sshVerified = runtime.metadata.sshVerified
  volumePath : runtime'.volumePath = runtime.volumePath
  volumeSizeGb : runtime'.volumeSizeGb = runtime.volumeSizeGb

/-- A failed `allocate`, or a `docker start` that becomes a `PodError`. -/
def failsResume (event : Event) : Bool :=
  match event with
  | ⟨.allocate _ _ _, .error _⟩ | ⟨.allocateSpecific _ _, .error _⟩ => true
  | ⟨.dockerStart _ _, .ok completed⟩ => completed.returncode ≠ 0
  | ⟨.dockerStart _ _, .error x⟩ => x.isMissingOrTimeout
  | _ => false

def stopSucceeds (event : Event) : Bool :=
  match event with
  | ⟨.dockerStop _ _, r⟩ => World.exitedZero r
  | _ => true

def startSucceeds (event : Event) : Bool :=
  match event with
  | ⟨.dockerStart _ _, r⟩ => World.exitedZero r
  | _ => true

def devicesFree (w : World) (events : List Event)
    (runtime : UnifiedRuntimeRecord) : Prop :=
  ∀ x ∈ originalDevices runtime, x ∈ w.allocator.freeDevices ∧
    ∀ busy, (⟨.probe .busyGpuDevices, .ok busy⟩ : Event) ∈ events → x ∉ busy

variable {permitted : Permitted} {s : Settings} {w : World}
variable {runtime : UnifiedRuntimeRecord} {α β : Type}

/-! ## Steps of the host -/

/-- None of the calls is a failure of docker or of an allocation. -/
def Calm (w w' : World) : Prop :=
  Logged w w' fun event =>
    failsResume event = false ∧ startSucceeds event = true

theorem Calm.refl (w : World) : Calm w w := Logged.refl w _

theorem report_host {update : DeploymentStatusUpdate}
    {post : Except Exn Unit → World → Prop}
    (h : ∀ r a, post r (w.answer (.updateDeploymentStatus update) a).2) :
    Sat (host permitted) (fun _ _ => True) (report update) post w := by
  refine sat_ignoring.mpr ⟨trivial, fun r w' hstep => ?_⟩
  obtain ⟨a, -, -, rfl⟩ := host_refines.performed hstep
  rw [sat_done]
  split
  · exact h _ a
  · split
    · exact h _ a
    · exact h _ a

def Written (w : World) (runtime : UnifiedRuntimeRecord) (w' : World) : Prop :=
  w'.runtimes.get? runtime.deploymentId = some runtime ∧
    w'.allocator = w.allocator ∧ Calm w w'

theorem upsertRuntime_host :
    Sat (host permitted) (fun _ _ => True) (upsertRuntime runtime)
      (fun _ w' => Written w runtime w') w := by
  refine ⟨trivial, fun r w' hstep => ?_⟩
  obtain ⟨a, -, -, rfl⟩ := host_refines.performed hstep
  have hcalm : Calm w (w.answer (.upsertRuntime runtime) a).2 :=
    (Calm.refl w).answer a ⟨rfl, rfl⟩
  exact ⟨by simp [World.perform, World.saved, Table.get?_upsert], rfl, hcalm⟩

theorem writeAndReport_host (update : DeploymentStatusUpdate) :
    Sat (host permitted) (fun _ _ => True)
      (upsertRuntime runtime >>= fun _ => report update)
      (fun _ w' => Written w runtime w') w := by
  refine sat_bind'.mpr (upsertRuntime_host.weaken fun r w₁ h => ?_)
  cases r with
  | error x => exact h
  | ok =>
      obtain ⟨hrecord, hallocator, hcalm⟩ := h
      exact report_host fun r b =>
        ⟨hrecord, hallocator, hcalm.answer b ⟨rfl, rfl⟩⟩

/-! ## Suspending -/

theorem pausedOrMarked_pod (hkind : runtime.workloadKind = .pod) :
    Always (Typed s anyContainer)
      (BackendCall anyContainer runtime.deploymentId)
      (pausedOrMarked s runtime)
      fun r => r = .ok (markSuspended runtime) := by
  have hpause : Within (Typed s anyContainer)
      (BackendCall anyContainer runtime.deploymentId)
      (pauseBackend s runtime) fun paused => paused = markSuspended runtime := by
    unfold pauseBackend
    rw [hkind]
    unfold PodBackend.pausePod
    cases s.podBackend with
    | stub => exact within_pure rfl
    | process =>
        refine within_bind (Q := fun _ => True)
          (within_onlyIf fun _ =>
            Within.backend
              (stopContainer_stops rfl (.inr (.inr trivial))))
          fun _ _ => within_pure rfl
  unfold pausedOrMarked
  refine always_bind hpause.attempt ?_ ?_
  · rintro result ⟨_, heq, hresult⟩
    cases heq
    cases result with
    | ok paused => exact congrArg Except.ok (hresult paused rfl)
    | error x => rfl
  · rintro x ⟨_, heq, -⟩
    cases heq

theorem suspendRuntime_host (hkind : runtime.workloadKind = .pod) :
    Sat (host permitted) (fun _ _ => True) (suspendRuntime s runtime)
      (fun _ w' => w'.runtimes.get? runtime.deploymentId =
          some (markSuspended runtime) ∧
        w'.allocator = (w.allocator.release runtime.deploymentId).2) w := by
  unfold suspendRuntime
  refine sat_step_bind host_refines trivial fun a _ _ => ?_
  refine sat_bind'.mpr ((backend_host host_refines
    (fun _ _ _ => trivial) (pausedOrMarked_pod hkind)).weaken ?_)
  rintro _ w₁ ⟨rfl, -, hallocator⟩
  refine (writeAndReport_host _).weaken ?_
  rintro r w₂ ⟨hrecord, hallocator', -⟩
  exact ⟨hrecord, hallocator'.trans hallocator⟩

/-! ## Resuming -/

def markReady (runtime : UnifiedRuntimeRecord) : UnifiedRuntimeRecord :=
  { runtime with status := .ready, currentStage := "ready" }

def BackendResumed (w : World) (runtime : UnifiedRuntimeRecord) :
    Except Exn UnifiedRuntimeRecord → World → Prop
  | .ok resumed, w' => resumed = markReady runtime ∧ Calm w w'
  | .error x, w' => Added w w' fun events =>
      (∃ event ∈ events, startSucceeds event = false) ∧
        ((∀ message, x ≠ .podError message) →
          ∀ event ∈ events, failsResume event = false)

theorem restartContainer_host :
    Sat (host permitted) (fun _ _ => True)
      (ProcessPodBackend.restartContainer runtime)
      (fun r w' => BackendResumed w runtime (r.map fun _ => markReady runtime)
        w') w := by
  unfold ProcessPodBackend.restartContainer
  split
  · unfold orNotAvailable
    refine sat_bind'.mpr (sat_step_attempt host_refines trivial fun a _ _ => ?_)
    have hlog := log_answer (w := w) a
    cases hresult : (w.perform (.dockerStart runtime.deploymentId
        (runtime.containerId.getD "")) a).1 with
    | ok completed =>
        rw [hresult] at hlog
        by_cases hzero : completed.returncode = 0
        · simp only [sat_pure, andThen_ok, hzero]
          exact ⟨rfl, _, hlog, by
            simp [failsResume, startSucceeds, World.exitedZero, hzero]⟩
        · simp only [sat_pure, andThen_ok, ne_eq, hzero, not_false_eq_true,
            if_true, sat_raise]
          exact ⟨_, hlog, by simp [startSucceeds, World.exitedZero, hzero],
            fun h => absurd rfl (h _)⟩
    | error x =>
        rw [hresult] at hlog
        by_cases hx : x.isMissingOrTimeout
        · simp only [hx, if_true, sat_raise, andThen_error]
          exact ⟨_, hlog, by simp [startSucceeds, World.exitedZero],
            fun h => absurd rfl (h _)⟩
        · simp only [hx]
          exact ⟨_, hlog, by simp [startSucceeds, World.exitedZero],
            fun _ => by simp [failsResume, hx]⟩
  · exact ⟨rfl, [], by simp⟩

variable (permitted s w runtime) in
theorem resumePod_host :
    Sat (host permitted) (fun _ _ => True) (PodBackend.resumePod s runtime)
      (BackendResumed w runtime) w := by
  unfold PodBackend.resumePod
  split
  · refine sat_bind'.mpr (restartContainer_host.weaken fun r w' h => ?_)
    cases r with
    | ok => exact h
    | error x => exact h
  · exact ⟨rfl, [], by simp⟩

inductive PodOutcome (w : World) (runtime : UnifiedRuntimeRecord)
    (w' : World) : Prop
  | ready
      (record : w'.runtimes.get? runtime.deploymentId =
        some (markReady runtime))
      (allocator : w'.allocator = w.allocator)
      (calls : Calm w w')
  | suspended (message : String)
      (record : w'.runtimes.get? runtime.deploymentId =
        some { markSuspended runtime with lastError := some message })
      (allocator :
        w'.allocator = (w.allocator.release runtime.deploymentId).2)
      (calls : Added w w' fun events =>
        ∃ event ∈ events, startSucceeds event = false)
  | raised
      (calls : Added w w' fun events =>
        (∀ event ∈ events, failsResume event = false) ∧
          ∃ event ∈ events, startSucceeds event = false)

theorem resumePodRuntime_host :
    Sat (host permitted) (fun _ _ => True) (resumePodRuntime s runtime)
      (fun _ w' => PodOutcome w runtime w') w := by
  unfold resumePodRuntime
  have hbackend := (resumePod_host permitted s w runtime).both (backend_host host_refines
    (fun _ _ _ => trivial)
    (resumePod_within (Ledger.belongs_any runtime)).always)
  refine sat_bind'.mpr (sat_attempt.mpr (hbackend.mono (fun _ _ _ => trivial)
    fun r w₁ h => ?_))
  obtain ⟨hresumed, -, hruntimes, hallocator⟩ := h
  cases r with
  | ok resumed =>
      obtain ⟨rfl, hcalls⟩ := hresumed
      refine (writeAndReport_host _).weaken fun r w₂ h => ?_
      obtain ⟨hrecord, hallocator', hcalm⟩ := h
      refine .ready hrecord (hallocator'.trans hallocator)
        (hcalls.trans hcalm)
  | error x =>
      have hcalls := hresumed
      simp only [andThen_ok]
      split
      · rename_i heq
        cases heq
      · refine sat_step_bind host_refines trivial fun a _ _ => ?_
        have hcalm : Calm w₁ (w₁.answer (.release runtime.deploymentId) a).2 :=
          (Calm.refl w₁).answer a ⟨rfl, rfl⟩
        refine upsertRuntime_host.weaken fun r w₂ h => ?_
        obtain ⟨hrecord, hallocator', hcalm'⟩ := h
        refine .suspended _ hrecord ?_ 
          (hcalls.append (hcalm.trans hcalm') ?_)
        · rw [hallocator', ← hallocator]
          rfl
        · rintro events events' ⟨⟨event, hevent, hstart⟩, -⟩ -
          exact ⟨event, List.mem_append_left _ hevent, hstart⟩
      · rename_i hx heq
        cases heq
        obtain ⟨events, hlog, hstart, hcalm⟩ := hcalls
        exact .raised ⟨events, hlog, hcalm hx, hstart⟩

inductive ResumeOutcome (w : World) (runtime : UnifiedRuntimeRecord)
    (w' : World) : Prop
  | unavailable
      (taken : ∃ x ∈ originalDevices runtime, x ∉ w.allocator.freeDevices)
      (runtimes : w'.runtimes = w.runtimes)
      (allocator : w'.allocator = w.allocator)
  | reacquired {w₁ : World}
      (allocator : w₁.allocator = w.allocator.assign runtime.deploymentId
        (originalDevices runtime).toFinset)
      (calls : Calm w w₁)
      (outcome : PodOutcome w₁ (withGpus runtime (originalDevices runtime)
        (originalDevices runtime).length) w')

theorem originalDevices_of_pinned {devices : List Nat}
    (h : runtime.metadata.gpuDevices = some devices) :
    originalDevices runtime = devices := by
  unfold originalDevices
  rw [h]
  rfl

theorem resumeRuntime_host (hkind : runtime.workloadKind = .pod)
    (hdevices : originalDevices runtime ≠ []) (hpinned : Pinned runtime) :
    Sat (host permitted) (fun _ _ => True) (resumeRuntime s runtime)
      (fun _ w' => ResumeOutcome w runtime w') w := by
  have hcount : resumeGpuCount runtime = (originalDevices runtime).length := by
    rw [Ledger.resumeGpuCount_of_pinned hpinned, if_neg hdevices]
  have hsorted : GpuAllocator.sortedDevices (originalDevices runtime) =
      originalDevices runtime := by
    obtain ⟨devices, hsome, hascending, -⟩ := hpinned
    rw [originalDevices_of_pinned hsome]
    exact GpuAllocator.sortedDevices_of_ascending hascending
  unfold resumeRuntime reacquire
  rw [if_pos ⟨hkind, hdevices⟩, hcount]
  refine sat_step_attempt host_refines trivial fun a _ _ => ?_
  rcases w.allocator.allocateSpecific_cases runtime.deploymentId
      (originalDevices runtime) with
    ⟨hnil, -⟩ | ⟨-, ⟨message, h⟩, htaken⟩ | ⟨-, -, h⟩
  · exact absurd hnil hdevices
  · simp only [World.perform, World.answer, h, isGpuAllocationError, if_true]
    refine .unavailable ?_ rfl rfl
    obtain ⟨x, hx, hfree⟩ := htaken
    exact ⟨x, hx, fun hmem => hfree (.inl hmem)⟩
  · have hcalm : Calm w (w.answer (.allocateSpecific runtime.deploymentId
        (originalDevices runtime)) a).2 := by
      refine (Calm.refl w).answer a ⟨?_, rfl⟩
      simp [World.perform, h, failsResume]
    simp only [World.perform, h, hkind, if_true, hsorted]
    refine resumePodRuntime_host.weaken fun r w' houtcome => ?_
    exact .reacquired (by simp [World.answer, World.perform, h]) hcalm houtcome

/-! ## What a resume restores -/

/-- Suspended from `w` to `w₁`, and its books untouched from there to `w₂`. -/
structure AwaitsResume (s : Settings) (runtime : UnifiedRuntimeRecord)
    (w w₁ w₂ : World) : Prop where
  suspended : ∃ r, Exec (host anyResult) (suspendRuntime s runtime) w r w₁
  record : w₂.runtimes.get? runtime.deploymentId =
    w₁.runtimes.get? runtime.deploymentId
  allocation : w₂.allocator.allocations.get? runtime.deploymentId =
    w₁.allocator.allocations.get? runtime.deploymentId

/-- Suspending the runtime and resuming it brings it back as it was. -/
def Restores (s : Settings) (w : World) (runtime : UnifiedRuntimeRecord) :
    Prop :=
  ∀ w₁ w₂ suspended r w₃, AwaitsResume s runtime w w₁ w₂ →
    (∀ event ∈ issued w w₁, stopSucceeds event = true) →
    w₂.runtimes.get? runtime.deploymentId = some suspended →
    Exec (host anyResult) (resumeRuntime s suspended) w₂ r w₃ →
    devicesFree w₂ (issued w₂ w₃) runtime →
    (∀ event ∈ issued w₂ w₃, startSucceeds event = true) →
    ∃ resumed, w₃.runtimes.get? runtime.deploymentId = some resumed ∧
      resumed.status = .ready ∧ SameSetup runtime resumed ∧
      w₃.allocator.getAllocation runtime.deploymentId =
        w.allocator.getAllocation runtime.deploymentId

/-- A resume that fails leaves the runtime suspended and the devices free. -/
def LeavesAlone (s : Settings) (w : World) (runtime : UnifiedRuntimeRecord) :
    Prop :=
  ∀ w₁ w₂ suspended r w₃, AwaitsResume s runtime w w₁ w₂ →
    w₂.runtimes.get? runtime.deploymentId = some suspended →
    Exec (host anyResult) (resumeRuntime s suspended) w₂ r w₃ →
    (∃ event ∈ issued w₂ w₃, failsResume event = true) →
    ∃ kept, w₃.runtimes.get? runtime.deploymentId = some kept ∧
      kept.status = .suspended ∧ SameSetup runtime kept ∧
      w₃.allocator = w₂.allocator

theorem Calm.not_started {w₁ w₂ w₃ : World} {P : List Event → Prop}
    (h : Calm w₁ w₂) (h' : Added w₂ w₃ P)
    (hP : ∀ events, P events → ∃ event ∈ events, startSucceeds event = false) :
    ∃ event ∈ issued w₁ w₃, startSucceeds event = false := by
  refine (h.append h' (R := fun events => ∃ event ∈ events,
    startSucceeds event = false) fun events events' _ hevents => ?_).issued
  obtain ⟨event, hevent, hdown⟩ := hP events' hevents
  exact ⟨event, List.mem_append_right _ hevent, hdown⟩

theorem Calm.not_failed {w₁ w₂ w₃ : World} {P : List Event → Prop}
    (h : Calm w₁ w₂) (h' : Added w₂ w₃ P)
    (hP : ∀ events, P events → ∀ event ∈ events, failsResume event = false) :
    ∀ event ∈ issued w₁ w₃, failsResume event = false := by
  refine (h.append h' (R := fun events => ∀ event ∈ events,
    failsResume event = false) fun events events' hcalm hevents => ?_).issued
  intro event hevent
  rcases List.mem_append.mp hevent with hmem | hmem
  · exact (hcalm event hmem).1
  · exact hP events' hevents event hmem

theorem AwaitsResume.found {w₁ w₂ : World}
    (h : AwaitsResume s runtime w w₁ w₂)
    (hkind : runtime.workloadKind = .pod) :
    w₂.runtimes.get? runtime.deploymentId = some (markSuspended runtime) ∧
      w₂.allocator.allocations.get? runtime.deploymentId = none := by
  obtain ⟨r, hexec⟩ := h.suspended
  obtain ⟨hrecord, hallocator⟩ := (suspendRuntime_host hkind).exec hexec
  refine ⟨h.record.trans hrecord, h.allocation.trans ?_⟩
  simp [hallocator, GpuAllocator.release]

theorem sameSetup_of_pinned {devices : List Nat} {status : RuntimeStatus}
    {stage : String} {lastError : Option String}
    (hdevices : runtime.metadata.gpuDevices = some devices)
    (hcount : runtime.metadata.gpuCount = some (devices.length : Int)) :
    SameSetup runtime { withGpus (markSuspended runtime) devices
      devices.length with
        status := status, currentStage := stage, lastError := lastError } := by
  constructor <;> first | rfl | exact hdevices.symm | exact hcount.symm

theorem resume_restores (hkind : runtime.workloadKind = .pod)
    (hpinned : Pinned runtime) (hdevices : originalDevices runtime ≠ [])
    (hheld : w.allocator.getAllocation runtime.deploymentId =
      (originalDevices runtime).toFinset) :
    Restores s w runtime := by
  intro w₁ w₂ suspended r w₃ hawaits _ hget hexec hfree hstarts
  obtain ⟨hrecord, -⟩ := hawaits.found hkind
  rw [hget] at hrecord
  cases hrecord
  obtain ⟨devices, hsome, hascending, hcount⟩ := hpinned
  have houtcome : ResumeOutcome w₂ (markSuspended runtime) w₃ :=
    (resumeRuntime_host (by exact hkind) (by exact hdevices)
      (by exact ⟨devices, hsome, hascending, hcount⟩)).exec hexec
  have hsame : originalDevices (markSuspended runtime) = devices :=
    originalDevices_of_pinned hsome
  cases houtcome with
  | unavailable taken =>
      obtain ⟨x, hx, hnot⟩ := taken
      exact absurd (hfree x hx).1 hnot
  | reacquired allocator calls outcome =>
      rw [hsame] at outcome allocator
      cases outcome with
      | ready record allocator' calls' =>
          refine ⟨_, record, rfl, sameSetup_of_pinned hsome hcount, ?_⟩
          rw [allocator', allocator, hheld, originalDevices_of_pinned hsome]
          exact GpuAllocator.getAllocation_assign_self _ _ _
      | suspended message record allocator' calls' =>
          obtain ⟨event, hevent, hdown⟩ :=
            calls.not_started calls' fun _ h => h
          simp [hstarts event hevent] at hdown
      | raised calls' =>
          obtain ⟨event, hevent, hdown⟩ :=
            calls.not_started calls' fun _ h => h.2
          simp [hstarts event hevent] at hdown

theorem resume_leavesAlone (hkind : runtime.workloadKind = .pod)
    (hpinned : Pinned runtime) (hdevices : originalDevices runtime ≠ []) :
    LeavesAlone s w runtime := by
  intro w₁ w₂ suspended r w₃ hawaits hget hexec hfails
  obtain ⟨hrecord, hallocation⟩ := hawaits.found hkind
  rw [hget] at hrecord
  cases hrecord
  obtain ⟨devices, hsome, hascending, hcount⟩ := hpinned
  have houtcome : ResumeOutcome w₂ (markSuspended runtime) w₃ :=
    (resumeRuntime_host (by exact hkind) (by exact hdevices)
      (by exact ⟨devices, hsome, hascending, hcount⟩)).exec hexec
  have hsame : originalDevices (markSuspended runtime) = devices :=
    originalDevices_of_pinned hsome
  cases houtcome with
  | unavailable _ runtimes allocator =>
      refine ⟨_, by rw [runtimes, hget], rfl, ?_, allocator⟩
      constructor <;> rfl
  | reacquired allocator calls outcome =>
      rw [hsame] at outcome allocator
      obtain ⟨event, hevent, hfail⟩ := hfails
      cases outcome with
      | ready _ _ calls' =>
          have := calls.not_failed calls'
            (fun _ h event hevent => (h event hevent).1) event hevent
          simp [hfail] at this
      | suspended message record allocator' calls' =>
          refine ⟨_, record, rfl, sameSetup_of_pinned hsome hcount, ?_⟩
          rw [allocator', allocator]
          exact GpuAllocator.release_assign _ _ hallocation
      | raised calls' =>
          have := calls.not_failed calls' (fun _ h => h.1) event hevent
          simp [hfail] at this

/-! ## A pod without devices is not restored -/

def Returns : Effect → Prop
  | .probe .never => False
  | _ => True

def anyAnswer : (e : Effect) → Except Exn e.Ret → Prop := fun _ _ => True

theorem perform_returns {e : Effect} (he : Returns e) :
    Within anyAnswer Returns (perform e) fun _ => True :=
  within_perform he fun _ _ => trivial

theorem attempt_returns {p : Agent α}
    (hp : Within anyAnswer Returns p fun _ => True) :
    Within anyAnswer Returns (attempt p) fun _ => True :=
  within_attempt (hp.weaken fun _ _ => trivial) fun _ => trivial

theorem report_returns (update : DeploymentStatusUpdate) :
    Within anyAnswer Returns (report update) fun _ => True :=
  within_ignoring (perform_returns trivial)

theorem pausePod_returns :
    Within anyAnswer Returns (PodBackend.pausePod s runtime) fun _ => True := by
  unfold PodBackend.pausePod
  cases s.podBackend with
  | stub => exact within_pure trivial
  | process =>
      refine within_bind (Q := fun _ => True) (within_onlyIf fun _ => ?_)
        fun _ _ => within_pure trivial
      exact within_ignoring (within_bind (Q := fun _ => True)
        (perform_returns trivial) fun _ _ => within_pure trivial)

theorem suspendRuntime_returns (hkind : runtime.workloadKind = .pod) :
    Within anyAnswer Returns (suspendRuntime s runtime) fun _ => True := by
  have hpause : Within anyAnswer Returns (pausedOrMarked s runtime)
      fun _ => True := by
    unfold pausedOrMarked pauseBackend
    rw [hkind]
    refine within_bind (Q := fun _ => True) (attempt_returns pausePod_returns)
      fun r _ => ?_
    cases r <;> exact within_pure trivial
  unfold suspendRuntime
  refine within_bind (Q := fun _ => True) (perform_returns trivial) fun _ _ => ?_
  refine within_bind hpause fun paused _ => ?_
  refine within_bind (Q := fun _ => True) (perform_returns trivial) fun _ _ => ?_
  exact report_returns _

theorem resumePod_returns :
    Within anyAnswer Returns (PodBackend.resumePod s runtime)
      fun _ => True := by
  unfold PodBackend.resumePod
  cases s.podBackend with
  | stub => exact within_pure trivial
  | process =>
      refine within_bind (Q := fun _ => True) ?_
        fun _ _ => within_pure trivial
      unfold ProcessPodBackend.restartContainer
      split
      · refine within_bind (Q := fun _ => True)
          (orNotAvailable_within (perform_returns trivial))
          fun result _ => ?_
        split
        · exact within_raise
        · exact within_pure trivial
      · exact within_pure trivial

theorem resumePodRuntime_returns :
    Within anyAnswer Returns (resumePodRuntime s runtime) fun _ => True := by
  unfold resumePodRuntime
  refine within_bind (Q := fun _ => True) (attempt_returns resumePod_returns)
    fun r _ => ?_
  split
  · refine within_bind (Q := fun _ => True) (perform_returns trivial)
      fun _ _ => report_returns _
  · refine within_bind (Q := fun _ => True) (perform_returns trivial)
      fun _ _ => perform_returns trivial
  · exact within_raise

theorem resumeRuntime_returns (hkind : runtime.workloadKind = .pod) :
    Within anyAnswer Returns (resumeRuntime s runtime) fun _ => True := by
  unfold resumeRuntime
  refine within_bind (Q := fun _ => True) (attempt_returns ?_) fun r _ => ?_
  · unfold reacquire
    split
    · exact perform_returns trivial
    · refine within_bind (Q := fun _ => True) ?_
        fun _ _ => perform_returns trivial
      unfold foreignBusyDevices
      refine within_bind (Q := fun _ => True) (attempt_returns ?_)
        fun r _ => ?_
      · refine within_bind (Q := fun _ => True) (perform_returns trivial)
          fun _ _ => ?_
        exact within_bind (Q := fun _ => True) (perform_returns trivial)
          fun _ _ => within_pure trivial
      · cases r <;> exact within_pure trivial
  · split
    · split
      · exact within_pure trivial
      · exact within_raise
    · rw [if_pos hkind]
      exact resumePodRuntime_returns

/-- Docker stops containers and starts none. -/
def noRestart : Permitted
  | .dockerStop _ _, r => World.exitedZero r = true
  | .dockerStart _ _, r => ∃ completed, r = .ok completed ∧
      completed.returncode ≠ 0
  | _, _ => True

theorem noRestart_answers {e : Effect} (he : Returns e) :
    ∃ r w', (host noRestart).Step w e r w' := by
  cases e with
  | dockerStop owner target =>
      refine ⟨.ok {}, _, ?_, { result := .ok {} }, rfl, rfl⟩
      exact (rfl : World.exitedZero (.ok {}) = true)
  | dockerStart owner target =>
      exact ⟨_, _, ⟨{ returncode := 1 }, rfl, by decide⟩,
        { result := .ok { returncode := 1 } }, rfl, rfl⟩
  | probe question =>
      refine ⟨_, _, trivial, { result := .error (.unexpected "") }, ?_, rfl⟩
      cases question <;> first | rfl | exact absurd he id
  | _ =>
      exact ⟨_, _, trivial, { result := .error (.unexpected "") }, rfl, rfl⟩

theorem exists_noRestart {p : Agent Unit}
    (hp : Within anyAnswer Returns p fun _ => True) :
    ∃ r w', Exec (host noRestart) p w r w' := by
  have hsat := Always.sat (M := host noRestart) (s := w) hp.always
    fun _ _ _ _ _ _ => trivial
  exact hsat.exists_exec fun _ _ he => noRestart_answers he

theorem noRestart_stops {p : Agent Unit} {r : Except Exn Unit}
    (h : Exec (host noRestart) p w r w') :
    ∀ event ∈ issued w w', stopSucceeds event = true := by
  refine ((exec_permitted h).weaken fun event hpermitted => ?_).issued
  obtain ⟨e, r⟩ := event
  cases e <;> first | rfl | exact hpermitted

theorem noRestart_fails {p : Agent Unit} {r : Except Exn Unit}
    (h : Exec (host noRestart) p w r w') :
    ∀ event ∈ issued w w', startSucceeds event = false →
      failsResume event = true := by
  refine ((exec_permitted h).weaken fun event hpermitted => ?_).issued
  obtain ⟨e, r⟩ := event
  cases e <;> first
    | (intro hstart; cases hstart)
    | (obtain ⟨completed, rfl, hne⟩ := hpermitted
       exact fun _ => by simpa [failsResume] using hne)

def ReacquiredOne (w : World) : Except Exn (List Nat) → World → Prop
  | .ok devices, w' => devices ≠ [] ∧ Calm w w'
  | .error x, w' => isGpuAllocationError x = true ∧
      Logged w w' fun event => startSucceeds event = true

theorem foreignBusyDevices_host :
    Sat (host permitted) (fun _ _ => True) foreignBusyDevices
      (fun r w' => (∃ avoid, r = .ok avoid) ∧ w'.runtimes = w.runtimes ∧
        w'.allocator = w.allocator ∧ Calm w w') w := by
  unfold foreignBusyDevices
  rw [sat_bind', sat_attempt]
  refine sat_step_bind host_refines trivial fun a _ _ => ?_
  have hcalm : Calm w (w.answer (.probe .busyGpuDevices) a).2 :=
    (Calm.refl w).answer a ⟨rfl, rfl⟩
  cases (w.perform (.probe .busyGpuDevices) a).1 with
  | error x => exact ⟨⟨∅, rfl⟩, rfl, rfl, hcalm⟩
  | ok busy =>
      rw [andThen_ok]
      refine sat_step_bind host_refines trivial fun b _ _ => ?_
      exact ⟨⟨_, rfl⟩, rfl, rfl, hcalm.answer b ⟨rfl, rfl⟩⟩

theorem reacquire_host (hdevices : originalDevices runtime = [])
    (hcount : resumeGpuCount runtime = 1) :
    Sat (host permitted) (fun _ _ => True) (reacquire runtime)
      (fun r w' => w'.runtimes = w.runtimes ∧ ReacquiredOne w r w') w := by
  unfold reacquire
  rw [if_neg fun h => h.2 hdevices, hcount]
  refine sat_bind'.mpr (foreignBusyDevices_host.weaken ?_)
  rintro _ w₁ ⟨⟨avoid, rfl⟩, hruntimes, hallocator, hcalm⟩
  refine ⟨trivial, fun r w₂ hstep => ?_⟩
  obtain ⟨a, -, rfl, rfl⟩ := host_refines.performed hstep
  refine ⟨hruntimes, ?_⟩
  rcases w₁.allocator.allocate_cases runtime.deploymentId 1 avoid with
    ⟨hn, -⟩ | ⟨-, message, h⟩ | ⟨-, hlength, h⟩
  · omega
  · have hlogged := (hcalm.weaken fun _ h => h.2).answer a
      (e := .allocate runtime.deploymentId 1 avoid) rfl
    simp only [World.perform, h]
    exact ⟨rfl, by simpa only [World.answer, World.perform, h] using hlogged⟩
  · have hlogged : Calm w _ := hcalm.answer a
      (e := .allocate runtime.deploymentId 1 avoid)
      ⟨by simp only [World.perform, h]; rfl, rfl⟩
    simp only [World.perform, h]
    refine ⟨?_, by simpa only [World.answer, World.perform, h] using hlogged⟩
    rw [← List.length_pos_iff, List.length_take]
    omega

inductive OneOutcome (w : World) (runtime : UnifiedRuntimeRecord)
    (w' : World) : Prop
  | unavailable (runtimes : w'.runtimes = w.runtimes)
      (calls : Logged w w' fun event => startSucceeds event = true)
  | reacquired {w₁ : World} {devices : List Nat} (nonempty : devices ≠ [])
      (calls : Calm w w₁)
      (outcome : PodOutcome w₁ (withGpus runtime devices 1) w')

theorem resumeRuntime_one (hkind : runtime.workloadKind = .pod)
    (hdevices : originalDevices runtime = [])
    (hcount : resumeGpuCount runtime = 1) :
    Sat (host permitted) (fun _ _ => True) (resumeRuntime s runtime)
      (fun _ w' => OneOutcome w runtime w') w := by
  unfold resumeRuntime
  refine sat_bind'.mpr (sat_attempt.mpr
    ((reacquire_host hdevices hcount).weaken ?_))
  rintro r w₁ ⟨hruntimes, hreacquired⟩
  cases r with
  | error x =>
      obtain ⟨hx, hlogged⟩ := hreacquired
      simp only [andThen_ok, hx, if_true]
      exact .unavailable hruntimes hlogged
  | ok devices =>
      obtain ⟨hne, hcalm⟩ := hreacquired
      simp only [andThen_ok, hkind, if_true, hcount]
      exact resumePodRuntime_host.weaken fun _ _ houtcome =>
        .reacquired hne hcalm houtcome

theorem SameSetup.not_withGpus {devices : List Nat} {n : Int}
    {status : RuntimeStatus} {stage : String} {lastError : Option String}
    (hnone : runtime.metadata.gpuDevices = some []) (hne : devices ≠ [])
    (h : SameSetup runtime { withGpus (markSuspended runtime) devices n with
      status := status, currentStage := stage, lastError := lastError }) :
    False := by
  have hdevices := h.gpuDevices
  rw [hnone] at hdevices
  exact hne (Option.some.inj hdevices)

theorem cpuPod_not_restored (hkind : runtime.workloadKind = .pod)
    (hpinned : Pinned runtime) (hdevices : originalDevices runtime = []) :
    ¬(Restores s w runtime ∧ LeavesAlone s w runtime) := by
  rintro ⟨hrestores, hleaves⟩
  obtain ⟨devices, hsome, hascending, hcount⟩ := hpinned
  obtain rfl : devices = [] := by
    rw [← originalDevices_of_pinned hsome, hdevices]
  obtain ⟨r, w₁, hsuspend⟩ :=
    exists_noRestart (w := w) (suspendRuntime_returns (s := s) hkind)
  have hpinned' : Pinned (markSuspended runtime) :=
    ⟨[], hsome, hascending, hcount⟩
  have hcount' : resumeGpuCount (markSuspended runtime) = 1 := by
    rw [Ledger.resumeGpuCount_of_pinned hpinned']
    exact if_pos hdevices
  obtain ⟨r', w₃, hresume⟩ := exists_noRestart (w := w₁)
    (resumeRuntime_returns (s := s) (by exact hkind :
      (markSuspended runtime).workloadKind = .pod))
  have hawaits : AwaitsResume s runtime w w₁ w₁ :=
    ⟨⟨r, hsuspend.widen fun _ _ _ _ h => ⟨trivial, h.2⟩⟩, rfl, rfl⟩
  have hexec : Exec (host anyResult) (resumeRuntime s (markSuspended runtime))
      w₁ r' w₃ := hresume.widen fun _ _ _ _ h => ⟨trivial, h.2⟩
  obtain ⟨hget, -⟩ := hawaits.found hkind
  have hfree : ∀ events, devicesFree w₁ events runtime := by
    intro events x hx
    rw [hdevices] at hx
    cases hx
  -- A restored record would list no device, but a resume writes one down.
  have hnotRestored : ∀ resumed, w₃.runtimes.get? runtime.deploymentId =
      some resumed → (resumed.status = .ready → SameSetup runtime resumed →
        False) → ¬∀ event ∈ issued w₁ w₃, startSucceeds event = true := by
    intro resumed hresumed hcontra hstarts
    obtain ⟨resumed', hresumed', hready, hsame, -⟩ := hrestores w₁ w₁ _ r' w₃
      hawaits (noRestart_stops hsuspend) hget hexec (hfree _) hstarts
    obtain rfl := Option.some.inj (hresumed.symm.trans hresumed')
    exact hcontra hready hsame
  have hdown := noRestart_fails hresume
  have houtcome : OneOutcome w₁ (markSuspended runtime) w₃ :=
    (resumeRuntime_one (by exact hkind) (by exact hdevices) hcount').exec
      hresume
  cases houtcome with
  | unavailable runtimes calls =>
      refine hnotRestored (markSuspended runtime) (by rw [runtimes, hget]) ?_
        calls.issued
      intro hready
      cases hready
  | reacquired nonempty calls outcome =>
      cases outcome with
      | ready record _ calls' =>
          refine hnotRestored _ record ?_ ((calls.trans calls').weaken
            fun _ h => h.2).issued
          exact fun _ hsame => hsame.not_withGpus hsome nonempty
      | suspended message record _ calls' =>
          obtain ⟨event, hevent, hnot⟩ := calls.not_started calls' fun _ h => h
          obtain ⟨kept, hkept, -, hsame, -⟩ := hleaves w₁ w₁ _ r' w₃ hawaits
            hget hexec ⟨event, hevent, hdown event hevent hnot⟩
          obtain rfl := Option.some.inj (record.symm.trans hkept)
          exact hsame.not_withGpus hsome nonempty
      | raised calls' =>
          obtain ⟨event, hevent, hnot⟩ :=
            calls.not_started calls' fun _ h => h.2
          have hcalm := calls.not_failed calls' (fun _ h => h.1) event hevent
          simp [hdown event hevent hnot] at hcalm

/-! ## Pods of a running node -/

/--
Suspend and resume are inverse to each other, and a failed resume changes
nothing, for the pods that hold devices and for no others.
-/
theorem resume_iff_devices (h : CrashRun s (host floored) w) {d : String}
    (hget : w.runtimes.get? d = some runtime)
    (hkind : runtime.workloadKind = .pod) (hready : runtime.status = .ready)
    (_hcontainer : truthy runtime.containerId = true) :
    Restores s w runtime ∧ LeavesAlone s w runtime ↔
      originalDevices runtime ≠ [] := by
  obtain rfl : runtime.deploymentId = d := Table.key_of_get? hget
  have hfits := ((crashRun_sound floored_floored floored_not_polite
    floored_not_reliable h).1 runtime.deploymentId).fits runtime hget
  have hpinned := hfits.pinned floored_floored (.inl (.inr hready))
  have hheld := hfits.inService floored_floored (.inr hready)
  refine ⟨fun hboth hnone => cpuPod_not_restored hkind hpinned hnone hboth,
    fun hdevices => ⟨?_, ?_⟩⟩
  · exact resume_restores hkind hpinned hdevices hheld
  · exact resume_leavesAlone hkind hpinned hdevices

theorem onePodNode_crashRun : CrashRun {} (host floored) onePodNode := by
  have hrespects : (podHost [leaseOn "pod-1"]).Respects floored :=
    cooperative_floored _ _ (by decide : 1 ≤ requestedGpus ubuntuPod)
  obtain ⟨r, hexec⟩ := replayed_exec hrespects
    (p := reconcileOnce {} "hotkey") (w := .init {}) rfl
  exact .serve .boot (.reconcile "hotkey") hexec

theorem resume_iff_devices_onePodNode :
    ∃ runtime, onePodNode.runtimes.get? "pod-1" = some runtime ∧
      (Restores {} onePodNode runtime ∧ LeavesAlone {} onePodNode runtime ↔
        originalDevices runtime ≠ []) ∧ originalDevices runtime = [0] :=
  ⟨_, rfl, resume_iff_devices onePodNode_crashRun (d := "pod-1")
    rfl rfl rfl rfl, rfl⟩

theorem cpuPodNode_crashRun : CrashRun {} (host floored) cpuPodNode := by
  have hrespects : (sshHost [leaseOn "pod-1"]).Respects floored :=
    cooperative_floored _ _ (by decide : 1 ≤ requestedGpus sshPod)
  obtain ⟨r, hexec⟩ := replayed_exec hrespects
    (p := reconcileOnce {} "hotkey") (w := .init {}) rfl
  exact .serve .boot (.reconcile "hotkey") hexec

def cpuPod : UnifiedRuntimeRecord :=
  (cpuPodNode.runtimes.get? "pod-1").get rfl

def suspendedCpuNode : World :=
  replayed (sshHost []) (suspendRuntime {} cpuPod) cpuPodNode

def resumedCpuNode : World :=
  replayed (sshHost []) (resumeRuntime {} (markSuspended cpuPod))
    suspendedCpuNode

/-- The pod without a GPU comes back from a resume with one. -/
theorem cpuPod_resumes_with_gpu :
    CrashRun {} (host floored) cpuPodNode ∧
      cpuPodNode.runtimes.get? "pod-1" = some cpuPod ∧
      cpuPod.workloadKind = .pod ∧ cpuPod.status = .ready ∧
      truthy cpuPod.containerId = true ∧ ¬Restores {} cpuPodNode cpuPod := by
  refine ⟨cpuPodNode_crashRun, rfl, rfl, rfl, rfl, fun h => ?_⟩
  obtain ⟨r, hsuspend⟩ := replayed_exec (anyResult_respected (sshHost []))
    (p := suspendRuntime {} cpuPod) (w := cpuPodNode) rfl
  obtain ⟨r', hresume⟩ := replayed_exec (anyResult_respected (sshHost []))
    (p := resumeRuntime {} (markSuspended cpuPod)) (w := suspendedCpuNode) rfl
  have hstops : (issued cpuPodNode suspendedCpuNode).all stopSucceeds = true :=
    rfl
  have hstarts : (issued suspendedCpuNode resumedCpuNode).all startSucceeds =
      true := rfl
  have hfree : devicesFree suspendedCpuNode
      (issued suspendedCpuNode resumedCpuNode) cpuPod := by
    intro x hx
    exact absurd hx List.not_mem_nil
  obtain ⟨resumed, hget, -, hsame, -⟩ := h suspendedCpuNode suspendedCpuNode _
    r' resumedCpuNode ⟨⟨r, hsuspend⟩, rfl, rfl⟩ (List.all_eq_true.mp hstops)
    rfl hresume hfree (List.all_eq_true.mp hstarts)
  have hdevices : (resumedCpuNode.runtimes.get? "pod-1").map
      (·.metadata.gpuDevices) = some (some [0]) := rfl
  have hkey : resumedCpuNode.runtimes.get? "pod-1" = some resumed := hget
  rw [hkey, Option.map_some, hsame.gpuDevices] at hdevices
  cases hdevices

end NodeAgent
