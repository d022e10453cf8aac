import NodeAgent.Application.Ledger

/-!
# Every handler keeps the books sound

What the record of a deployment says about the devices that it holds and about
the report that was sent last, kept by every handler from any sound books.
-/

namespace NodeAgent

open Effectful Program Agent

/-- The report that goes with a status that the agent settles in. -/
def reportedState : RuntimeStatus → Option DeploymentState
  | .ready => some .ready
  | .failed => some .failed
  | .suspended => some .suspended
  | _ => none

namespace Ledger

variable (permitted : Permitted) (free : Nat → Prop)

def lastSent (v : Ledger) : Option DeploymentState :=
  v.sent.getLast?.map Prod.fst

/-- What a record promises of the books that it stands in. -/
structure Fits (v : Ledger) (runtime : UnifiedRuntimeRecord) : Prop where
  inService : Floored permitted → InService runtime →
    v.held = (originalDevices runtime).toFinset
  pinned : Floored permitted →
    InService runtime ∨ runtime.status = .suspended → Pinned runtime
  stopped : runtime.status = .failed ∨ runtime.status = .terminated →
    v.held = ∅
  suspended : Polite permitted → runtime.status = .suspended → v.held = ∅
  clean : Floored permitted → Polite permitted → InService runtime →
    ∀ x ∈ v.held, free x
  reported : Reliable permitted → ∀ state,
    reportedState runtime.status = some state → v.lastSent = some state

structure Sound (v : Ledger) : Prop where
  gone : v.record = none → v.held = ∅
  fits : ∀ runtime, v.record = some runtime → Fits permitted free v runtime

/-- No status is left that a later report could contradict. -/
def Unsettled (v : Ledger) : Prop :=
  ∀ runtime, v.record = some runtime →
    runtime.status = .accepted ∨ runtime.status = .starting

def EndsWell (r : Except Exn Unit) (v : Ledger) : Prop :=
  Sound permitted free v ∧
    (Reliable permitted → ∀ x, r = .error x → Unsettled v)

variable {permitted free} {s : Settings} {v : Ledger}
variable {runtime : UnifiedRuntimeRecord}

@[simp] theorem lastSent_append (record : Option UnifiedRuntimeRecord)
    (held : Finset Nat) (sent : List (DeploymentState × Bool))
    (last : DeploymentState × Bool) :
    lastSent ⟨record, held, sent ++ [last]⟩ = some last.1 := by
  simp [lastSent]

theorem sound_of_none (hrecord : v.record = none) (hheld : v.held = ∅) :
    Sound permitted free v :=
  ⟨fun _ => hheld, fun runtime h => by rw [hrecord] at h; cases h⟩

theorem sound_of_fits (hrecord : v.record = some runtime)
    (h : Fits permitted free v runtime) : Sound permitted free v := by
  refine ⟨fun hnone => ?_, fun runtime' hsome => ?_⟩
  · rw [hrecord] at hnone
    cases hnone
  · rw [hrecord] at hsome
    cases hsome
    exact h

theorem sound_of_accepted (hrecord : v.record = some runtime)
    (hstatus : runtime.status = .accepted) : Sound permitted free v := by
  refine sound_of_fits hrecord ?_
  constructor <;> simp [hstatus, InService, reportedState]

theorem sound_of_terminated (hrecord : v.record = some runtime)
    (hstatus : runtime.status = .terminated) (hheld : v.held = ∅) :
    Sound permitted free v := by
  refine sound_of_fits hrecord ?_
  constructor <;> simp [hstatus, hheld, InService, reportedState]

theorem sound_of_failed (hrecord : v.record = some runtime)
    (hstatus : runtime.status = .failed) (hheld : v.held = ∅)
    (hsent : Reliable permitted → v.lastSent = some .failed) :
    Sound permitted free v := by
  refine sound_of_fits hrecord ?_
  constructor <;> simp [hstatus, hheld, InService, reportedState]
  exact hsent

theorem sound_of_suspended (hrecord : v.record = some runtime)
    (hstatus : runtime.status = .suspended)
    (hheld : Polite permitted → v.held = ∅)
    (hpinned : Floored permitted → Pinned runtime)
    (hsent : Reliable permitted → v.lastSent = some .suspended) :
    Sound permitted free v := by
  refine sound_of_fits hrecord ?_
  constructor <;> simp [hstatus, InService, reportedState]
  · exact hpinned
  · exact hheld
  · exact hsent

/-- A record and the books between the allocation and the end of a start. -/
structure Carries (permitted : Permitted) (free : Nat → Prop) (v : Ledger)
    (runtime : UnifiedRuntimeRecord) : Prop where
  held : Floored permitted → v.held = (originalDevices runtime).toFinset
  pinned : Floored permitted → Pinned runtime
  clean : Polite permitted → ∀ x ∈ v.held, free x

theorem Carries.of_kept {runtime' : UnifiedRuntimeRecord}
    (h : Carries permitted free v runtime) (hkept : Kept runtime runtime') :
    Carries permitted free v runtime' where
  held hfloor := by rw [hkept.originalDevices]; exact h.held hfloor
  pinned hfloor := hkept.pinned (h.pinned hfloor)
  clean := h.clean

theorem Carries.of_held {v' : Ledger} (h : Carries permitted free v runtime)
    (hheld : v'.held = v.held) : Carries permitted free v' runtime where
  held hfloor := hheld.trans (h.held hfloor)
  pinned := h.pinned
  clean hpolite := by rw [hheld]; exact h.clean hpolite

theorem Carries.accounts (h : Carries permitted free v runtime)
    (hin : InService runtime) : Accounts permitted v runtime where
  pinned hfloor _ := h.pinned hfloor
  inService hfloor _ := h.held hfloor
  released hout := absurd hin hout
  accepted _ hstatus := by rcases hin with hin | hin <;> simp [hstatus] at hin
  known hstatus := by rcases hin with hin | hin <;> simp [hstatus] at hin

theorem sound_of_starting (hrecord : v.record = some runtime)
    (hstatus : runtime.status = .starting)
    (h : Carries permitted free v runtime) : Sound permitted free v := by
  refine sound_of_fits hrecord ?_
  constructor <;> simp [hstatus, InService, reportedState]
  · exact h.held
  · exact h.pinned
  · exact fun _ => h.clean

theorem sound_of_ready (hrecord : v.record = some runtime)
    (hstatus : runtime.status = .ready)
    (h : Carries permitted free v runtime)
    (hsent : Reliable permitted → v.lastSent = some .ready) :
    Sound permitted free v := by
  refine sound_of_fits hrecord ?_
  constructor <;> simp [hstatus, InService, reportedState]
  · exact h.held
  · exact h.pinned
  · exact fun _ => h.clean
  · exact hsent

/-! ## Lifecycle -/

theorem report_ends {update : DeploymentStatusUpdate}
    {post : Except Exn Unit → Ledger → Prop}
    (hsent : ∀ accepted,
      post (.ok ()) { v with sent := v.sent ++ [(update.state, accepted)] })
    (herror : ∀ x accepted, ¬Reliable permitted →
      post (.error x) { v with sent := v.sent ++ [(update.state, accepted)] }) :
    Ends s permitted free (report update) post v := by
  refine sat_ignoring.mpr ⟨trivial, fun r v' hstep => ?_⟩
  obtain ⟨hr, rfl⟩ := hstep
  cases r with
  | ok => exact hsent _
  | error x =>
      rw [sat_done]
      by_cases hx : x.isControlPlaneHTTPError
      · simpa only [hx, if_true] using hsent _
      · simp only [hx, if_false, Bool.false_eq_true]
        exact herror x _ fun hreliable => hx (hreliable.update _ _ hr)

theorem upsert_bind_ends {β : Type} {f : Unit → Agent β}
    {post : Except Exn β → Ledger → Prop}
    (hwrite : Accounts permitted v runtime)
    (hok : Ends s permitted free (f ()) post { v with record := some runtime })
    (herror : ∀ x, ¬Reliable permitted →
      post (.error x) { v with record := some runtime }) :
    Ends s permitted free (upsertRuntime runtime >>= f) post v := by
  refine ends_bind (m := fun r v' => v' = { v with record := some runtime } ∧
    permitted (.upsertRuntime runtime) r)
    (ends_upsert hwrite fun r hr => ⟨rfl, hr⟩) ?_ ?_
  · rintro _ _ ⟨rfl, -⟩
    exact hok
  · rintro x _ ⟨rfl, hr⟩
    exact herror x fun h => h.upsert _ _ hr

theorem release_bind_ends {β : Type} {d : String} {f : Finset Nat → Agent β}
    {post : Except Exn β → Ledger → Prop}
    (h : Ends s permitted free (f v.held) post { v with held := ∅ }) :
    Ends s permitted free (release d >>= f) post v := by
  refine ends_bind (m := fun r v' => r = .ok v.held ∧
    v' = { v with held := ∅ }) (ends_release ⟨rfl, rfl⟩) ?_ ?_
  · rintro _ _ ⟨heq, rfl⟩
    cases heq
    exact h
  · rintro _ _ ⟨heq, -⟩
    cases heq

theorem failRuntime_ends (runtime : UnifiedRuntimeRecord) (error : String) :
    Ends s permitted free (failRuntime runtime error)
      (EndsWell permitted free) v := by
  unfold failRuntime
  refine release_bind_ends (upsert_bind_ends
    (accounts_of_released rfl (.inl rfl)) (report_ends ?_ ?_) ?_)
  · intro accepted
    refine ⟨sound_of_failed rfl rfl rfl fun _ => by simp, fun _ x heq => ?_⟩
    cases heq
  · intro x accepted h
    exact ⟨sound_of_failed rfl rfl rfl fun _ => by simp,
      fun hreliable => absurd hreliable h⟩
  · intro x h
    exact ⟨sound_of_failed rfl rfl rfl fun hreliable => absurd hreliable h,
      fun hreliable => absurd hreliable h⟩

structure TornDown (permitted : Permitted) (r : Except Exn Unit)
    (v : Ledger) : Prop where
  held : v.held = ∅
  record : ∃ runtime, v.record = some runtime ∧ runtime.status = .terminated
  returned : Reliable permitted → r = .ok ()

theorem TornDown.sound {r : Except Exn Unit} (h : TornDown permitted r v) :
    Sound permitted free v := by
  obtain ⟨runtime, hrecord, hstatus⟩ := h.record
  exact sound_of_terminated hrecord hstatus h.held

theorem terminateRuntime_ends (runtime : UnifiedRuntimeRecord)
    (reported : Bool) :
    Ends s permitted free (terminateRuntime s runtime reported)
      (TornDown permitted) v := by
  unfold terminateRuntime
  refine release_bind_ends ?_
  refine ends_bind (ends_quiet (P := fun r v' => r = .ok () ∧
    v' = { v with held := ∅ }) (always_swallowing
      (Within.backend (stopBackend_stops (belongs_any runtime))).always)
    fun r hr => ⟨hr, rfl⟩) ?_ ?_
  · rintro _ _ ⟨-, rfl⟩
    refine upsert_bind_ends (accounts_of_released rfl (.inr rfl)) ?_ ?_
    · refine ends_onlyIf (fun _ => report_ends ?_ ?_) fun _ => ?_
      · exact fun _ => ⟨rfl, ⟨_, rfl, rfl⟩, fun _ => rfl⟩
      · exact fun x _ h => ⟨rfl, ⟨_, rfl, rfl⟩, fun hr => absurd hr h⟩
      · exact ⟨rfl, ⟨_, rfl, rfl⟩, fun _ => rfl⟩
    · exact fun x h => ⟨rfl, ⟨_, rfl, rfl⟩, fun hr => absurd hr h⟩
  · rintro x _ ⟨heq, -⟩
    cases heq

theorem suspendRuntime_ends (runtime : UnifiedRuntimeRecord)
    (hpinned : Floored permitted → Pinned runtime) :
    Ends s permitted free (suspendRuntime s runtime)
      (fun _ => Sound permitted free) v := by
  unfold suspendRuntime
  refine release_bind_ends ?_
  refine ends_bind (ends_quiet (P := fun r v' => v' = { v with held := ∅ } ∧
    ∃ paused, r = .ok paused ∧ Kept runtime paused ∧
      paused.status = .suspended)
    ((pausedOrMarked_always (belongs_any runtime)).widen
      fun _ => StopCall.backendCall) ?_) ?_ ?_
  · rintro _ ⟨paused, rfl, -, hkept, hstatus⟩
    exact ⟨rfl, paused, rfl, hkept, hstatus⟩
  · rintro paused _ ⟨rfl, _, heq, hkept, hstatus⟩
    cases heq
    have hsound : ∀ {sent : List (DeploymentState × Bool)},
        (Reliable permitted →
          lastSent ⟨some paused, ∅, sent⟩ = some .suspended) →
        Sound permitted free ⟨some paused, ∅, sent⟩ := fun hsent =>
      sound_of_suspended rfl hstatus (fun _ => rfl)
        (fun hfloor => hkept.pinned (hpinned hfloor)) hsent
    refine upsert_bind_ends (accounts_of_suspended rfl hstatus
      fun hfloor => hkept.pinned (hpinned hfloor)) (report_ends ?_ ?_) ?_
    · exact fun _ => hsound fun _ => by simp
    · exact fun _ _ _ => hsound fun _ => by simp
    · exact fun _ h => hsound fun hr => absurd hr h
  · rintro x _ ⟨-, _, heq, -⟩
    cases heq

/-! ## Starts -/

/-- The books while a start has not written a record of its own yet. -/
def AcceptedIn (v : Ledger) : Prop :=
  ∃ runtime, v.record = some runtime ∧ runtime.status = .accepted

theorem AcceptedIn.endsWell (h : AcceptedIn v) (r : Except Exn Unit) :
    EndsWell permitted free r v := by
  obtain ⟨runtime, hrecord, hstatus⟩ := h
  refine ⟨sound_of_accepted hrecord hstatus, fun _ _ _ runtime' h' => ?_⟩
  rw [hrecord] at h'
  cases h'
  exact .inl hstatus

def Allocated (permitted : Permitted) (free : Nat → Prop) (n : Int)
    (v : Ledger) : Except Exn (Option (List Nat)) → Ledger → Prop
  | .ok (some devices), v' =>
      v' = { v with held := devices.toFinset } ∧
        GpuAllocator.Ascending devices ∧ devices.length = n.toNat ∧
        ∀ x ∈ devices, free x
  | .ok none, v' => EndsWell permitted free (.ok ()) v'
  | .error x, v' => EndsWell permitted free (.error x) v'

theorem allocateOrFail_ends (runtime : UnifiedRuntimeRecord) (n : Int)
    (haccepted : AcceptedIn v) (hheld : v.held = ∅) :
    Ends s permitted free (allocateOrFail runtime n)
      (Allocated permitted free n v) v := by
  unfold allocateOrFail
  refine ends_bind (ends_quiet (d := runtime.deploymentId)
    (P := fun _ v' => v = v')
    (foreignBusyDevices_within backendCall_probe trivial).always
    fun _ _ => rfl) ?_ ?_
  · rintro avoid _ rfl
    refine ends_bind (m := fun r v' => ∃ r', r = .ok r' ∧
        Step s permitted free v
          (.allocate runtime.deploymentId n avoid) r' v')
      (ends_attempt (ends_perform trivial fun r v' hstep => ⟨r, rfl, hstep⟩)) ?_ ?_
    · rintro _ v' ⟨r, heq, hstep⟩
      cases heq
      rcases hstep with ⟨hn, rfl, rfl⟩ | ⟨m, rfl, rfl⟩ |
        ⟨hn, devices, rfl, hlength, hascending, hfree, rfl⟩
      · refine ⟨?_, List.Pairwise.nil, ?_, by simp⟩
        · rw [List.toFinset_nil, ← hheld]
        · rw [List.length_nil]
          omega
      · simp only [isGpuAllocationError, if_true]
        refine ends_bind (failRuntime_ends runtime _) ?_ ?_
        · intro _ v' h
          exact ⟨h.1, fun _ x heq => by cases heq⟩
        · exact fun x v' h => h
      · exact ⟨rfl, hascending, hlength, hfree⟩
    · rintro x v' ⟨_, heq, _⟩
      cases heq
  · rintro x _ rfl
    exact haccepted.endsWell _

theorem writeReady_ends (hstatus : runtime.status = .ready)
    (h : Carries permitted free v runtime) :
    Ends s permitted free (upsertRuntime runtime >>= fun _ =>
      reportDeploymentReady runtime) (EndsWell permitted free) v := by
  have hsound : ∀ {sent : List (DeploymentState × Bool)},
      (Reliable permitted →
        lastSent ⟨some runtime, v.held, sent⟩ = some .ready) →
      Sound permitted free ⟨some runtime, v.held, sent⟩ :=
    sound_of_ready rfl hstatus (h.of_held rfl)
  refine upsert_bind_ends (h.accounts (.inr hstatus)) (report_ends ?_ ?_) ?_
  · refine fun _ => ⟨hsound fun _ => by simp, fun _ x heq => ?_⟩
    cases heq
  · exact fun x _ hno => ⟨hsound fun _ => by simp, fun hr => absurd hr hno⟩
  · exact fun x hno => ⟨hsound fun hr => absurd hr hno,
      fun hr => absurd hr hno⟩

theorem EndsWell.of_starting (hrecord : v.record = some runtime)
    (hstatus : runtime.status = .starting)
    (h : Carries permitted free v runtime) (r : Except Exn Unit) :
    EndsWell permitted free r v := by
  refine ⟨sound_of_starting hrecord hstatus h, fun _ _ _ runtime' h' => ?_⟩
  rw [hrecord] at h'
  cases h'
  exact .inr hstatus

theorem launchInference_ends (hkind : runtime.workloadKind = .inference)
    (workload : WorkloadSpec) (artifact : ArtifactBundle)
    (haccepted : AcceptedIn v) (h : Carries permitted free v runtime) :
    Ends s permitted free (launchInference s runtime workload artifact)
      (EndsWell permitted free) v := by
  unfold launchInference
  refine ends_quiet_bind (d := runtime.deploymentId) (perform_within rfl)
    (fun dir => ?_) fun x => haccepted.endsWell _
  have hkept : Kept runtime
      (startingInference s runtime workload artifact dir) :=
    ⟨rfl, rfl, rfl, rfl⟩
  have hstarting : Carries permitted free { v with
      record := some (startingInference s runtime workload artifact dir) }
        (startingInference s runtime workload artifact dir) :=
    Carries.of_held (h.of_kept hkept) (by rfl)
  refine upsert_bind_ends ((hstarting.of_held (by rfl)).accounts (.inl rfl)) ?_
    fun x _ => .of_starting rfl rfl hstarting _
  refine ends_attempt_backend (d := runtime.deploymentId)
    (startRuntime_within (by exact hkind)
      (by exact belongs_any (startingInference s runtime workload artifact dir))
      artifact) ?_ ?_
  · rintro started ⟨-, hkept, -⟩
    exact writeReady_ends rfl
      (hstarting.of_kept ⟨hkept.1, hkept.2, hkept.3, hkept.4⟩)
  · intro x
    split
    · rename_i heq
      cases heq
    · exact failRuntime_ends _ _
    · exact ends_raise (.of_starting rfl rfl hstarting _)

theorem startInferenceRuntime_ends
    (hkind : runtime.workloadKind = .inference) (workload : WorkloadSpec)
    (hfloor : Floored permitted → 1 ≤ requestedGpus workload)
    (haccepted : AcceptedIn v) (hheld : v.held = ∅) :
    Ends s permitted free (startInferenceRuntime s runtime workload)
      (EndsWell permitted free) v := by
  unfold startInferenceRuntime
  refine ends_bind (allocateOrFail_ends runtime _ haccepted hheld) ?_
    fun x v' h => h
  intro allocated v' hallocated
  cases allocated with
  | none => exact hallocated
  | some devices =>
      obtain ⟨rfl, hascending, hlength, hfree⟩ := hallocated
      have hcarries : Carries permitted free { v with
          held := devices.toFinset } { withGpus runtime devices
            (requestedGpus workload) with
              gpuFraction := requestedGpus workload } := by
        refine ⟨fun _ => rfl, fun h => ⟨devices, rfl, hascending, ?_⟩, ?_⟩
        · have := hfloor h
          change some (requestedGpus workload) = some (devices.length : Int)
          rw [hlength]
          congr 1
          omega
        · exact fun _ x hx => hfree x (by simpa using hx)
      refine ends_attempt_backend (d := runtime.deploymentId)
        (Within.files (stageFor_files (by rfl) workload)) (fun artifact _ => ?_) fun x => ?_
      · exact launchInference_ends (by exact hkind) _ _ haccepted hcarries
      · split
        · rename_i heq
          cases heq
        · exact failRuntime_ends _ _
        · exact ends_raise (AcceptedIn.endsWell (by exact haccepted) _)

theorem launchPod_ends (hkind : runtime.workloadKind = .pod)
    (workload : WorkloadSpec) (setup : PodSetup)
    (h : Carries permitted free v (startingPod s runtime workload setup)) :
    Ends s permitted free (launchPod s runtime workload setup)
      (EndsWell permitted free) v := by
  unfold launchPod
  have hstarting : Carries permitted free { v with
      record := some (startingPod s runtime workload setup) }
        (startingPod s runtime workload setup) := h.of_held (by rfl)
  refine upsert_bind_ends ((hstarting.of_held (by rfl)).accounts (.inl rfl)) ?_
    fun x _ => .of_starting rfl rfl hstarting _
  refine ends_attempt_backend (d := runtime.deploymentId)
    (startPod_within (by exact hkind)
      (by exact belongs_any (startingPod s runtime workload setup))
      workload) ?_ ?_
  · rintro started ⟨-, hkept, hstatus⟩
    refine ends_quiet_bind (d := runtime.deploymentId)
      (waitForReady_within backendCall_probe _ _) (fun verified => ?_)
      fun x => .of_starting rfl rfl hstarting _
    exact writeReady_ends hstatus
      (hstarting.of_kept ⟨hkept.1, hkept.2, hkept.3, hkept.4⟩)
  · intro x
    split
    · rename_i heq
      cases heq
    · exact failRuntime_ends _ _
    · exact ends_raise (.of_starting rfl rfl hstarting _)

theorem podGpuCount_nonneg (workload : WorkloadSpec)
    (h : 1 ≤ requestedGpus workload) : 0 ≤ podGpuCount workload := by
  unfold podGpuCount
  split
  · omega
  · split
    · split <;> omega
    · omega

theorem startPodRuntime_ends (hkind : runtime.workloadKind = .pod)
    (workload : WorkloadSpec)
    (hfloor : Floored permitted → 1 ≤ requestedGpus workload)
    (haccepted : AcceptedIn v) (hheld : v.held = ∅) :
    Ends s permitted free (startPodRuntime s runtime workload)
      (EndsWell permitted free) v := by
  unfold startPodRuntime
  refine ends_attempt_backend (d := runtime.deploymentId)
    (setUpSsh_within backendCall_probe s) (fun ssh _ => ?_) fun x => ?_
  · obtain ⟨sshPort, privateKey, publicKey⟩ := ssh
    refine ends_quiet_bind (d := runtime.deploymentId)
      (assignPorts_within backendCall_probe _ _ _) (fun ports => ?_)
      fun x => haccepted.endsWell _
    refine ends_bind (allocateOrFail_ends runtime _ haccepted hheld) ?_
      fun x v' h => h
    intro allocated v' hallocated
    cases allocated with
    | none => exact hallocated
    | some devices =>
        obtain ⟨rfl, hascending, hlength, hfree⟩ := hallocated
        have haccepted' : AcceptedIn { v with held := devices.toFinset } :=
          haccepted
        dsimp only
        split
        · exact ends_raise (haccepted'.endsWell _)
        · rename_i sizeGb _
          refine ends_attempt_backend (d := runtime.deploymentId)
            (perform_within (by rfl)) (fun _ _ => ?_) fun x => ?_
          · refine ends_quiet_bind (d := runtime.deploymentId)
              (perform_within (by rfl)) (fun _ => ?_)
              fun x => haccepted'.endsWell _
            refine launchPod_ends hkind workload _ ⟨fun _ => rfl, fun h => ?_,
              fun _ x hx => hfree x (by simpa using hx)⟩
            refine ⟨devices, rfl, hascending, ?_⟩
            have := podGpuCount_nonneg workload (hfloor h)
            change some (podGpuCount workload) = some (devices.length : Int)
            rw [hlength]
            congr 1
            omega
          · dsimp only
            split
            · exact failRuntime_ends _ _
            · exact ends_raise (haccepted'.endsWell _)
  · dsimp only
    split
    · exact failRuntime_ends _ _
    · exact ends_raise (haccepted.endsWell _)

theorem startVmRuntime_ends (workload : WorkloadSpec)
    (hfloor : Floored permitted → 1 ≤ requestedGpus workload)
    (haccepted : AcceptedIn v) (hheld : v.held = ∅) :
    Ends s permitted free (startVmRuntime s runtime workload)
      (EndsWell permitted free) v := by
  unfold startVmRuntime
  refine ends_bind (allocateOrFail_ends runtime _ haccepted hheld) ?_
    fun x v' h => h
  intro allocated v' hallocated
  cases allocated with
  | none => exact hallocated
  | some devices =>
      obtain ⟨rfl, hascending, hlength, hfree⟩ := hallocated
      have hstarting : Carries permitted free { v with
          held := devices.toFinset
          record := some (startingVm runtime devices (requestedGpus workload))
          } (startingVm runtime devices (requestedGpus workload)) := by
        refine ⟨fun _ => rfl, fun h => ⟨devices, rfl, hascending, ?_⟩, ?_⟩
        · have := hfloor h
          change some (requestedGpus workload) = some (devices.length : Int)
          rw [hlength]
          congr 1
          omega
        · exact fun _ x hx => hfree x (by simpa using hx)
      refine upsert_bind_ends
        ((hstarting.of_held (by rfl)).accounts (.inl rfl)) ?_
        fun x _ => .of_starting rfl rfl hstarting _
      refine ends_attempt_backend (d := runtime.deploymentId)
        (Within.files <| startVm_files (by exact belongs_any (startingVm runtime devices
          (requestedGpus workload)))) ?_ ?_
      · rintro started ⟨-, hkept, hstatus⟩
        exact writeReady_ends hstatus
          (hstarting.of_kept ⟨hkept.1, hkept.2, hkept.3, hkept.4⟩)
      · intro x
        split
        · rename_i heq
          cases heq
        · exact failRuntime_ends _ _
        · exact ends_raise (.of_starting rfl rfl hstarting _)

/-! ## Dispatching -/

theorem dispatch_ends (workload : WorkloadSpec)
    (hkind : runtime.workloadKind = workload.kind)
    (hfloor : Floored permitted → 1 ≤ requestedGpus workload)
    (haccepted : AcceptedIn v) (hheld : v.held = ∅) :
    Ends s permitted free (dispatch s runtime workload)
      (EndsWell permitted free) v := by
  unfold dispatch
  split
  · exact startInferenceRuntime_ends (hkind.trans (by assumption)) workload
      hfloor haccepted hheld
  · exact startPodRuntime_ends (hkind.trans (by assumption)) workload
      hfloor haccepted hheld
  · exact startVmRuntime_ends workload hfloor haccepted hheld
  · exact failRuntime_ends _ _

theorem reconcileWorkload_ends (lease : LeaseAssignment)
    (hrecord : v.record = none) (hheld : v.held = ∅) :
    Ends s permitted free (reconcileWorkload s lease)
      (EndsWell permitted free) v := by
  have hgone : ∀ (r : Except Exn Unit) (sent : List (DeploymentState × Bool)),
      EndsWell permitted free r { v with sent := sent } := by
    refine fun r sent => ⟨sound_of_none hrecord hheld, fun _ _ _ runtime h => ?_⟩
    change v.record = some runtime at h
    rw [hrecord] at h
    cases h
  unfold reconcileWorkload
  refine ends_bind (m := fun r v' => v = v' ∧
    permitted (.getWorkload lease.workloadId) r) (ends_perform trivial ?_) ?_ ?_
  · rintro r v' ⟨hr, -, rfl⟩
    exact ⟨rfl, hr⟩
  · rintro found _ ⟨rfl, hpermitted⟩
    split
    · refine ends_perform trivial ?_
      rintro r _ ⟨-, rfl⟩
      exact hgone r _
    · rename_i workload
      have hfloor : Floored permitted → 1 ≤ requestedGpus workload :=
        fun h => h _ _ hpermitted
      refine upsert_bind_ends (accounts_of_accepted hheld rfl
        fun _ _ heq => nomatch heq) ?_ fun x _ => ?_
      · exact dispatch_ends workload rfl hfloor ⟨_, rfl, rfl⟩ hheld
      · exact AcceptedIn.endsWell ⟨_, rfl, rfl⟩ _
  · rintro x _ ⟨rfl, -⟩
    exact hgone _ v.sent

theorem EndsWell.report {r : Except Exn Unit} {x : Exn}
    (h : EndsWell permitted free r v) (hr : r = .error x)
    (sent : List (DeploymentState × Bool)) :
    Sound permitted free { v with sent := sent } := by
  refine ⟨h.1.gone, fun runtime hrecord => ?_⟩
  have hfits := h.1.fits runtime hrecord
  refine ⟨hfits.1, hfits.2, hfits.3, hfits.4, hfits.5, ?_⟩
  intro hreliable state hstate
  rcases h.2 hreliable x hr runtime hrecord with hs | hs <;>
    simp [hs, reportedState] at hstate

theorem startLease_ends (lease : LeaseAssignment)
    (hrecord : v.record = none) (hheld : v.held = ∅) :
    Ends s permitted free (startLease s lease)
      (fun _ => Sound permitted free) v := by
  unfold startLease
  refine ends_bind (m := fun r v' => ∃ result, r = .ok result ∧
    EndsWell permitted free result v') (ends_attempt
      ((reconcileWorkload_ends lease hrecord hheld).weaken
        fun r _ h => ⟨r, rfl, h⟩)) ?_ ?_
  · rintro result v' ⟨_, heq, h⟩
    cases heq
    cases result with
    | ok => exact h.1
    | error x =>
        refine sat_ignoring.mpr ⟨trivial, ?_⟩
        rintro r _ ⟨-, rfl⟩
        rw [sat_done]
        cases r <;> exact h.report rfl _
  · rintro x _ ⟨_, heq, -⟩
    cases heq

/-! ## Resuming -/

theorem resumePod_errors (hpolite : Polite permitted)
    (runtime : UnifiedRuntimeRecord) :
    Always (Answers s permitted) (fun _ => True)
      (PodBackend.resumePod s runtime)
      fun r => ∀ x, r = .error x → ∃ message, x = .podError message := by
  have hnone : ∀ a : UnifiedRuntimeRecord, ∀ x,
      (Except.ok a : Except Exn UnifiedRuntimeRecord) = .error x →
      ∃ message, x = .podError message := by
    intro a x heq
    cases heq
  unfold PodBackend.resumePod
  split
  · unfold ProcessPodBackend.resumePod ProcessPodBackend.restartContainer
    refine always_bind (m := fun r => ∀ x, r = .error x →
      ∃ message, x = .podError message) ?_ (fun _ _ => hnone _) fun x h _ heq =>
        by cases heq; exact h x rfl
    split
    · refine always_bind (m := fun r => ∀ x, r = .error x →
        ∃ message, x = .podError message) ?_ ?_ fun x h _ heq =>
          by cases heq; exact h x rfl
      · unfold orNotAvailable
        refine always_bind (m := fun r => ∃ result, r = .ok result ∧
          ∀ x, result = .error x → x.isMissingOrTimeout = true)
          (always_attempt (always_perform trivial fun r hr =>
            ⟨r, rfl, fun x heq => hpolite _ _ x (heq ▸ hr.1)⟩)) ?_ ?_
        · rintro result ⟨_, heq, hresult⟩
          cases heq
          cases result with
          | ok completed =>
              intro x heq
              cases heq
          | error x =>
              simp only [hresult x rfl, if_true]
              intro y heq
              cases heq
              exact ⟨_, rfl⟩
        · rintro x ⟨_, heq, -⟩
          cases heq
      · intro completed _
        split
        · intro x heq
          cases heq
          exact ⟨_, rfl⟩
        · intro x heq
          cases heq
    · intro x heq
      cases heq
  · exact hnone _

theorem resumePodRuntime_ends (h : Carries permitted free v runtime)
    (hbefore : ∃ before, v.record = some before ∧ before.status = .suspended ∧
      (Floored permitted → Pinned before))
    (hsent : Reliable permitted → v.lastSent = some .suspended) :
    Ends s permitted free (resumePodRuntime s runtime)
      (fun _ => Sound permitted free) v := by
  unfold resumePodRuntime
  have hbackend : Always (Answers s permitted)
      (BackendCall anyContainer runtime.deploymentId)
      (PodBackend.resumePod s runtime) fun r =>
        (∀ resumed, r = .ok resumed → Kept runtime resumed ∧
          resumed.status = .ready) ∧
        (Polite permitted → ∀ x, r = .error x →
          ∃ message, x = .podError message) := by
    have hkept := (resumePod_within (belongs_any runtime)).narrow
      fun e r _ (hanswer : Answers s permitted e r) => hanswer.2
    by_cases hpolite : Polite permitted
    · refine (hkept.both (resumePod_errors hpolite runtime)).weaken ?_
      exact fun r hr => ⟨fun a ha => (hr.1 a ha).2, fun _ => hr.2⟩
    · refine hkept.weaken ?_
      exact fun r hr => ⟨fun a ha => (hr a ha).2,
        fun h => absurd h hpolite⟩
  refine ends_bind (ends_backend (P := fun r v' => v = v' ∧
    ∃ result, r = .ok result ∧
      (∀ resumed, result = .ok resumed → Kept runtime resumed ∧
        resumed.status = .ready) ∧
      (Polite permitted → ∀ x, result = .error x →
        ∃ message, x = .podError message)) (always_attempt
      (hbackend.weaken fun r hr => ⟨r, rfl, hr⟩)) fun r hr => ⟨rfl, hr⟩) ?_ ?_
  · rintro result _ ⟨rfl, _, heq, hkept, herrors⟩
    cases heq
    split
    · rename_i resumed
      obtain ⟨hresumed, hstatus⟩ := hkept _ rfl
      exact (writeReady_ends hstatus (h.of_kept hresumed)).weaken
        fun _ _ hends => hends.1
    · refine release_bind_ends (ends_upsert
        (accounts_of_suspended rfl rfl h.pinned) fun _ _ => ?_)
      exact sound_of_suspended rfl rfl (fun _ => rfl) h.pinned hsent
    · rename_i x hx
      obtain ⟨before, hrecord, hstatus, hpinned⟩ := hbefore
      refine ends_raise (sound_of_suspended hrecord hstatus ?_ hpinned hsent)
      intro hpolite
      obtain ⟨message, rfl⟩ := herrors hpolite _ rfl
      exact absurd rfl (hx message)
  · rintro x _ ⟨-, _, heq, -⟩
    cases heq

theorem workloadToResume_ends (runtime : UnifiedRuntimeRecord) :
    Ends s permitted free (workloadToResume runtime) (fun r v' => v = v' ∧
      ∀ workload, r = .ok (some workload) → ∃ id,
        permitted (.getWorkload id) (.ok (some workload))) v := by
  unfold workloadToResume
  refine ends_bind (m := fun r v' => v = v' ∧ ∃ found, r = .ok found ∧
    permitted (.getWorkload runtime.workloadId) found)
    (ends_attempt (ends_perform trivial ?_)) ?_ ?_
  · rintro r _ ⟨hr, -, rfl⟩
    exact ⟨rfl, r, rfl, hr⟩
  · rintro found _ ⟨rfl, _, heq, hpermitted⟩
    cases heq
    split
    · refine ends_pure ⟨rfl, fun workload heq => ?_⟩
      cases heq
      exact ⟨_, hpermitted⟩
    · split
      · refine ends_pure ⟨rfl, fun workload heq => ?_⟩
        cases heq
      · refine ends_raise ⟨rfl, fun workload heq => ?_⟩
        cases heq
  · rintro x _ ⟨-, _, heq, -⟩
    cases heq

structure SuspendedIn (permitted : Permitted) (v : Ledger)
    (runtime : UnifiedRuntimeRecord) : Prop where
  record : v.record = some runtime
  status : runtime.status = .suspended
  pinned : Floored permitted → Pinned runtime
  sent : Reliable permitted → v.lastSent = some .suspended

theorem SuspendedIn.sound (h : SuspendedIn permitted v runtime)
    (hheld : Polite permitted → v.held = ∅) : Sound permitted free v :=
  sound_of_suspended h.record h.status hheld h.pinned h.sent

theorem redispatch_ends (h : SuspendedIn permitted v runtime) :
    Ends s permitted free (redispatch s runtime)
      (fun _ => Sound permitted free) v := by
  unfold redispatch
  refine release_bind_ends ?_
  have hreleased : Sound permitted free { v with held := ∅ } :=
    sound_of_suspended h.record h.status (fun _ => rfl) h.pinned h.sent
  refine ends_bind (workloadToResume_ends runtime) ?_ ?_
  · rintro found _ ⟨rfl, hfound⟩
    split
    · exact hreleased
    · rename_i workload
      have hfloor : Floored permitted → 1 ≤ requestedGpus workload := by
        obtain ⟨id, hid⟩ := hfound _ rfl
        exact fun hfloor => hfloor id workload hid
      refine upsert_bind_ends (accounts_of_accepted rfl rfl fun hfloor =>
        (h.pinned hfloor).gpuCount_nonneg) ?_
        fun x _ => sound_of_accepted rfl rfl
      split
      · exact (startInferenceRuntime_ends (by assumption) workload hfloor
          ⟨_, rfl, rfl⟩ rfl).weaken fun _ _ hends => hends.1
      · exact (startVmRuntime_ends workload hfloor ⟨_, rfl, rfl⟩ rfl).weaken
          fun _ _ hends => hends.1
      · exact ends_pure (sound_of_accepted rfl rfl)
      · exact ends_pure (sound_of_accepted rfl rfl)
  · rintro x _ ⟨rfl, -⟩
    exact hreleased

def Reacquired (permitted : Permitted) (free : Nat → Prop) (v : Ledger)
    (runtime : UnifiedRuntimeRecord) : Except Exn (List Nat) → Ledger → Prop
  | .error _, v' => v' = v
  | .ok devices, v' => v'.record = v.record ∧ v'.sent = v.sent ∧
      Carries permitted free v'
        (withGpus runtime devices (resumeGpuCount runtime))

theorem resumeGpuCount_of_pinned (h : Pinned runtime) :
    resumeGpuCount runtime = if originalDevices runtime = [] then 1
      else ((originalDevices runtime).length : Int) := by
  obtain ⟨devices, hdevices, -, hcount⟩ := h
  have horiginal : originalDevices runtime = devices := by
    unfold originalDevices
    rw [hdevices]
    rfl
  rw [horiginal, resumeGpuCount, hcount]
  cases devices with
  | nil => rfl
  | cons x xs =>
      simp only [List.length_cons, reduceCtorEq, if_false]
      omega

theorem reacquire_ends (hpinned : Floored permitted → Pinned runtime)
    (hheld : Polite permitted → v.held = ∅) :
    Ends s permitted free (reacquire runtime)
      (Reacquired permitted free v runtime) v := by
  unfold reacquire
  split
  · rename_i horiginal
    refine ends_perform trivial fun r v' hstep => ?_
    rcases hstep with ⟨hnil, -⟩ | ⟨m, rfl, rfl⟩ | ⟨-, rfl, hfree, rfl⟩
    · exact absurd hnil horiginal.2
    · exact rfl
    · refine ⟨rfl, rfl, fun _ => ?_, fun hfloor => ?_, fun hpolite x hx => ?_⟩
      · simp [withGpus, originalDevices]
      · obtain ⟨devices, hdevices, hascending, -⟩ := hpinned hfloor
        have heq : originalDevices runtime = devices := by
          unfold originalDevices
          rw [hdevices]
          rfl
        have hsorted := GpuAllocator.sortedDevices_of_ascending hascending
        refine ⟨devices, ?_, hascending, ?_⟩
        · rw [heq, hsorted]
          rfl
        · have hcount := resumeGpuCount_of_pinned (hpinned hfloor)
          rw [if_neg horiginal.2, heq] at hcount
          exact congrArg some hcount
      · have hmem : x ∈ originalDevices runtime := by simpa using hx
        rcases hfree x hmem with h | h
        · exact h
        · simp [hheld hpolite] at h
  · refine ends_quiet_bind (d := runtime.deploymentId)
      (foreignBusyDevices_within backendCall_probe trivial)
      (fun avoid => ends_perform trivial fun r v' hstep => ?_) fun x => rfl
    rcases hstep with ⟨hn, rfl, rfl⟩ | ⟨m, rfl, rfl⟩ |
      ⟨hn, devices, rfl, hlength, hascending, hfree, rfl⟩
    · have hpositive : Floored permitted → False := by
        intro hfloor
        have hcount := resumeGpuCount_of_pinned (hpinned hfloor)
        split at hcount
        · omega
        · rename_i hne
          have := List.length_pos_iff.mpr hne
          omega
      refine ⟨rfl, rfl, fun h => (hpositive h).elim,
        fun h => (hpositive h).elim, fun hpolite x hx => ?_⟩
      simp [hheld hpolite] at hx
    · exact rfl
    · refine ⟨rfl, rfl, fun _ => rfl, fun _ => ⟨devices, rfl, hascending, ?_⟩,
        fun _ x hx => hfree x (by simpa using hx)⟩
      change some (resumeGpuCount runtime) = some (devices.length : Int)
      rw [hlength]
      congr 1
      omega

theorem resumeRuntime_ends (h : SuspendedIn permitted v runtime)
    (hheld : Polite permitted → v.held = ∅) :
    Ends s permitted free (resumeRuntime s runtime)
      (fun _ => Sound permitted free) v := by
  unfold resumeRuntime
  refine ends_bind (m := fun r v' => ∃ result, r = .ok result ∧
    Reacquired permitted free v runtime result v') (ends_attempt
      ((reacquire_ends h.pinned hheld).weaken fun r _ hr => ⟨r, rfl, hr⟩))
    ?_ ?_
  · rintro result v' ⟨_, heq, hresult⟩
    cases heq
    split
    · obtain rfl : v' = v := hresult
      split
      · exact ends_pure (h.sound hheld)
      · exact ends_raise (h.sound hheld)
    · rename_i devices
      obtain ⟨hrecord, hsent, hcarries⟩ := hresult
      have hlast : Reliable permitted → v'.lastSent = some .suspended := by
        unfold lastSent
        rw [hsent]
        exact h.sent
      split
      · exact resumePodRuntime_ends hcarries
          ⟨runtime, hrecord.trans h.record, h.status, h.pinned⟩ hlast
      · exact redispatch_ends
          ⟨hrecord.trans h.record, h.status, h.pinned, hlast⟩
  · rintro x v' ⟨_, heq, -⟩
    cases heq

/-! ## One lease, one runtime -/

theorem Sound.suspendedIn (h : Sound permitted free v)
    (hrecord : v.record = some runtime)
    (hstatus : runtime.status = .suspended) :
    SuspendedIn permitted v runtime where
  record := hrecord
  status := hstatus
  pinned hfloor := (h.fits _ hrecord).pinned hfloor (.inr hstatus)
  sent hreliable :=
    (h.fits _ hrecord).reported hreliable _ (by rw [hstatus]; rfl)

theorem getRuntime_bind_ends {β : Type} {d : String}
    {f : Option UnifiedRuntimeRecord → Agent β}
    {post : Except Exn β → Ledger → Prop}
    (h : Ends s permitted free (f v.record) post v) :
    Ends s permitted free (getRuntime d >>= f) post v := by
  refine ends_bind (m := fun r v' => v = v' ∧ r = .ok v.record)
    (ends_perform trivial ?_) ?_ ?_
  · rintro r _ ⟨rfl, rfl⟩
    exact ⟨rfl, rfl⟩
  · rintro found _ ⟨rfl, heq⟩
    cases heq
    exact h
  · rintro x _ ⟨-, heq⟩
    cases heq

theorem retry_ends (lease : LeaseAssignment)
    (existing : UnifiedRuntimeRecord) :
    Ends s permitted free (do
        terminateRuntime s existing false
        removeRuntime lease.deploymentId
        startLease s lease) (fun _ => Sound permitted free) v := by
  refine ends_bind (terminateRuntime_ends existing false) ?_
    fun x v' h => h.sound
  intro _ v₁ h₁
  refine ends_bind (m := fun _ v' => v' = { v₁ with record := none })
    (ends_perform h₁.held ?_) ?_ ?_
  · rintro r _ ⟨-, rfl⟩
    rfl
  · rintro _ _ rfl
    exact startLease_ends lease rfl h₁.held
  · rintro x _ rfl
    exact sound_of_none rfl h₁.held

theorem handleLease_ends (lease : LeaseAssignment)
    (h : Sound permitted free v) :
    Ends s permitted free (handleLease s lease)
      (fun _ => Sound permitted free) v := by
  unfold handleLease
  refine getRuntime_bind_ends ?_
  cases hrecord : v.record with
  | none =>
      dsimp only
      split
      · exact ends_pure h
      · exact startLease_ends lease hrecord (h.gone hrecord)
  | some existing =>
      have hfits := h.fits existing hrecord
      dsimp only
      split
      · cases hstatus : existing.status with
        | ready =>
            exact suspendRuntime_ends existing
              fun hfloor => hfits.pinned hfloor (.inl (.inr hstatus))
        | starting =>
            exact suspendRuntime_ends existing
              fun hfloor => hfits.pinned hfloor (.inl (.inl hstatus))
        | _ => exact ends_pure h
      · cases hstatus : existing.status with
        | suspended =>
            exact resumeRuntime_ends (h.suspendedIn hrecord hstatus)
              fun hpolite => hfits.suspended hpolite hstatus
        | accepted => exact retry_ends lease existing
        | starting => exact retry_ends lease existing
        | _ => exact ends_pure h

theorem terminateRuntime_sound (runtime : UnifiedRuntimeRecord)
    (reported : Bool) :
    Ends s permitted free (terminateRuntime s runtime reported)
      (fun _ => Sound permitted free) v :=
  (terminateRuntime_ends runtime reported).weaken fun _ _ h => h.sound

theorem getDeployment_bind_ends {β : Type} {d : String}
    {f : Except Exn (Option Deployment) → Agent β}
    {post : Except Exn β → Ledger → Prop}
    (h : ∀ r, Ends s permitted free (f r) post v) :
    Ends s permitted free (attempt (getDeployment d) >>= f) post v := by
  refine ends_bind (m := fun r v' => v = v' ∧ ∃ result, r = .ok result)
    (ends_attempt (ends_perform trivial ?_)) ?_ ?_
  · rintro r _ ⟨-, -, rfl⟩
    exact ⟨rfl, r, rfl⟩
  · rintro result _ ⟨rfl, -⟩
    exact h result
  · rintro x _ ⟨-, _, heq⟩
    cases heq

theorem reapSuspended_ends (h : Sound permitted free v) :
    Ends s permitted free (reapSuspended s runtime)
      (fun _ => Sound permitted free) v := by
  unfold reapSuspended
  refine getDeployment_bind_ends fun r => ?_
  split
  · split
    · refine ends_bind (terminateRuntime_ends runtime true) ?_
        fun x v' h => h.sound
      intro _ v₁ h₁
      refine ends_perform h₁.held ?_
      rintro r _ ⟨-, rfl⟩
      exact sound_of_none rfl h₁.held
    · exact ends_pure h
  · exact ends_pure h
  · exact ends_pure h

theorem cleanUp_ends (active fleet : List String)
    (h : Sound permitted free v) :
    Ends s permitted free (cleanUp s active fleet runtime)
      (fun _ => Sound permitted free) v := by
  unfold cleanUp
  split
  · exact ends_pure h
  · split
    · exact ends_pure h
    · exact reapSuspended_ends h
    · exact terminateRuntime_sound runtime _

theorem recoverRuntime_ends (h : Sound permitted free v) :
    Ends s permitted free (recoverRuntime s runtime)
      (fun _ => Sound permitted free) v := by
  unfold recoverRuntime
  refine getDeployment_bind_ends fun r => ?_
  split
  · exact ends_bind (terminateRuntime_sound runtime false)
      (fun _ _ h => h) fun _ _ h => h
  · split
    · exact ends_pure h
    · exact ends_bind (terminateRuntime_sound runtime _)
        (fun _ _ h => h) fun _ _ h => h
  · split
    · exact ends_pure h
    · exact ends_raise h

theorem terminateDeployment_ends (d : String) (h : Sound permitted free v) :
    Ends s permitted free (terminateDeployment s d)
      (fun _ => Sound permitted free) v := by
  unfold terminateDeployment
  refine getRuntime_bind_ends ?_
  cases v.record with
  | none => exact ends_pure h
  | some runtime =>
      exact ends_bind (terminateRuntime_sound runtime true)
        (fun _ _ h => h) fun _ _ h => h

end Ledger

end NodeAgent
