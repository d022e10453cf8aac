import NodeAgent.Application.Leased
import NodeAgent.Application.Resume

/-!
# Leases after one that raises

What a dispatch raises is caught, what a suspend, a teardown or a resume raises
is not and ends the pass.
-/

namespace NodeAgent

open Effectful Program Agent

variable {s : Settings} {M : Machine Effect Effect.Ret Exn World}
variable {w w' : World} {runtime : UnifiedRuntimeRecord}
variable {lease : LeaseAssignment} {leases : List LeaseAssignment}
variable {α β : Type}

/-- The allocator would give a resume what it asks for. -/
def canReacquire (w : World) (runtime : UnifiedRuntimeRecord) : Bool :=
  if runtime.workloadKind = .pod ∧ originalDevices runtime ≠ [] then
    World.isOk (w.allocator.allocateSpecific runtime.deploymentId
      (originalDevices runtime)).1
  else
    World.isOk (w.allocator.allocate runtime.deploymentId
      (resumeGpuCount runtime) ∅).1

/-- The lease is about to be handled outside the `try` around a dispatch. -/
def Exposed (lease : LeaseAssignment) (w : World) : Prop :=
  match w.runtimes.get? lease.deploymentId with
  | none => False
  | some existing =>
      if isSuspendedLease lease then
        existing.status = .ready ∨ existing.status = .starting
      else match existing.status with
        | .accepted | .starting => True
        | .suspended => canReacquire w existing = true
        | _ => False

/-- No lease is exposed when it comes to its turn after those before it. -/
def Sheltered (M : Machine Effect Effect.Ret Exn World) (s : Settings) :
    List LeaseAssignment → World → Prop
  | [], _ => True
  | lease :: rest, w => ¬Exposed lease w ∧
      ∀ w', Exec M (handleLease s lease) w (.ok ()) w' →
        Sheltered M s rest w'

/-- Every one of the leases was handled, and the clean up was begun. -/
def HandledAll (leases : List LeaseAssignment) (events : List Event) : Prop :=
  (∀ lease ∈ leases, ∃ event ∈ events,
    event.call = .getRuntime lease.deploymentId) ∧
  ∃ event ∈ events, event.call = .snapshotRuntimeItems

def World.locked (w : World) : World :=
  { w with
    reconcileLock := true
    log := w.log ++ [⟨.acquireReconcileLock, .ok true⟩] }

def World.unlocked (w : World) : World :=
  { w with
    reconcileLock := false
    log := w.log ++ [⟨.releaseReconcileLock, .ok ()⟩] }

/-- The pass has the lock and the leases. -/
def World.begun (w : World) (hotkey : String) (leases : List LeaseAssignment) :
    World :=
  { w.locked with
    log := w.locked.log ++ [⟨.listLeases hotkey, .ok leases⟩] }

theorem HandledAll.append {events : List Event} (h : HandledAll leases events)
    (before after : List Event) :
    HandledAll leases (before ++ events ++ after) := by
  have hmem : ∀ {e : Effect}, (∃ event ∈ events, event.call = e) →
      ∃ event ∈ before ++ events ++ after, event.call = e := by
    rintro e ⟨event, hevent, hcall⟩
    exact ⟨event, by simp [hevent], hcall⟩
  exact ⟨fun lease hlease => hmem (h.1 lease hlease), hmem h.2⟩

/-! ## Handlers that do not raise -/

theorem GpuAllocator.usable_length_le (g : GpuAllocator) (avoid : Finset Nat) :
    (g.usable avoid).length ≤ (g.usable ∅).length := by
  refine List.Sublist.length_le (List.monotone_filter_right _ fun x hx => ?_)
  simp only [decide_eq_true_eq, Finset.mem_sdiff] at hx ⊢
  exact ⟨hx.1, Finset.notMem_empty x⟩

theorem foreignBusyDevices_any (hM : Refines M) (w : World) :
    Sat M (fun _ _ => True) foreignBusyDevices (fun r w' =>
      (∃ avoid, r = .ok avoid) ∧ w'.allocator = w.allocator) w := by
  have hends : Sat M (Conduct fun _ _ => True) foreignBusyDevices
      (fun r _ => ∃ avoid, r = .ok avoid) w :=
    ((watchful_any hM).foreign w).weaken fun r w' h =>
      h.2.imp fun avoid h => h.1
  have hcalls : Within (Typed {} anyContainer) (BackendCall anyContainer "")
      foreignBusyDevices fun _ => True :=
    foreignBusyDevices_within (fun _ => trivial) trivial
  have hbooks : Sat M (fun _ _ => True) foreignBusyDevices (fun _ w' =>
      w'.allocator = w.allocator) w :=
    (backend_host hM (fun _ _ _ => trivial) hcalls.always).weaken
      fun _ _ h => h.2.2
  exact (hends.both hbooks).mono (fun _ _ _ => trivial) fun r w' h => h

theorem reacquire_refused (hM : Refines M)
    (h : canReacquire w runtime = false) :
    Sat M (fun _ _ => True) (reacquire runtime) (fun r _ =>
      ∃ message, r = .error (.gpuAllocationError message)) w := by
  unfold reacquire
  unfold canReacquire at h
  split
  · rename_i hpinned
    rw [if_pos hpinned] at h
    refine sat_step_perform hM trivial fun a _ _ => ?_
    simp only [World.perform]
    rcases w.allocator.allocateSpecific_cases runtime.deploymentId
      (originalDevices runtime) with ⟨-, heq⟩ | ⟨-, ⟨message, heq⟩, -⟩ |
        ⟨-, -, heq⟩
    · simp [heq, World.isOk] at h
    · exact ⟨message, by rw [heq]⟩
    · simp [heq, World.isOk] at h
  · rename_i hpinned
    rw [if_neg hpinned] at h
    refine (foreignBusyDevices_any hM w).bind ?_ ?_
    · rintro avoid w₁ ⟨-, hsame⟩
      refine sat_step_perform hM trivial fun a _ _ => ?_
      simp only [World.perform, hsame]
      have hrefused : ¬World.isOk (w.allocator.allocate runtime.deploymentId
          (resumeGpuCount runtime) avoid).1 = true := by
        rw [← Bool.not_eq_true, GpuAllocator.allocate_isOk] at h
        rw [GpuAllocator.allocate_isOk]
        have := w.allocator.usable_length_le avoid
        omega
      rcases w.allocator.allocate_cases runtime.deploymentId
        (resumeGpuCount runtime) avoid with ⟨-, heq⟩ | ⟨-, message, heq⟩ |
          ⟨-, -, heq⟩
      · simp [heq, World.isOk] at hrefused
      · exact ⟨message, by rw [heq]⟩
      · simp [heq, World.isOk] at hrefused
    · rintro x w₁ ⟨⟨_, heq⟩, -⟩
      cases heq

theorem handleLease_returns (hM : Refines M) (h : ¬Exposed lease w) :
    Sat M (fun _ _ => True) (handleLease s lease) (fun r _ => r = .ok ()) w := by
  have hstart : ∀ w, Sat M (fun _ _ => True) (startLease s lease)
      (fun r _ => r = .ok ()) w := fun w =>
    (startLease_answers (watchful_any hM) lease w).mono
      (fun _ _ _ => trivial) fun _ _ h => h.1
  unfold handleLease
  refine sat_step_bind hM trivial fun a _ _ => ?_
  simp only [World.perform, andThen_ok]
  unfold Exposed at h
  cases hget : w.runtimes.get? lease.deploymentId with
  | none =>
      dsimp only
      split
      · exact rfl
      · exact hstart _
  | some existing =>
      simp only [hget] at h
      dsimp only
      split
      · rename_i hsuspended
        rw [if_pos hsuspended] at h
        cases hstatus : existing.status <;>
          first | exact rfl | exact absurd (by simp [hstatus]) h
      · rename_i hactive
        rw [if_neg hactive] at h
        cases hstatus : existing.status with
        | suspended =>
            simp only [hstatus, Bool.not_eq_true] at h
            unfold resumeRuntime
            refine sat_bind'.mpr (sat_attempt.mpr ((reacquire_refused hM
              (by exact h)).weaken ?_))
            rintro r w₁ ⟨message, rfl⟩
            exact rfl
        | accepted => simp [hstatus] at h
        | starting => simp [hstatus] at h
        | _ => exact rfl

/-! ## Handlers that raise -/

def failing (leases : List LeaseAssignment) : Permitted
  | .listLeases _, r => r = .ok leases
  | .upsertRuntime _, r => World.isOk r = false
  | .getWorkload _, r => r = .error (.unexpected "")
  | .probe _, r => World.isOk r = false
  | _, _ => True

def Raises (leases : List LeaseAssignment) (p : Agent α) (w : World) : Prop :=
  Sat (host (failing leases)) (fun _ e => Returns e) p
    (fun r _ => ∃ x, r = .error x) w

theorem failing_answers {e : Effect} (he : Returns e) :
    ∃ r w', (host (failing leases)).Step w e r w' := by
  cases e with
  | listLeases hotkey =>
      exact ⟨_, _, rfl, { result := .ok leases }, rfl, rfl⟩
  | probe question =>
      refine ⟨_, _, ?_, { result := .error (.unexpected "") }, ?_, rfl⟩
      · exact (rfl : World.isOk (.error _) = false)
      · cases question <;> first | rfl | exact absurd he id
  | upsertRuntime runtime =>
      refine ⟨_, _, ?_, { result := .error (.unexpected "") }, rfl, rfl⟩
      exact (rfl : World.isOk (.error _) = false)
  | _ =>
      refine ⟨_, _, ?_, { result := .error (.unexpected "") }, rfl, rfl⟩
      first | rfl | exact trivial

theorem Raises.exists_exec {p : Agent α} (h : Raises leases p w) :
    ∃ x w', Exec (host (failing leases)) p w (.error x) w' := by
  obtain ⟨r, w', hexec⟩ := Sat.exists_exec h fun _ _ he => failing_answers he
  obtain ⟨x, rfl⟩ := Sat.exec h hexec
  exact ⟨x, w', hexec⟩

theorem raises_first {p : Agent α} {f : α → Agent β} (hp : Raises leases p w) :
    Raises leases (p >>= f) w := by
  refine sat_bind'.mpr (Sat.weaken hp ?_)
  rintro r w₁ ⟨x, rfl⟩
  exact ⟨x, rfl⟩

theorem raises_after {p : Agent α} {f : α → Agent β}
    (hp : Within anyAnswer Returns p fun _ => True)
    (hf : ∀ a w, Raises leases (f a) w) : Raises leases (p >>= f) w := by
  have hsat := Always.sat (M := host (failing leases)) (s := w) hp.always
    fun _ _ _ _ _ _ => trivial
  exact hsat.bind (fun a w₁ _ => hf a w₁) fun x w₁ _ => ⟨x, rfl⟩

theorem raises_upsert (w : World) :
    Raises leases (upsertRuntime runtime) w := by
  refine ⟨trivial, fun r w' hstep => ?_⟩
  cases r with
  | error x => exact ⟨x, rfl⟩
  | ok a => cases hstep.1

theorem removeContainer_returns (owner target : String) :
    Within anyAnswer Returns (removeContainer owner target) fun _ => True :=
  within_ignoring (within_bind (Q := fun _ => True) (perform_returns trivial)
    fun _ _ => within_pure trivial)

theorem stopRuntime_returns :
    Within anyAnswer Returns (InferenceBackend.stopRuntime s runtime)
      fun _ => True := by
  unfold InferenceBackend.stopRuntime
  cases s.inferenceBackend with
  | docker =>
      exact within_bind (Q := fun _ => True)
        (within_onlyIf fun _ => removeContainer_returns _ _)
        fun _ _ => within_pure trivial
  | process =>
      unfold ProcessInferenceBackend.stopRuntime
      dsimp only
      split
      · exact within_pure trivial
      · exact within_bind (Q := fun _ => True)
          (within_onlyIf fun _ => perform_returns trivial)
          fun _ _ => within_pure trivial
  | fallback => exact within_pure trivial

theorem stopBackend_returns :
    Within anyAnswer Returns (stopBackend s runtime) fun _ => True := by
  unfold stopBackend
  split
  · split
    · refine within_bind (Q := fun _ => True) stopRuntime_returns fun _ _ => ?_
      exact within_bind (Q := fun _ => True)
        (within_onlyIf fun _ => perform_returns trivial)
        fun _ _ => within_onlyIf fun _ => perform_returns trivial
    · exact within_pure trivial
  · split
    · refine within_bind (Q := fun _ => True) ?_ fun _ _ => ?_
      · unfold PodBackend.stopPod
        cases s.podBackend with
        | process =>
            exact within_bind (Q := fun _ => True)
              (within_onlyIf fun _ => removeContainer_returns _ _)
              fun _ _ => within_pure trivial
        | stub => exact within_pure trivial
      · refine within_bind (Q := fun _ => True) (perform_returns trivial)
          fun volume _ => ?_
        cases volume with
        | some volume => exact perform_returns trivial
        | none => exact within_pure trivial
    · exact within_pure trivial
  · exact within_pure trivial
  · exact within_pure trivial

theorem pausedOrMarked_returns :
    Within anyAnswer Returns (pausedOrMarked s runtime) fun _ => True := by
  unfold pausedOrMarked
  refine within_bind (Q := fun _ => True) (attempt_returns ?_) fun r _ => ?_
  · unfold pauseBackend
    split
    · exact pausePod_returns
    · split
      · exact within_bind (Q := fun _ => True) stopRuntime_returns
          fun _ _ => within_pure trivial
      · exact within_pure trivial
    · exact within_pure trivial
    · exact within_pure trivial
  · cases r <;> exact within_pure trivial

theorem suspendRuntime_raises : Raises leases (suspendRuntime s runtime) w := by
  unfold suspendRuntime
  refine raises_after (perform_returns trivial) fun _ _ => ?_
  exact raises_after pausedOrMarked_returns fun _ w => raises_first
    (raises_upsert w)

theorem terminateRuntime_raises (reported : Bool) :
    Raises leases (terminateRuntime s runtime reported) w := by
  unfold terminateRuntime
  refine raises_after (perform_returns trivial) fun _ _ => ?_
  exact raises_after (within_ignoring stopBackend_returns)
    fun _ w => raises_first (raises_upsert w)

theorem resumePodRuntime_raises :
    Raises leases (resumePodRuntime s runtime) w := by
  unfold resumePodRuntime
  refine raises_after (attempt_returns resumePod_returns) fun r w => ?_
  split
  · exact raises_first (raises_upsert w)
  · exact raises_after (perform_returns trivial) fun _ w => raises_upsert w
  · exact ⟨_, rfl⟩

theorem redispatch_raises : Raises leases (redispatch s runtime) w := by
  unfold redispatch
  refine raises_after (perform_returns trivial) fun _ w => raises_first ?_
  unfold workloadToResume
  refine sat_bind'.mpr (sat_attempt.mpr ⟨trivial, ?_⟩)
  rintro r w₁ ⟨rfl, -⟩
  exact ⟨_, rfl⟩

theorem reacquire_failing (h : canReacquire w runtime = true) :
    Sat (host (failing leases)) (fun _ e => Returns e) (reacquire runtime)
      (fun r _ => World.isOk r = true) w := by
  unfold reacquire
  unfold canReacquire at h
  split
  · rename_i hpinned
    rw [if_pos hpinned] at h
    exact sat_step_perform host_refines trivial fun _ _ _ => h
  · rename_i hpinned
    rw [if_neg hpinned] at h
    unfold foreignBusyDevices
    rw [sat_bind', sat_bind', sat_attempt]
    refine sat_step_bind host_refines trivial fun a _ hstep => ?_
    have hdown : World.isOk (w.perform (.probe .busyGpuDevices) a).1 = false :=
      hstep.1
    cases hresult : (w.perform (.probe .busyGpuDevices) a).1 with
    | ok busy =>
        rw [hresult] at hdown
        cases hdown
    | error x =>
        have hallocate : Sat (host (failing leases)) (fun _ e => Returns e)
            (allocate runtime.deploymentId (resumeGpuCount runtime) ∅)
            (fun r _ => World.isOk r = true)
            (w.answer (.probe .busyGpuDevices) a).2 :=
          sat_step_perform host_refines trivial fun _ _ _ => h
        exact hallocate

theorem resumeRuntime_raises (h : canReacquire w runtime = true) :
    Raises leases (resumeRuntime s runtime) w := by
  unfold resumeRuntime
  refine sat_bind'.mpr (sat_attempt.mpr
    ((reacquire_failing h).weaken fun r w₁ hok => ?_))
  cases r with
  | error x => cases hok
  | ok devices =>
      rw [andThen_ok]
      dsimp only
      split
      · exact resumePodRuntime_raises
      · exact redispatch_raises

theorem handleLease_raises (h : Exposed lease w) :
    Raises leases (handleLease s lease) w := by
  unfold handleLease
  refine sat_step_bind host_refines trivial fun a _ _ => ?_
  simp only [World.perform, andThen_ok]
  unfold Exposed at h
  cases hget : w.runtimes.get? lease.deploymentId with
  | none => simp [hget] at h
  | some existing =>
      simp only [hget] at h
      dsimp only
      split
      · rename_i hsuspended
        rw [if_pos hsuspended] at h
        rcases h with hstatus | hstatus <;> rw [hstatus] <;>
          exact suspendRuntime_raises
      · rename_i hactive
        rw [if_neg hactive] at h
        cases hstatus : existing.status with
        | suspended =>
            simp only [hstatus] at h
            exact resumeRuntime_raises (by exact h)
        | accepted => exact raises_first (terminateRuntime_raises _)
        | starting => exact raises_first (terminateRuntime_raises _)
        | _ => simp [hstatus] at h

/-! ## The loop over the leases -/

theorem listing_of_failing {e : Effect} {r : Except Exn e.Ret}
    (h : (host (failing leases)).Step w e r w') :
    (host (listing (.ok leases))).Step w e r w' := by
  refine ⟨?_, h.2⟩
  cases e with
  | listLeases hotkey => exact h.1
  | _ => exact trivial

theorem handleLease_returns_iff :
    Sat (host (listing (.ok leases))) (fun _ _ => True) (handleLease s lease)
      (fun r _ => r = .ok ()) w ↔ ¬Exposed lease w := by
  constructor
  · intro hreturns hexposed
    have hraises : Raises leases (handleLease s lease) w :=
      handleLease_raises hexposed
    obtain ⟨x, w', hexec⟩ := hraises.exists_exec
    have hraised := Reaches.widen hexec fun _ _ _ _ => listing_of_failing
    cases hreturns.exec hraised
  · exact handleLease_returns host_refines

theorem forEach_returns_iff {mine : List LeaseAssignment} :
    Sat (host (listing (.ok leases))) (fun _ _ => True)
      (forEach (handleLease s) mine) (fun r _ => r = .ok ()) w ↔
      Sheltered (host (listing (.ok leases))) s mine w := by
  induction mine generalizing w with
  | nil => exact ⟨fun _ => trivial, fun _ => rfl⟩
  | cons lease rest ih =>
      rw [forEach, sat_bind, Sheltered]
      constructor
      · intro h
        refine ⟨handleLease_returns_iff.mp (h.weaken fun r w₁ hr => ?_), ?_⟩
        · cases r with
          | ok => rfl
          | error x => cases hr
        · exact fun w₁ hexec => ih.mp (h.exec hexec)
      · rintro ⟨hunexposed, hrest⟩
        have hreturns : Sat (host (listing (.ok leases))) (fun _ _ => True)
            (handleLease s lease) (fun r _ => r = .ok ()) w :=
          handleLease_returns_iff.mpr hunexposed
        have hexec : Sat (host (listing (.ok leases))) (fun _ _ => True)
            (handleLease s lease) (fun r w₁ => Exec
              (host (listing (.ok leases))) (handleLease s lease) w r w₁) w :=
          sat_of_exec fun _ _ h => h
        refine (hreturns.both hexec).mono (fun _ _ _ => trivial) ?_
        rintro r w₁ ⟨rfl, hround⟩
        exact ih.mpr (hrest w₁ hround)

/-! ## What the loop logs -/

theorem sat_any_logged (hM : Refines M) (p : Agent α) (w : World) :
    Sat M (fun _ _ => True) p (fun _ w' => Logged w w' fun _ => True) w :=
  (Sat.logged hM (sat_of_exec fun _ _ _ => trivial)
    fun _ _ _ _ _ _ => trivial).mono (fun _ _ _ => trivial) fun _ _ h => h.2

theorem handleLease_looksUp (hM : Refines M) (w : World) :
    Sat M (fun _ _ => True) (handleLease s lease) (fun _ w' =>
      Added w w' fun events => ∃ event ∈ events,
        event.call = .getRuntime lease.deploymentId) w := by
  unfold handleLease
  refine sat_step_bind hM trivial fun a _ _ => ?_
  simp only [World.perform, andThen_ok]
  refine (sat_any_logged hM _ _).weaken fun r w₁ hrest => ?_
  have hfirst : Added w (w.answer (.getRuntime lease.deploymentId) a).2
      fun events => ∃ event ∈ events,
        event.call = .getRuntime lease.deploymentId :=
    ⟨_, log_answer a, _, List.mem_singleton_self _, rfl⟩
  refine hfirst.append hrest ?_
  rintro events events' ⟨event, hmem, hcall⟩ -
  exact ⟨event, List.mem_append_left _ hmem, hcall⟩

theorem forEach_looksUp (hM : Refines M) {mine : List LeaseAssignment} :
    Sat M (fun _ _ => True) (forEach (handleLease s) mine) (fun r w' =>
      r = .ok () → Added w w' fun events => ∀ lease ∈ mine, ∃ event ∈ events,
        event.call = .getRuntime lease.deploymentId) w := by
  induction mine generalizing w with
  | nil => exact fun _ => ⟨[], by simp, by simp⟩
  | cons lease rest ih =>
      refine (handleLease_looksUp hM w).bind (fun _ w₁ hfirst => ?_)
        fun _ _ _ heq => nomatch heq
      refine ih.weaken fun r w₂ hrest heq => ?_
      refine hfirst.append (hrest heq) fun events events' hevents hevents' => ?_
      intro other hmem
      rcases List.mem_cons.mp hmem with rfl | hmem
      · obtain ⟨event, hevent, hcall⟩ := hevents
        exact ⟨event, List.mem_append_left _ hevent, hcall⟩
      · obtain ⟨event, hevent, hcall⟩ := hevents' other hmem
        exact ⟨event, List.mem_append_right _ hevent, hcall⟩

theorem forEach_noSnapshot (hM : Refines M) {mine : List LeaseAssignment} :
    Sat M (fun _ _ => True) (forEach (handleLease s) mine) (fun _ w' =>
      Logged w w' fun event => event.call ≠ .snapshotRuntimeItems) w := by
  have hcalls : Within (Typed s anyContainer)
      (fun e => e ≠ .snapshotRuntimeItems) (forEach (handleLease s) mine)
      fun _ => True := by
    refine within_forEach fun lease _ => ?_
    refine Always.widen (handleLease_local rfl) ?_
    rintro e hlocal rfl
    exact hlocal.elim id id
  have hsat := Always.sat (M := M) (s := w) hcalls.always
    fun _ _ _ _ _ hstep => host_typed s (hM.host hstep)
  exact (Sat.logged hM hsat fun _ _ _ _ he _ => he).mono
    (fun _ _ _ => trivial) fun _ _ h => h.2

/-! ## The pass around the loop -/

theorem sat_bind_iff (e : Effect) {a : e.Ret} {w₁ : World}
    {f : e.Ret → Agent β} {post : Except Exn β → World → Prop}
    (hstep : ∀ r w', M.Step w e r w' ↔ r = .ok a ∧ w' = w₁) :
    Sat M (fun _ _ => True) (perform e >>= f) post w ↔
      Sat M (fun _ _ => True) (f a) post w₁ := by
  rw [sat_bind', sat_perform]
  constructor
  · exact fun h => h.2 _ _ ((hstep _ _).mpr ⟨rfl, rfl⟩)
  · intro h
    refine ⟨trivial, fun r w' hr => ?_⟩
    obtain ⟨rfl, rfl⟩ := (hstep r w').mp hr
    exact h

theorem acquire_step (hlock : w.reconcileLock = false)
    (r : Except Exn Bool) (w' : World) :
    (host (listing (.ok leases))).Step w .acquireReconcileLock r w' ↔
      r = .ok true ∧ w' = w.locked := by
  have hanswer : ∀ a, w.answer .acquireReconcileLock a =
      (.ok true, w.locked) := by
    intro a
    simp [World.answer, World.perform, World.locked, hlock]
  constructor
  · rintro ⟨-, a, -, heq⟩
    rw [hanswer, Prod.mk.injEq] at heq
    exact ⟨heq.1.symm, heq.2.symm⟩
  · rintro ⟨rfl, rfl⟩
    exact ⟨trivial, { result := .ok true }, rfl, hanswer _⟩

theorem listLeases_step (hotkey : String)
    (r : Except Exn (List LeaseAssignment)) (w' : World) :
    (host (listing (.ok leases))).Step w.locked (.listLeases hotkey) r w' ↔
      r = .ok leases ∧ w' = w.begun hotkey leases := by
  constructor
  · rintro ⟨hlisting, a, -, heq⟩
    obtain rfl : r = .ok leases := hlisting
    simp only [World.answer, World.perform, Prod.mk.injEq] at heq
    rw [heq.1] at heq
    exact ⟨rfl, heq.2.symm⟩
  · rintro ⟨rfl, rfl⟩
    exact ⟨rfl, { result := .ok leases }, rfl, rfl⟩

theorem unlock_step (r : Except Exn Unit) (w' : World) :
    (host (listing (.ok leases))).Step w .releaseReconcileLock r w' ↔
      r = .ok () ∧ w' = w.unlocked := by
  constructor
  · rintro ⟨-, a, -, heq⟩
    simp only [World.answer, World.perform, Prod.mk.injEq] at heq
    exact ⟨heq.1.symm, heq.2.symm⟩
  · rintro ⟨rfl, rfl⟩
    exact ⟨trivial, { result := .ok () }, rfl, rfl⟩

theorem syncLeases_iff {hotkey : String} {f : List LeaseAssignment → Agent β}
    {post : Except Exn β → World → Prop} :
    Sat (host (listing (.ok leases))) (fun _ _ => True)
      (syncLeases hotkey >>= f) post w.locked ↔
    Sat (host (listing (.ok leases))) (fun _ _ => True) (f leases) post
      (w.begun hotkey leases) := by
  unfold syncLeases
  rw [sat_bind', sat_bind', sat_attempt, sat_perform]
  constructor
  · exact fun h => h.2 _ _ ((listLeases_step hotkey _ _).mpr ⟨rfl, rfl⟩)
  · intro h
    refine ⟨trivial, fun r w' hr => ?_⟩
    obtain ⟨rfl, rfl⟩ := (listLeases_step hotkey r w').mp hr
    exact h

theorem reconcileOnce_iff {hotkey : String} (hlock : w.reconcileLock = false)
    {post : Except Exn Unit → World → Prop} :
    Sat (host (listing (.ok leases))) (fun _ _ => True)
      (reconcileOnce s hotkey) post w ↔
    Sat (host (listing (.ok leases))) (fun _ _ => True)
      (forEach (handleLease s) (leases.filter (isMine s)) >>= fun _ =>
        snapshotRuntimeItems >>= fun runtimes =>
          forEach (cleanUp s (activeIds s leases)
            (leases.map (·.deploymentId))) runtimes)
      (fun r w₁ => post r w₁.unlocked) (w.begun hotkey leases) := by
  unfold reconcileOnce underReconcileLock
  rw [sat_bind_iff .acquireReconcileLock (acquire_step hlock)]
  simp only [if_true]
  rw [sat_bind', sat_attempt]
  refine (sat_congr fun r w₁ => ?_).trans syncLeases_iff
  rw [andThen_ok, sat_bind_iff .releaseReconcileLock unlock_step]
  cases r <;> rfl

/--
In every run of a pass all leases of this node are handled and the clean up is
begun, if and only if no lease comes to its turn exposed.
-/
theorem pass_survives_iff {hotkey : String} (hlock : w.reconcileLock = false) :
    (∀ r w', Exec (host (listing (.ok leases))) (reconcileOnce s hotkey) w r w' →
      HandledAll (leases.filter (isMine s)) (issued w w')) ↔
    Sheltered (host (listing (.ok leases))) s (leases.filter (isMine s))
      (w.begun hotkey leases) := by
  have hbegun : Logged w (w.begun hotkey leases) fun event =>
      event.call ≠ .snapshotRuntimeItems :=
    ⟨[⟨.acquireReconcileLock, .ok true⟩, ⟨.listLeases hotkey, .ok leases⟩],
      by simp [World.begun, World.locked], by simp⟩
  rw [← forEach_returns_iff]
  constructor
  · intro hhandled
    have hpass := (reconcileOnce_iff hlock).mp (sat_of_exec hhandled)
    rw [sat_bind'] at hpass
    refine (hpass.both (forEach_noSnapshot host_refines)).mono
      (fun _ _ _ => trivial) fun r w₁ h => ?_
    obtain ⟨hrest, hlogged⟩ := h
    cases r with
    | ok => rfl
    | error x =>
        rw [andThen_error] at hrest
        have hends : Logged w w₁.unlocked fun event =>
            event.call ≠ .snapshotRuntimeItems :=
          (hbegun.trans hlogged).trans ⟨_, rfl, by simp⟩
        obtain ⟨event, hmem, hcall⟩ := hrest.2
        exact absurd hcall (hends.issued event hmem)
  · intro hreturns r w' hexec
    have hpass : Sat (host (listing (.ok leases))) (fun _ _ => True)
        (reconcileOnce s hotkey) (fun _ w' =>
          HandledAll (leases.filter (isMine s)) (issued w w')) w := by
      refine (reconcileOnce_iff hlock).mpr ?_
      refine ((hreturns.both (forEach_looksUp host_refines)).mono
        (fun _ _ _ => trivial) fun _ _ h => h).bind (fun _ w₁ h => ?_)
        fun _ _ h => nomatch h.1
      refine sat_step_bind host_refines trivial fun a _ _ => ?_
      refine (sat_any_logged host_refines _ _).weaken fun r₁ w₂ hclean => ?_
      have hsnapshot : Added w₁ (w₁.answer .snapshotRuntimeItems a).2
          fun events => ∃ event ∈ events, event.call = .snapshotRuntimeItems :=
        ⟨_, log_answer a, _, List.mem_singleton_self _, rfl⟩
      have hrest := hsnapshot.append hclean (R := fun events =>
          ∃ event ∈ events, event.call = .snapshotRuntimeItems)
        fun events _ hevents _ => hevents.imp fun event hevent =>
          ⟨List.mem_append_left _ hevent.1, hevent.2⟩
      have hloops := (h.2 rfl).append hrest
        (R := HandledAll (leases.filter (isMine s)))
        fun events events' hevents hevents' =>
          ⟨fun lease hmem => (hevents lease hmem).imp fun event hevent =>
              ⟨List.mem_append_left _ hevent.1, hevent.2⟩,
            hevents'.imp fun event hevent =>
              ⟨List.mem_append_right _ hevent.1, hevent.2⟩⟩
      have hends : Logged w₂ w₂.unlocked fun _ => True := ⟨_, rfl, by simp⟩
      have hafter := hloops.append hends
        (R := HandledAll (leases.filter (isMine s)))
        fun events events' hevents _ => hevents.append [] _
      exact (hbegun.append hafter fun events events' _ hevents => by
        simpa using hevents.append events []).issued
    exact hpass.exec hexec

/-! ## A node whose disk is full -/

/-- No record can be written to the state file. -/
def fullDisk (leases : List LeaseAssignment) : Environment := fun w e =>
  match e with
  | .upsertRuntime _ =>
      { result := .error (.osError "No space left on device") }
  | e => podHost leases w e

theorem fullDisk_listing (leases : List LeaseAssignment) :
    (fullDisk leases).Respects (listing (.ok leases)) := by
  intro w e
  cases e with
  | listLeases hotkey => exact rfl
  | _ => exact trivial

theorem handleLease_record {permitted : Permitted} {d : String}
    (hne : lease.deploymentId ≠ d) (record : Option UnifiedRuntimeRecord) :
    Keeps (host permitted) (fun _ _ => True)
      (fun w => w.runtimes.get? d = record) (handleLease s lease) := by
  refine keeps_of_always (@handleLease_local s anyContainer _ lease rfl).always
    (fun _ _ _ _ => trivial) fun w e r w' hrecord hlocal hstep => ?_
  refine ⟨host_typed s hstep, ?_⟩
  obtain ⟨a, -, -, rfl⟩ := host_refines.answered hstep
  refine (World.perform_record w e a d).trans ?_
  rw [hrecord]
  cases e with
  | upsertRuntime runtime =>
      exact if_neg (hlocal.owner_eq rfl ▸ hne)
  | removeRuntime b => exact if_neg (hlocal.owner_eq rfl ▸ hne)
  | _ => rfl

/-- The first dispatch raises on the full disk, and neither the second lease nor
the clean up is kept away. -/
theorem pass_survives_iff_dispatch :
    HandledAll [leaseOn "pod-1", leaseOn "pod-2"] (issued (.init {})
      (replayed (fullDisk [leaseOn "pod-1", leaseOn "pod-2"])
        (reconcileOnce {} "hotkey") (.init {}))) := by
  obtain ⟨r, hexec⟩ := replayed_exec
    (fullDisk_listing [leaseOn "pod-1", leaseOn "pod-2"])
    (p := reconcileOnce {} "hotkey") (w := .init {}) rfl
  have hmine : [leaseOn "pod-1", leaseOn "pod-2"].filter (isMine {}) =
      [leaseOn "pod-1", leaseOn "pod-2"] := rfl
  rw [← hmine]
  refine (pass_survives_iff rfl).mpr ?_ r _ hexec
  refine ⟨id, fun w' hfirst => ⟨fun hexposed => ?_, fun _ _ => trivial⟩⟩
  have hkept := @handleLease_record {} (leaseOn "pod-1")
    (listing (.ok [leaseOn "pod-1", leaseOn "pod-2"])) "pod-2" (by decide) none
  have hnone : w'.runtimes.get? (leaseOn "pod-2").deploymentId = none :=
    (hkept _ rfl).exec hfirst
  rw [Exposed, hnone] at hexposed
  exact hexposed

/-- The pass in which the first pod is to be suspended. -/
def suspendingOnFullDisk : World :=
  replayed (fullDisk [suspendedLease "pod-1", leaseOn "pod-2"])
    (reconcileOnce {} "hotkey") onePodNode

/-- A suspend that raises keeps the second lease and the clean up away. -/
theorem suspend_ends_pass :
    NodeRun {} (host ownErrors) onePodNode ∧
    isMine {} (leaseOn "pod-2") = true ∧
    (∃ r, Exec (host (listing (.ok [suspendedLease "pod-1", leaseOn "pod-2"])))
      (reconcileOnce {} "hotkey") onePodNode r suspendingOnFullDisk) ∧
    (∀ event ∈ issued onePodNode suspendingOnFullDisk,
      event.call.owner ≠ some "pod-2") ∧
    ¬HandledAll [suspendedLease "pod-1", leaseOn "pod-2"]
      (issued onePodNode suspendingOnFullDisk) := by
  have hcalls : (issued onePodNode suspendingOnFullDisk).map
      (·.call.owner) = [none, none, some "pod-1", some "pod-1", some "pod-1",
        some "pod-1", none] := rfl
  have howner : ∀ event ∈ issued onePodNode suspendingOnFullDisk,
      event.call.owner ≠ some "pod-2" := by
    intro event hmem heq
    have := List.mem_map_of_mem (f := (·.call.owner)) hmem
    simp [hcalls, heq] at this
  refine ⟨onePodNode_run, rfl,
    replayed_exec (fullDisk_listing _) rfl, howner, fun hhandled => ?_⟩
  obtain ⟨event, hmem, hcall⟩ := hhandled.1 (leaseOn "pod-2") (by simp)
  exact howner event hmem (by rw [hcall]; rfl)

end NodeAgent
