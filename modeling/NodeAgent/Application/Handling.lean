import NodeAgent.Application.Conduct

/-!
# What handling a lease or a runtime comes to

Each branch of the two loops of a pass: the calls it may make, and what it has
made of the deployment when it returns.
-/

namespace NodeAgent

open Effectful Program Agent

variable {s : Settings} {M : Machine Effect Effect.Ret Exn World}
variable {F : World → Finset Nat → Prop} {w w' : World}
variable {runtime : UnifiedRuntimeRecord} {d : String} {α β : Type}

/-! ## Tearing down -/

/-- Calls that tear a runtime down; `reported` allows the report of it. -/
def TeardownCall (d : String) (reported : Bool) : Effect → Prop
  | .release owner | .removeRuntime owner | .getDeployment owner
  | .getRuntime owner => owner = d
  | .upsertRuntime runtime => runtime.deploymentId = d ∧
      runtime.status = .terminated
  | .updateDeploymentStatus update => reported = true ∧
      update.deploymentId = d ∧ update.state = .terminated
  | e => StopCall anyContainer d e

theorem StopCall.teardownCall {e : Effect} (h : StopCall anyContainer d e)
    (reported : Bool) : TeardownCall d reported e := by
  cases e <;> first | exact h | exact h.elim

theorem TeardownCall.local {e : Effect} {reported : Bool}
    (h : TeardownCall d reported e) : Local s anyContainer d e := by
  cases e with
  | release _ => exact .inr h
  | removeRuntime _ => exact .inr h
  | getDeployment _ => exact .inr h
  | getRuntime _ => exact .inr h
  | upsertRuntime runtime => exact .inr ⟨h.1, fun _ _ _ => trivial⟩
  | updateDeploymentStatus update => exact .inr h.2.1
  | _ => exact .inl (StopCall.backendCall h)

theorem TeardownCall.conduct {e : Effect} (h : TeardownCall d false e)
    (w : World) : Conduct F w e := by
  cases e with
  | upsertRuntime runtime => exact classed_of_status (.inr (.inr h.2)) w
  | updateDeploymentStatus update => exact absurd h.1 Bool.false_ne_true
  | allocate _ _ _ => exact h.elim
  | allocateSpecific _ _ => exact h.elim
  | _ => exact trivial

theorem TeardownCall.reported {e : Effect} (h : TeardownCall d false e) :
    TeardownCall d true e := by
  cases e with
  | updateDeploymentStatus update => exact absurd h.1 Bool.false_ne_true
  | _ => exact h

theorem perform_teardown {e : Effect} {reported : Bool}
    (he : TeardownCall d reported e) :
    Within (Typed s anyContainer) (TeardownCall d reported) (perform e)
      fun _ => True :=
  within_perform he fun _ _ => trivial

theorem terminateRuntime_teardown (hid : runtime.deploymentId = d)
    (reported : Bool) :
    Within (Typed s anyContainer) (TeardownCall d reported)
      (terminateRuntime s runtime reported) fun _ => True := by
  subst hid
  unfold terminateRuntime
  refine within_bind (perform_teardown rfl) fun _ _ => ?_
  have hstop := stopBackend_stops (s := s) (Ledger.belongs_any runtime)
  refine within_bind (within_ignoring
    (Always.widen hstop fun e he => he.teardownCall reported)) fun _ _ => ?_
  refine within_bind (perform_teardown ⟨rfl, rfl⟩) fun _ _ => ?_
  exact within_onlyIf fun hreported =>
    within_ignoring (perform_teardown ⟨hreported, rfl, rfl⟩)

theorem reapSuspended_teardown (hid : runtime.deploymentId = d) :
    Within (Typed s anyContainer) (TeardownCall d true)
      (reapSuspended s runtime) fun _ => True := by
  unfold reapSuspended
  refine within_bind (within_attempt (Q := fun _ => True)
    (perform_teardown hid) fun _ => trivial) fun r _ => ?_
  split
  · split
    · refine within_bind (terminateRuntime_teardown hid true) fun _ _ => ?_
      exact perform_teardown hid
    · exact within_pure trivial
  · exact within_pure trivial
  · exact within_pure trivial

theorem cleanUp_teardown (hid : runtime.deploymentId = d)
    (active fleet : List String) :
    Within (Typed s anyContainer) (TeardownCall d true)
      (cleanUp s active fleet runtime) fun _ => True := by
  unfold cleanUp
  split
  · exact within_pure trivial
  · split
    · exact within_pure trivial
    · exact reapSuspended_teardown hid
    · refine Always.widen (terminateRuntime_teardown hid _) fun e he => ?_
      cases hreported : decide (runtime.deploymentId ∉ fleet) with
      | true => exact hreported ▸ he
      | false => exact (hreported ▸ he : TeardownCall d false e).reported

theorem recoverRuntime_teardown (hid : runtime.deploymentId = d) :
    Within (Typed s anyContainer) (TeardownCall d true)
      (recoverRuntime s runtime) fun _ => True := by
  have hterminate : ∀ reported, Within (Typed s anyContainer)
      (TeardownCall d true) (terminateRuntime s runtime reported)
      fun _ => True := by
    intro reported
    refine Always.widen (terminateRuntime_teardown hid reported) fun e he => ?_
    cases reported with
    | true => exact he
    | false => exact he.reported
  unfold recoverRuntime
  refine within_bind (within_attempt (Q := fun _ => True)
    (perform_teardown hid) fun _ => trivial) fun r _ => ?_
  split
  · exact within_bind (hterminate _) fun _ _ => within_pure trivial
  · split
    · exact within_pure trivial
    · exact within_bind (hterminate _) fun _ _ => within_pure trivial
  · split
    · exact within_pure trivial
    · exact within_raise

theorem terminateDeployment_teardown (d : String) :
    Within (Typed s anyContainer) (TeardownCall d true)
      (terminateDeployment s d) fun _ => True := by
  have hget : Within (Typed s anyContainer) (TeardownCall d true)
      (getRuntime d) fun found => ∀ runtime, found = some runtime →
        runtime.deploymentId = d := by
    refine within_perform rfl fun found h runtime heq => ?_
    subst heq
    exact h.1
  unfold terminateDeployment
  refine within_bind hget fun found hfound => ?_
  cases found with
  | none => exact within_pure trivial
  | some runtime =>
      exact within_bind (terminateRuntime_teardown (hfound runtime rfl) true)
        fun _ _ => within_pure trivial

theorem terminateRuntime_conduct (hM : Refines M) :
    Keeps M (Conduct F) (fun _ => True)
      (terminateRuntime s runtime false) :=
  keeps_of_always (terminateRuntime_teardown rfl false).always
    (fun w _ _ he => he.conduct w)
    fun _ _ _ _ _ _ hstep => ⟨host_typed s (hM.host hstep), trivial⟩

theorem terminateRuntime_terminates (hM : Refines M) (reported : Bool)
    (w : World) :
    Sat M (fun _ _ => True) (terminateRuntime s runtime reported)
      (fun r w' => r = .ok () → ∃ stopped,
        w'.runtimes.get? runtime.deploymentId = some stopped ∧
          stopped.status = .terminated) w := by
  have hany : ∀ {α : Type} (p : Agent α) (w : World),
      Sat M (fun _ _ => True) p (fun _ _ => True) w :=
    fun p w => sat_of_exec fun _ _ _ => trivial
  unfold terminateRuntime
  refine sat_step_bind hM trivial fun a _ _ => ?_
  refine (hany _ _).andThen (fun _ _ h => nomatch h) fun _ w₁ _ => ?_
  refine sat_step_bind hM trivial fun b _ _ => ?_
  have hwritten := written_answer b (w := w₁)
  cases (w₁.perform (.upsertRuntime _) b).1 with
  | error x => exact fun heq => nomatch heq
  | ok =>
      rw [andThen_ok]
      refine sat_onlyIf.mpr ?_
      split
      · refine sat_ignoring.mpr (sat_step_perform hM trivial fun c _ _ => ?_)
        split
        · exact fun _ => ⟨_, hwritten, rfl⟩
        · split
          · exact fun _ => ⟨_, hwritten, rfl⟩
          · exact fun heq => nomatch heq
      · exact fun _ => ⟨_, hwritten, rfl⟩

/-! ## Suspending -/

theorem suspendRuntime_conduct (hM : Refines M)
    (hget : w.runtimes.get? runtime.deploymentId = some runtime)
    (hlasting : Lasting runtime) :
    Sat M (Conduct F) (suspendRuntime s runtime) (fun r w' => r = .ok () →
      ∃ paused, w'.runtimes.get? runtime.deploymentId = some paused ∧
        paused.status = .suspended) w := by
  unfold suspendRuntime
  refine sat_step_bind hM trivial fun a _ _ => ?_
  have hpaused := (pausedOrMarked_always (s := s)
    (Ledger.belongs_any runtime)).widen fun _ => StopCall.backendCall
  refine (backend_host hM (fun w e he => conduct_backendCall
    (F := F) he w) hpaused).andThen (fun _ _ h => nomatch h)
    fun paused w₁ h => ?_
  obtain ⟨⟨_, heq, ⟨hid, -⟩, hkept, hstatus⟩, hruntimes, -⟩ := h
  cases heq
  have hbefore : w₁.runtimes.get? paused.deploymentId = some runtime := by
    rw [hruntimes, hid]
    exact hget
  refine sat_step_bind hM (fun _ => .inr ⟨runtime, hbefore, hlasting,
    hkept.workloadKind.symm⟩) fun b _ _ => ?_
  have hrecord : (w₁.answer (.upsertRuntime paused) b).2.runtimes.get?
      runtime.deploymentId = some paused := by
    simp [World.answer, World.perform, World.saved, Table.get?_upsert, hid]
  cases (w₁.perform (.upsertRuntime paused) b).1 with
  | error x => exact fun heq => nomatch heq
  | ok =>
      rw [andThen_ok]
      refine sat_ignoring.mpr (sat_step_perform hM ?_ fun c _ _ => ?_)
      · simp [Conduct]
      · split
        · exact fun _ => ⟨paused, hrecord, hstatus⟩
        · split
          · exact fun _ => ⟨paused, hrecord, hstatus⟩
          · exact fun heq => nomatch heq

/-! ## Resuming -/

/-- What a resume asks for is granted: devices, the workload, a `docker start`. -/
def Granted : Permitted
  | .allocate _ _ _, r | .allocateSpecific _ _, r => World.isOk r = true
  | .getWorkload _, r => World.isOk r = true
  | .dockerStart _ _, r => World.exitedZero r = true
  | _, _ => True

def Generous (M : Machine Effect Effect.Ret Exn World) : Prop :=
  ∀ w e r w', M.Step w e r w' → Granted e r

theorem restartContainer_conduct (hM : Refines M) (w : World) :
    Sat M (Conduct F) (ProcessPodBackend.restartContainer runtime)
      (fun r _ => Generous M → r = .ok ()) w := by
  unfold ProcessPodBackend.restartContainer
  split
  · unfold orNotAvailable
    rw [sat_bind']
    refine sat_step_attempt hM trivial fun a _ hstep => ?_
    have hgranted : Generous M → World.exitedZero (w.perform (.dockerStart
        runtime.deploymentId (runtime.containerId.getD "")) a).1 = true :=
      fun h => h w _ _ _ hstep
    cases hresult : (w.perform (.dockerStart runtime.deploymentId
        (runtime.containerId.getD "")) a).1 with
    | ok completed =>
        rw [sat_pure, andThen_ok]
        split
        · rename_i hne
          intro h
          have hzero := hgranted h
          rw [hresult] at hzero
          exact absurd (by simpa [World.exitedZero] using hzero) hne
        · exact fun _ => rfl
    | error x =>
        have hraised : ¬Generous M := fun h => by
          have hzero := hgranted h
          rw [hresult] at hzero
          exact absurd hzero Bool.false_ne_true
        dsimp only
        split <;> exact fun h => absurd h hraised
  · exact fun _ => rfl

theorem resumePod_conduct (hM : Refines M) (w : World) :
    Sat M (Conduct F) (PodBackend.resumePod s runtime) (fun r _ =>
      (Generous M → ∃ resumed, r = .ok resumed) ∧
      ∀ resumed, r = .ok resumed →
        resumed.deploymentId = runtime.deploymentId ∧
          resumed.workloadKind = runtime.workloadKind ∧
            resumed.status = .ready) w := by
  have hready : ∀ (w' : World), (Generous M → ∃ resumed,
      Except.ok (ε := Exn) { runtime with
        status := .ready, currentStage := "ready" } = .ok resumed) ∧
      ∀ resumed, Except.ok (ε := Exn) { runtime with
        status := .ready, currentStage := "ready" } = .ok resumed →
          resumed.deploymentId = runtime.deploymentId ∧
            resumed.workloadKind = runtime.workloadKind ∧
              resumed.status = .ready := by
    intro w'
    refine ⟨fun _ => ⟨_, rfl⟩, fun resumed heq => ?_⟩
    cases heq
    exact ⟨rfl, rfl, rfl⟩
  unfold PodBackend.resumePod
  split
  · unfold ProcessPodBackend.resumePod
    refine (restartContainer_conduct hM w).bind (fun _ w' _ => hready w')
      fun x w' h => ⟨fun hgenerous => ?_, fun _ heq => nomatch heq⟩
    cases h hgenerous
  · exact hready w

/-- The runtime is suspended, still or again. -/
def Suspended (w : World) (d : String) : Prop :=
  ∃ runtime, w.runtimes.get? d = some runtime ∧ runtime.status = .suspended

theorem resumePodRuntime_conduct (hM : Refines M)
    (hkind : runtime.workloadKind = .pod) (w : World) :
    Sat M (Conduct F) (resumePodRuntime s runtime) (fun r w' => r = .ok () →
      Concluded w' runtime.deploymentId ∨
        ¬Generous M ∧ Suspended w' runtime.deploymentId) w := by
  have hknown : KnownKind runtime.workloadKind := by rw [hkind]; trivial
  unfold resumePodRuntime
  refine sat_bind'.mpr (sat_attempt.mpr
    ((resumePod_conduct hM w).weaken fun r w₁ h => ?_))
  rw [andThen_ok]
  cases r with
  | ok resumed =>
      obtain ⟨hid, hsame, hstatus⟩ := h.2 resumed rfl
      have hready := writeReady_concludes (F := F) hM resumed hstatus
        (hsame ▸ hknown) w₁
      rw [hid] at hready
      exact hready.weaken fun r w₂ h heq => .inl (h heq)
  | error x =>
      have hrefused : ¬Generous M := fun hgenerous => by
        obtain ⟨resumed, heq⟩ := h.1 hgenerous
        cases heq
      dsimp only
      split
      · rename_i heq
        cases heq
      · refine sat_step_bind hM trivial fun a _ _ => ?_
        refine sat_step_perform hM (classed_of_known (by exact hknown) _)
          fun b _ _ _ => .inr ⟨hrefused, _, written_answer b, rfl⟩
      · exact fun heq => nomatch heq

/-- The control plane may give this answer when asked for the workload. -/
def Recalls (M : Machine Effect Effect.Ret Exn World) (workloadId : String)
    (found : Option WorkloadSpec) : Prop :=
  ∃ w w', M.Step w (.getWorkload workloadId) (.ok found) w'

/--
What a resume comes to: the runtime is back, or its workload is forgotten, or it
is still suspended since something was refused.
-/
inductive Resumed (M : Machine Effect Effect.Ret Exn World) (w : World)
    (runtime : UnifiedRuntimeRecord) (w' : World) : Prop
  | back (hconcluded : Concluded w' runtime.deploymentId)
      (hcause : runtime.workloadKind = .pod ∨
        ∃ workload, Recalls M runtime.workloadId (some workload))
  | forgotten (hkind : runtime.workloadKind ≠ .pod)
      (hnone : Recalls M runtime.workloadId none)
      (hunmoved : Unmoved w runtime.deploymentId w')
  | refused (hrefused : ¬Generous M)
      (hsuspended : Suspended w' runtime.deploymentId)

theorem Resumed.after {w₁ : World} (h : Resumed M w₁ runtime w')
    (hmoved : Unmoved w runtime.deploymentId w₁) : Resumed M w runtime w' := by
  cases h with
  | back hconcluded hcause => exact .back hconcluded hcause
  | forgotten hkind hnone hunmoved =>
      exact .forgotten hkind hnone (hmoved.trans hunmoved)
  | refused hrefused hsuspended => exact .refused hrefused hsuspended

theorem workloadToResume_conduct (hM : Refines M) (w : World) :
    Sat M (Conduct F) (workloadToResume runtime) (fun r w' =>
      (∀ d, Unmoved w d w') ∧ ∀ found, r = .ok found →
        Recalls M runtime.workloadId found ∨
          found = none ∧ ¬Generous M) w := by
  unfold workloadToResume
  refine sat_step_attempt hM trivial fun a _ hstep => ?_
  have hunmoved : ∀ d, Unmoved w d
      (w.answer (.getWorkload runtime.workloadId) a).2 :=
    fun d => unmoved_answer a rfl fun _ => rfl
  have hgranted : Generous M → World.isOk
      (w.perform (.getWorkload runtime.workloadId) a).1 = true :=
    fun h => h _ _ _ _ hstep
  cases hfound : (w.perform (.getWorkload runtime.workloadId) a).1 with
  | ok found =>
      rw [hfound] at hstep
      refine ⟨hunmoved, fun found' heq => ?_⟩
      cases heq
      exact .inl ⟨_, _, hstep⟩
  | error x =>
      have hrefused : ¬Generous M := fun h => by
        have hok := hgranted h
        rw [hfound] at hok
        exact absurd hok Bool.false_ne_true
      dsimp only
      split
      · refine ⟨hunmoved, fun found heq => ?_⟩
        cases heq
        exact .inr ⟨rfl, hrefused⟩
      · exact ⟨hunmoved, fun _ heq => nomatch heq⟩

theorem redispatch_conduct (hM : Watchful M F)
    (hget : w.runtimes.get? runtime.deploymentId = some runtime)
    (hstatus : runtime.status = .suspended)
    (hkind : runtime.workloadKind ≠ .pod) :
    Sat M (Conduct F) (redispatch s runtime) (fun r w' => r = .ok () →
      KnownKind runtime.workloadKind → Resumed M w runtime w') w := by
  unfold redispatch
  refine sat_step_bind hM.refines trivial fun a _ _ => ?_
  have hreleased : Unmoved w runtime.deploymentId
      (w.answer (.release runtime.deploymentId) a).2 :=
    unmoved_answer a rfl fun _ => rfl
  refine (workloadToResume_conduct hM.refines _).bind
    (fun found w₁ hfound => ?_) fun _ _ _ h => nomatch h
  obtain ⟨hunmoved, hrecalled⟩ := hfound
  have hrecalled := hrecalled found rfl
  have hmoved := hreleased.trans (hunmoved runtime.deploymentId)
  cases found with
  | none =>
      intro _ _
      rcases hrecalled with hnone | ⟨-, hrefused⟩
      · exact .forgotten hkind hnone hmoved
      · exact .refused hrefused ⟨runtime, hmoved.1.trans hget, hstatus⟩
  | some workload =>
      have hrecall : Recalls M runtime.workloadId (some workload) := by
        rcases hrecalled with hsome | ⟨hnone, -⟩
        · exact hsome
        · cases hnone
      have hstarted : ∀ {p : Agent Unit} {w₂ : World},
          Concludes M F runtime.deploymentId p →
          Sat M (Conduct F) p (fun r w' => r = .ok () →
            KnownKind runtime.workloadKind → Resumed M w runtime w') w₂ :=
        fun hp => (hp _).weaken fun r w₃ h heq _ =>
          .back (h heq) (.inr ⟨workload, hrecall⟩)
      have haccepted : Keeps M (Conduct F) (fun _ => True)
          (upsertRuntime { runtime with
            status := .accepted, currentStage := "accepted" }) :=
        conduct_upsert (classed_of_status (.inl rfl))
      refine (haccepted w₁ trivial).andThen (fun _ _ h => nomatch h)
        fun _ w₂ _ => ?_
      split
      · exact hstarted (startInferenceRuntime_concludes hM (by assumption)
          workload)
      · exact hstarted (startVmRuntime_concludes hM (by assumption) workload)
      · exact absurd (by assumption) hkind
      · rename_i hother
        intro _ h
        rw [hother] at h
        exact h.elim

theorem reacquire_conduct (hM : Watchful M F)
    (hget : w.runtimes.get? runtime.deploymentId = some runtime)
    (hstatus : runtime.status = .suspended) :
    Sat M (Conduct F) (reacquire runtime) (fun r w' =>
      (∀ d, Unmoved w d w') ∧ (Generous M → World.isOk r = true)) w := by
  unfold reacquire
  split
  · rename_i hpinned
    refine sat_step_perform hM.refines
      ⟨runtime, hget, hstatus, hpinned.1, rfl⟩ fun a _ hstep => ?_
    exact ⟨fun d => unmoved_answer a rfl fun _ => rfl,
      fun h => h _ _ _ _ hstep⟩
  · refine (hM.foreign w).bind ?_ ?_
    · rintro avoid w₁ ⟨hunmoved, _, heq, haware⟩
      cases heq
      refine sat_step_perform hM.refines haware fun a _ hstep => ?_
      exact ⟨fun d => (hunmoved d).trans (unmoved_answer a rfl fun _ => rfl),
        fun h => h _ _ _ _ hstep⟩
    · rintro x w₁ ⟨-, _, heq, -⟩
      cases heq

theorem resumeRuntime_conduct (hM : Watchful M F)
    (hget : w.runtimes.get? runtime.deploymentId = some runtime)
    (hstatus : runtime.status = .suspended) :
    Sat M (Conduct F) (resumeRuntime s runtime) (fun r w' => r = .ok () →
      KnownKind runtime.workloadKind → Resumed M w runtime w') w := by
  unfold resumeRuntime
  refine sat_bind'.mpr (sat_attempt.mpr
    ((reacquire_conduct hM hget hstatus).weaken fun r w₁ h => ?_))
  obtain ⟨hunmoved, hgranted⟩ := h
  have hget₁ : w₁.runtimes.get? runtime.deploymentId = some runtime :=
    (hunmoved _).1.trans hget
  rw [andThen_ok]
  cases r with
  | error x =>
      have hrefused : ¬Generous M := fun hgenerous =>
        nomatch hgranted hgenerous
      dsimp only
      split
      · exact fun _ _ => .refused hrefused ⟨runtime, hget₁, hstatus⟩
      · exact fun heq => nomatch heq
  | ok devices =>
      dsimp only
      split
      · rename_i hkind
        refine (resumePodRuntime_conduct hM.refines (by exact hkind) w₁).weaken
          fun r w₂ h heq _ => ?_
        rcases h heq with hconcluded | ⟨hrefused, hsuspended⟩
        · exact .back hconcluded (.inl hkind)
        · exact .refused hrefused hsuspended
      · exact (redispatch_conduct hM hget₁ hstatus (by assumption)).weaken
          fun r w₂ h heq hknown => (h heq hknown).after (hunmoved _)

/-! ## One lease -/

/-- What has become of the deployment when the handler of its lease returns. -/
def Outcome (M : Machine Effect Effect.Ret Exn World) (w : World)
    (lease : LeaseAssignment) (w' : World) : Prop :=
  match w.runtimes.get? lease.deploymentId with
  | none =>
      if isSuspendedLease lease then Unmoved w lease.deploymentId w'
      else Answered M w' lease.deploymentId
  | some existing =>
      if isSuspendedLease lease then
        match existing.status with
        | .ready | .starting => ∃ paused,
            w'.runtimes.get? lease.deploymentId = some paused ∧
              paused.status = .suspended
        | _ => Unmoved w lease.deploymentId w'
      else
        match existing.status with
        | .suspended => KnownKind existing.workloadKind →
            Resumed M w existing w'
        | .accepted | .starting => Answered M w' lease.deploymentId
        | _ => Unmoved w lease.deploymentId w'

theorem retry_answers (hM : Watchful M F) (lease : LeaseAssignment)
    (existing : UnifiedRuntimeRecord) (w : World) :
    Sat M (Conduct F) (do
        terminateRuntime s existing false
        removeRuntime lease.deploymentId
        startLease s lease)
      (fun r w' => r = .ok () → Answered M w' lease.deploymentId) w := by
  refine (terminateRuntime_conduct hM.refines w trivial).andThen
    (fun _ _ h => nomatch h) fun _ w₁ _ => ?_
  have hremove : Keeps M (Conduct F) (fun _ => True)
      (removeRuntime lease.deploymentId) := conduct_perform fun _ => trivial
  refine (hremove w₁ trivial).andThen (fun _ _ h => nomatch h) fun _ w₂ _ => ?_
  exact (startLease_answers hM lease w₂).weaken fun r w₃ h _ => h.2

theorem handleLease_conduct (hM : Watchful M F) (lease : LeaseAssignment)
    (w : World) :
    Sat M (Conduct F) (handleLease s lease)
      (fun r w' => r = .ok () → Outcome M w lease w') w := by
  unfold handleLease Outcome
  refine sat_step_bind hM.refines trivial fun a _ _ => ?_
  simp only [World.perform, andThen_ok]
  have hunmoved : Unmoved w lease.deploymentId
      (w.answer (.getRuntime lease.deploymentId) a).2 :=
    unmoved_answer a rfl fun _ => rfl
  have hget : (w.answer (.getRuntime lease.deploymentId) a).2.runtimes =
      w.runtimes := rfl
  generalize (w.answer (.getRuntime lease.deploymentId) a).2 = w₁ at *
  cases hfound : w.runtimes.get? lease.deploymentId with
  | none =>
      dsimp only
      split
      · exact fun _ => hunmoved
      · exact (startLease_answers hM lease w₁).weaken fun r w₂ h _ => h.2
  | some existing =>
      have hid : existing.deploymentId = lease.deploymentId :=
        Table.key_of_get? hfound
      have hrecord : w₁.runtimes.get? existing.deploymentId = some existing := by
        rw [hget, hid]
        exact hfound
      have hsuspend : Lasting existing → Sat M (Conduct F)
          (suspendRuntime s existing) (fun r w' => r = .ok () → ∃ paused,
            w'.runtimes.get? lease.deploymentId = some paused ∧
              paused.status = .suspended) w₁ := by
        intro hlasting
        rw [← hid]
        exact suspendRuntime_conduct hM.refines hrecord hlasting
      dsimp only
      split
      · cases hstatus : existing.status with
        | ready => exact hsuspend (.inl (.inr hstatus))
        | starting => exact hsuspend (.inl (.inl hstatus))
        | _ => exact fun _ => hunmoved
      · cases hstatus : existing.status with
        | suspended =>
            refine (resumeRuntime_conduct hM hrecord hstatus).weaken
              fun r w₂ h heq hknown => ?_
            exact (h heq hknown).after (hid ▸ hunmoved)
        | accepted => exact retry_answers hM lease existing w₁
        | starting => exact retry_answers hM lease existing w₁
        | _ => exact fun _ => hunmoved

end NodeAgent
