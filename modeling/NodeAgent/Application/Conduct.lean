import NodeAgent.Application.Frame

/-!
# How the handlers of a lease go about it

What every call of a lease's handler is like, and what a handler that returns
has made of the deployment: it is ready, or its failure was reported.
-/

namespace NodeAgent

open Effectful Program Agent

/-! ## What the log says of a deployment -/

inductive Mark where
  | dispatched
  | reported (state : DeploymentState)
  deriving DecidableEq, Repr

/-- A dispatch writes the record anew, as accepted. -/
def markOf (d : String) (event : Event) : Option Mark :=
  match event with
  | ⟨.upsertRuntime runtime, _⟩ =>
      if runtime.deploymentId = d ∧ runtime.status = .accepted then
        some .dispatched
      else none
  | ⟨.updateDeploymentStatus update, _⟩ =>
      if update.deploymentId = d then some (.reported update.state) else none
  | _ => none

def World.history (w : World) (d : String) : List Mark :=
  w.log.filterMap (markOf d)

/-- FAILED or TERMINATED was reported, and nothing dispatched after that. -/
def Excuse (history : List Mark) : Prop :=
  ∃ before after state, history = before ++ .reported state :: after ∧
    (state = .failed ∨ state = .terminated) ∧ .dispatched ∉ after

def Excused (w : World) (d : String) : Prop := Excuse (w.history d)

/-- The runtime is ready, or it failed and that was reported. -/
def Concluded (w : World) (d : String) : Prop :=
  ∃ runtime, w.runtimes.get? d = some runtime ∧
    (runtime.status = .ready ∨ runtime.status = .failed ∧ Excused w d)

/-- A failure to dispatch that leaves no failed record behind. -/
def Lapse (event : Event) : Prop :=
  match event with
  | ⟨.getWorkload _, .ok none⟩ => True
  | ⟨.updateDeploymentStatus update, _⟩ => update.error = some
      "node-agent reconciliation failed (check node-agent logs)"
  | _ => False

/-- Runs in which no dispatch goes wrong like that. -/
def Strict (M : Machine Effect Effect.Ret Exn World) : Prop :=
  ∀ w e r w', M.Step w e r w' → ¬Lapse ⟨e, r⟩

def KnownKind : WorkloadKind → Prop
  | .inference | .pod | .vm => True
  | .other _ => False

def Lasting (runtime : UnifiedRuntimeRecord) : Prop :=
  InService runtime ∨ runtime.status = .suspended

/-- What lasts is of a known kind, or of the kind of what lasted before it. -/
def Classed (w : World) (runtime : UnifiedRuntimeRecord) : Prop :=
  Lasting runtime → KnownKind runtime.workloadKind ∨
    ∃ before, w.runtimes.get? runtime.deploymentId = some before ∧
      Lasting before ∧ before.workloadKind = runtime.workloadKind

/-- How a handler calls: `F` says that a set of foreign devices is current. -/
def Conduct (F : World → Finset Nat → Prop) (w : World) : Effect → Prop
  | .upsertRuntime runtime => Classed w runtime
  | .allocate _ _ avoid => F w avoid
  | .allocateSpecific d devices => ∃ runtime, w.runtimes.get? d = some runtime ∧
      runtime.status = .suspended ∧ runtime.workloadKind = .pod ∧
        originalDevices runtime = devices
  | .updateDeploymentStatus update => update.state ≠ .terminated
  | _ => True

/-- Nothing happened to the record, nor to what is said of the deployment. -/
def Unmoved (w : World) (d : String) (w' : World) : Prop :=
  w'.runtimes.get? d = w.runtimes.get? d ∧ w'.history d = w.history d

/-- The set that the foreign probe returns is current when it returns. -/
structure Watchful (M : Machine Effect Effect.Ret Exn World)
    (F : World → Finset Nat → Prop) : Prop where
  refines : Refines M
  foreign : ∀ w, Sat M (Conduct F) foreignBusyDevices (fun r w' =>
    (∀ d, Unmoved w d w') ∧ ∃ avoid, r = .ok avoid ∧ F w' avoid) w

variable {s : Settings} {M : Machine Effect Effect.Ret Exn World}
variable {F : World → Finset Nat → Prop} {w w' : World}
variable {runtime : UnifiedRuntimeRecord} {d b : String} {α β : Type}

theorem excuse_append {history : List Mark} {state : DeploymentState}
    (h : state = .failed ∨ state = .terminated) :
    Excuse (history ++ [.reported state]) :=
  ⟨history, [], state, rfl, h, List.not_mem_nil⟩

theorem history_answer {e : Effect} (a : Answer e) (d : String) :
    (w.answer e a).2.history d =
      w.history d ++ (markOf d ⟨e, (w.perform e a).1⟩).toList := by
  rw [World.history, log_answer, List.filterMap_append]
  cases h : markOf d ⟨e, (w.perform e a).1⟩ <;> simp [World.history, h]

theorem markOf_of_ne {own : String → String → Prop} {e : Effect}
    {r : Except Exn e.Ret} (hlocal : Local s own b e) (hb : b ≠ d) :
    markOf d ⟨e, r⟩ = none := by
  cases e with
  | upsertRuntime runtime =>
      rcases hlocal with hcall | hcall
      · exact hcall.elim
      · simp [markOf, hcall.1, hb]
  | updateDeploymentStatus update =>
      rcases hlocal with hcall | hcall
      · exact hcall.elim
      · simp [markOf, show update.deploymentId = b from hcall, hb]
  | _ => rfl

theorem markOf_of_owner {e : Effect} {r : Except Exn e.Ret}
    (he : e.owner = none) : markOf d ⟨e, r⟩ = none := by
  cases e <;> first | rfl | simp [Effect.owner] at he

theorem Unmoved.trans {w₁ w₂ : World} (h : Unmoved w d w₁)
    (h' : Unmoved w₁ d w₂) : Unmoved w d w₂ :=
  ⟨h'.1.trans h.1, h'.2.trans h.2⟩

theorem unmoved_answer {e : Effect} (a : Answer e)
    (hruntimes : (w.perform e a).2.runtimes = w.runtimes)
    (hmark : ∀ r, markOf d ⟨e, r⟩ = none) :
    Unmoved w d (w.answer e a).2 := by
  refine ⟨congrArg (·.get? d) hruntimes, ?_⟩
  rw [history_answer, hmark]
  exact List.append_nil _

theorem written_answer (a : Answer (.upsertRuntime runtime)) :
    (w.answer (.upsertRuntime runtime) a).2.runtimes.get?
      runtime.deploymentId = some runtime :=
  (World.perform_record w _ a _).trans (if_pos rfl)

/-! ## Rules -/

def Concludes (M : Machine Effect Effect.Ret Exn World)
    (F : World → Finset Nat → Prop) (d : String) (p : Agent Unit) : Prop :=
  ∀ w, Sat M (Conduct F) p (fun r w' => r = .ok () → Concluded w' d) w

theorem conduct_backendCall {e : Effect}
    (he : BackendCall anyContainer d e) (w : World) : Conduct F w e := by
  cases e <;> first | exact trivial | exact absurd he id

theorem concludes_raise (x : Exn) : Concludes M F d (raise x) :=
  fun _ heq => nomatch heq

theorem concludes_bind {p : Agent α} {f : α → Agent Unit}
    (hp : Keeps M (Conduct F) (fun _ => True) p)
    (hf : ∀ a, Concludes M F d (f a)) :
    Concludes M F d (p >>= f) := by
  intro w
  refine (hp w trivial).bind (fun a w' _ => hf a w') fun x w' _ heq => ?_
  cases heq

theorem conduct_perform {e : Effect} (he : ∀ w, Conduct F w e) :
    Keeps M (Conduct F) (fun _ => True) (perform e) :=
  keeps_perform (fun w _ => he w) fun _ _ _ _ _ => trivial

theorem concludes_backend (hM : Refines M) {p : Agent α} {f : α → Agent Unit}
    {Q : α → Prop}
    (hp : Within (Typed s anyContainer) (BackendCall anyContainer b) p Q)
    (hf : ∀ a, Q a → Concludes M F d (f a)) :
    Concludes M F d (p >>= f) := by
  intro w
  have hsat := backend_host (w := w) hM
    (fun w e he => conduct_backendCall (F := F) he w) hp
  refine hsat.bind (fun a w' h => hf a (h.1 a rfl) w') fun x w' _ heq => ?_
  cases heq

theorem concludes_attempt (hM : Refines M) {p : Agent α}
    {f : Except Exn α → Agent Unit} {Q : α → Prop}
    (hp : Within (Typed s anyContainer) (BackendCall anyContainer b) p Q)
    (hok : ∀ a, Q a → Concludes M F d (f (.ok a)))
    (herror : ∀ x, Concludes M F d (f (.error x))) :
    Concludes M F d (attempt p >>= f) := by
  refine concludes_backend hM (within_attempt_ok hp) fun r hr => ?_
  cases r with
  | ok a => exact hok a (hr a rfl)
  | error x => exact herror x

theorem classed_of_known (h : KnownKind runtime.workloadKind) (w : World) :
    Classed w runtime :=
  fun _ => .inl h

theorem classed_of_status (h : runtime.status = .accepted ∨
    runtime.status = .failed ∨ runtime.status = .terminated) (w : World) :
    Classed w runtime := by
  rintro (hlasting | hlasting)
  · rcases h with h | h | h <;> simp [InService, h] at hlasting
  · rcases h with h | h | h <;> simp [h] at hlasting

theorem conduct_upsert (h : ∀ w, Classed w runtime) :
    Keeps M (Conduct F) (fun _ => True) (upsertRuntime runtime) :=
  conduct_perform h

/-! ## The two ways to conclude -/

theorem failRuntime_concludes (hM : Refines M) (error : String) :
    Concludes M F runtime.deploymentId (failRuntime runtime error) := by
  unfold failRuntime
  refine concludes_bind (conduct_perform fun _ => trivial) fun _ w => ?_
  refine sat_step_bind hM (classed_of_status (by simp) w) fun a _ _ => ?_
  cases (w.perform (.upsertRuntime _) a).1 with
  | error x => exact fun heq => nomatch heq
  | ok =>
      rw [andThen_ok]
      refine sat_ignoring.mpr (sat_step_perform hM ?_ fun b _ _ => ?_)
      · simp [Conduct]
      · have hget : ∀ w₂ : World, w₂.runtimes.get? runtime.deploymentId =
            some { runtime with
              status := .failed
              lastError := some error
              failureClass := some "workload_dispatch" } →
            Excused w₂ runtime.deploymentId →
            Concluded w₂ runtime.deploymentId :=
          fun w₂ hget hexcused => ⟨_, hget, .inr ⟨rfl, hexcused⟩⟩
        have hconcluded := hget (((w.answer (.upsertRuntime _) a).2.answer
          (.updateDeploymentStatus _) b).2)
          (by simp [World.answer, World.perform, World.saved, Table.get?_upsert])
          (by
            rw [Excused, history_answer]
            simpa [markOf] using excuse_append (.inl rfl))
        split
        · exact fun _ => hconcluded
        · split
          · exact fun _ => hconcluded
          · exact fun heq => nomatch heq

theorem writeReady_concludes (hM : Refines M)
    (runtime : UnifiedRuntimeRecord) (hstatus : runtime.status = .ready)
    (hkind : KnownKind runtime.workloadKind) :
    Concludes M F runtime.deploymentId (upsertRuntime runtime >>= fun _ =>
      reportDeploymentReady runtime) := by
  intro w
  refine sat_step_bind hM (classed_of_known hkind w) fun a _ _ => ?_
  have hrecord := written_answer a (w := w)
  cases (w.perform (.upsertRuntime runtime) a).1 with
  | error x => exact fun heq => nomatch heq
  | ok =>
      rw [andThen_ok]
      refine sat_ignoring.mpr (sat_step_perform hM ?_ fun b _ _ => ?_)
      · simp [Conduct]
      · split
        · exact fun _ => ⟨runtime, hrecord, .inl hstatus⟩
        · split
          · exact fun _ => ⟨runtime, hrecord, .inl hstatus⟩
          · exact fun heq => nomatch heq

/-! ## Starts -/

theorem allocateOrFail_concludes (hM : Watchful M F) (n : Int) (w : World) :
    Sat M (Conduct F) (allocateOrFail runtime n) (fun r w' =>
      r = .ok none → Concluded w' runtime.deploymentId) w := by
  unfold allocateOrFail
  refine (hM.foreign w).andThen (fun _ _ h => nomatch h) ?_
  rintro avoid w₁ ⟨-, _, heq, haware⟩
  cases heq
  refine sat_step_attempt hM.refines haware fun a _ _ => ?_
  cases (w₁.perform (.allocate runtime.deploymentId n avoid) a).1 with
  | ok devices => exact fun heq => nomatch heq
  | error x =>
      dsimp only
      split
      · refine (failRuntime_concludes hM.refines _ _).andThen
          (fun _ _ h => nomatch h) fun _ w₂ h _ => ?_
        exact h rfl
      · exact fun heq => nomatch heq

theorem allocated_concludes (hM : Watchful M F) {n : Int}
    {f : Option (List Nat) → Agent Unit}
    (hnone : f none = pure ())
    (hf : ∀ devices, Concludes M F runtime.deploymentId (f (some devices))) :
    Concludes M F runtime.deploymentId
      (allocateOrFail runtime n >>= f) := by
  intro w
  refine (allocateOrFail_concludes hM n w).bind (fun found w' h => ?_)
    fun x w' _ heq => nomatch heq
  cases found with
  | none =>
      rw [hnone]
      exact fun _ => h rfl
  | some devices => exact hf devices w'


theorem launchInference_concludes (hM : Refines M)
    (hkind : runtime.workloadKind = .inference) (workload : WorkloadSpec)
    (artifact : ArtifactBundle) :
    Concludes M F runtime.deploymentId
      (launchInference s runtime workload artifact) := by
  unfold launchInference
  refine concludes_bind (conduct_perform fun _ => trivial) fun dir => ?_
  have hknown : KnownKind (startingInference s runtime workload artifact
      dir).workloadKind := by
    rw [show (startingInference s runtime workload artifact dir).workloadKind =
      .inference from hkind]
    trivial
  refine concludes_bind (conduct_upsert (classed_of_known hknown)) fun _ => ?_
  have hbelongs : Belongs s anyContainer runtime.deploymentId
      (startingInference s runtime workload artifact dir) :=
    Ledger.belongs_any _
  refine concludes_attempt hM
    (startRuntime_within (by exact hkind) hbelongs artifact) ?_ fun x => ?_
  · rintro started ⟨⟨hid, -⟩, hkept, -⟩
    have hready := writeReady_concludes (F := F) hM
      (readyInference s started) rfl
      (by exact hkept.workloadKind ▸ hknown)
    rwa [show (readyInference s started).deploymentId = runtime.deploymentId
      from hid] at hready
  · split
    · rename_i heq
      cases heq
    · exact failRuntime_concludes hM _
    · exact concludes_raise _

theorem startInferenceRuntime_concludes (hM : Watchful M F)
    (hkind : runtime.workloadKind = .inference) (workload : WorkloadSpec) :
    Concludes M F runtime.deploymentId
      (startInferenceRuntime s runtime workload) := by
  unfold startInferenceRuntime
  refine allocated_concludes hM rfl fun devices => ?_
  refine concludes_attempt hM.refines (s := s) (b := runtime.deploymentId)
    (Within.files (stageFor_files (by rfl) workload)) (fun artifact _ => ?_)
    fun x => ?_
  · exact launchInference_concludes hM.refines (by exact hkind) _ _
  · split
    · rename_i heq
      cases heq
    · exact failRuntime_concludes hM.refines _
    · exact concludes_raise _

theorem launchPod_concludes (hM : Refines M)
    (hkind : runtime.workloadKind = .pod) (workload : WorkloadSpec)
    (setup : PodSetup) :
    Concludes M F runtime.deploymentId
      (launchPod s runtime workload setup) := by
  unfold launchPod
  have hknown : KnownKind (startingPod s runtime workload setup).workloadKind := by
    rw [show (startingPod s runtime workload setup).workloadKind = .pod
      from hkind]
    trivial
  refine concludes_bind (conduct_upsert (classed_of_known hknown)) fun _ => ?_
  have hbelongs : Belongs s anyContainer runtime.deploymentId
      (startingPod s runtime workload setup) := Ledger.belongs_any _
  refine concludes_attempt hM
    (startPod_within (by exact hkind) hbelongs workload) ?_ fun x => ?_
  · rintro started ⟨⟨hid, -⟩, hkept, hstatus⟩
    refine concludes_backend hM (s := s) (b := runtime.deploymentId)
      (waitForReady_within backendCall_probe s started) fun verified _ => ?_
    have hready := writeReady_concludes (F := F) hM
      (readyPod started verified) hstatus
      (by exact hkept.workloadKind ▸ hknown)
    rwa [show (readyPod started verified).deploymentId = runtime.deploymentId
      from hid] at hready
  · split
    · rename_i heq
      cases heq
    · exact failRuntime_concludes hM _
    · exact concludes_raise _

theorem startPodRuntime_concludes (hM : Watchful M F)
    (hkind : runtime.workloadKind = .pod) (workload : WorkloadSpec) :
    Concludes M F runtime.deploymentId
      (startPodRuntime s runtime workload) := by
  have hprobe : ∀ question, BackendCall anyContainer runtime.deploymentId
      (.probe question) := backendCall_probe
  unfold startPodRuntime
  refine concludes_attempt hM.refines (s := s) (setUpSsh_within hprobe s)
    (fun ssh _ => ?_) fun x => ?_
  · obtain ⟨sshPort, privateKey, publicKey⟩ := ssh
    refine concludes_backend hM.refines (s := s)
      (assignPorts_within hprobe _ _ _) fun ports _ => ?_
    refine allocated_concludes hM rfl fun devices => ?_
    dsimp only
    split
    · exact concludes_raise _
    · refine concludes_bind (keeps_attempt
        (conduct_perform fun _ => trivial)) fun r => ?_
      split
      · split
        · exact failRuntime_concludes hM.refines _
        · exact concludes_raise _
      · refine concludes_bind (conduct_perform fun _ => trivial) fun _ => ?_
        exact launchPod_concludes hM.refines hkind workload _
  · dsimp only
    split
    · exact failRuntime_concludes hM.refines _
    · exact concludes_raise _

theorem startVmRuntime_concludes (hM : Watchful M F)
    (hkind : runtime.workloadKind = .vm) (workload : WorkloadSpec) :
    Concludes M F runtime.deploymentId
      (startVmRuntime s runtime workload) := by
  unfold startVmRuntime
  refine allocated_concludes hM rfl fun devices => ?_
  have hknown : KnownKind
      (startingVm runtime devices (requestedGpus workload)).workloadKind := by
    rw [show (startingVm runtime devices (requestedGpus workload)).workloadKind =
      .vm from hkind]
    trivial
  refine concludes_bind (conduct_upsert (classed_of_known hknown)) fun _ => ?_
  have hbelongs : Belongs s anyContainer runtime.deploymentId
      (startingVm runtime devices (requestedGpus workload)) :=
    Ledger.belongs_any _
  refine concludes_attempt hM.refines
    (Within.files (startVm_files hbelongs)) ?_ fun x => ?_
  · rintro started ⟨⟨hid, -⟩, hkept, hstatus⟩
    have hready := writeReady_concludes (F := F) hM.refines
      (readyVm s started) hstatus
      (by exact hkept.workloadKind ▸ hknown)
    rwa [show (readyVm s started).deploymentId = runtime.deploymentId
      from hid] at hready
  · split
    · rename_i heq
      cases heq
    · exact failRuntime_concludes hM.refines _
    · exact concludes_raise _

/-! ## One lease -/

theorem dispatch_concludes (hM : Watchful M F) (workload : WorkloadSpec)
    (hkind : runtime.workloadKind = workload.kind) :
    Concludes M F runtime.deploymentId (dispatch s runtime workload) := by
  unfold dispatch
  split
  · exact startInferenceRuntime_concludes hM (hkind.trans (by assumption)) _
  · exact startPodRuntime_concludes hM (hkind.trans (by assumption)) _
  · exact startVmRuntime_concludes hM (hkind.trans (by assumption)) _
  · exact failRuntime_concludes hM.refines _

/-- The end of a dispatch: it concluded, or it failed with nothing but a report. -/
def Answered (M : Machine Effect Effect.Ret Exn World) (w : World) (d : String) :
    Prop :=
  Concluded w d ∨ Excused w d ∧ ¬Strict M

theorem reconcileWorkload_answers (hM : Watchful M F)
    (lease : LeaseAssignment) (w : World) :
    Sat M (Conduct F) (reconcileWorkload s lease) (fun r w' =>
      r = .ok () → Answered M w' lease.deploymentId) w := by
  unfold reconcileWorkload
  refine sat_step_bind hM.refines trivial fun a _ hstep => ?_
  cases hfound : (w.perform (.getWorkload lease.workloadId) a).1 with
  | error x => exact fun heq => nomatch heq
  | ok found =>
      rw [andThen_ok]
      cases found with
      | none =>
          have hlapse : ¬Strict M := fun hstrict => by
            have := hstrict w _ _ _ hstep
            rw [hfound] at this
            exact this trivial
          refine sat_step_perform hM.refines ?_ fun b _ _ _ => ?_
          · simp [Conduct]
          · refine .inr ⟨?_, hlapse⟩
            rw [Excused, history_answer]
            simpa [markOf] using excuse_append (.inl rfl)
      | some workload =>
          have hconcludes : Concludes M F lease.deploymentId (do
              upsertRuntime { acceptedRuntime lease workload with
                gpuFraction := s.defaultGpuFraction }
              dispatch s { acceptedRuntime lease workload with
                gpuFraction := s.defaultGpuFraction } workload) :=
            concludes_bind (conduct_upsert (classed_of_status (.inl rfl)))
              fun _ => dispatch_concludes hM workload rfl
          exact (hconcludes _).weaken fun r w' h heq => .inl (h heq)

theorem startLease_answers (hM : Watchful M F) (lease : LeaseAssignment)
    (w : World) :
    Sat M (Conduct F) (startLease s lease) (fun r w' =>
      r = .ok () ∧ Answered M w' lease.deploymentId) w := by
  unfold startLease
  refine sat_bind'.mpr (sat_attempt.mpr
    ((reconcileWorkload_answers hM lease w).weaken fun r w₁ h => ?_))
  rw [andThen_ok]
  cases r with
  | ok => exact ⟨rfl, h rfl⟩
  | error x =>
      refine sat_ignoring.mpr (sat_step_perform hM.refines ?_ fun a _ hstep => ?_)
      · simp [Conduct]
      · have hanswered : Answered M (w₁.answer (.updateDeploymentStatus {
            deploymentId := lease.deploymentId
            state := .failed
            error := some
              "node-agent reconciliation failed (check node-agent logs)" }) a).2
            lease.deploymentId := by
          refine .inr ⟨?_, fun hstrict => hstrict _ _ _ _ hstep rfl⟩
          rw [Excused, history_answer]
          simpa [markOf] using excuse_append (.inl rfl)
        split
        · exact ⟨rfl, hanswered⟩
        · simp only [if_true]
          exact ⟨trivial, hanswered⟩

end NodeAgent
