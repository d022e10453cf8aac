import NodeAgent.Application.Frame

/-!
# Suspended pods keep their data

Through every pass a suspended pod keeps its record and its container, unless
the node has no lease for it and the control plane says that it is terminated.
-/

namespace NodeAgent

open Effectful Program Agent

/-- A call that does not remove one of the containers. -/
def Retains (C : Container → Prop) : Effect → Prop
  | .dockerRm _ target => ∀ c, C c → c.answersTo target = false
  | _ => True

/-- A pod that is suspended or back in service. -/
def Resumable (d : String) (runtime : UnifiedRuntimeRecord) : Prop :=
  runtime.deploymentId = d ∧ runtime.workloadKind = .pod ∧
    (runtime.status = .suspended ∨ runtime.status = .ready)

/-- Calls that take nothing from a resumable pod of `d`. -/
def Gentle (d : String) : Effect → Prop
  | .dockerRun _ | .dockerRm _ _ | .removeRuntime _ => False
  | .upsertRuntime runtime => Resumable d runtime
  | _ => True

/-! ## Suspending and resuming a pod -/

section Gentle

variable {s : Settings} {d : String} {runtime : UnifiedRuntimeRecord}

abbrev Gently {α : Type} (d : String) (p : Agent α) (Q : α → Prop) : Prop :=
  Within (fun _ _ => True) (Gentle d) p Q

theorem perform_gentle {e : Effect} (he : Gentle d e) :
    Gently d (perform e) fun _ => True :=
  within_perform he fun _ _ => trivial

theorem report_gentle (update : DeploymentStatusUpdate) :
    Gently d (report update) fun _ => True :=
  within_ignoring (perform_gentle trivial)

theorem pausePod_gentle (h : Resumable d runtime) :
    Gently d (PodBackend.pausePod s runtime) (Resumable d) := by
  have hpaused : ∀ stage, Resumable d { runtime with
      status := .suspended, currentStage := stage } :=
    fun _ => ⟨h.1, h.2.1, .inl rfl⟩
  unfold PodBackend.pausePod
  split
  · refine within_bind (within_onlyIf fun _ => within_ignoring ?_)
      fun _ _ => within_pure (hpaused _)
    exact within_bind (perform_gentle trivial) fun _ _ => within_pure trivial
  · exact within_pure (hpaused _)

theorem pausedOrMarked_gentle (h : Resumable d runtime) :
    Gently d (pausedOrMarked s runtime) (Resumable d) := by
  unfold pausedOrMarked
  have hpause : Gently d (pauseBackend s runtime) (Resumable d) := by
    rw [pauseBackend, h.2.1]
    exact pausePod_gentle h
  refine within_bind (within_attempt_ok hpause) fun r hr => ?_
  split
  · exact within_pure (hr _ rfl)
  · exact within_pure ⟨h.1, h.2.1, .inl rfl⟩

theorem suspendRuntime_gentle (h : Resumable d runtime) :
    Gently d (suspendRuntime s runtime) fun _ => True := by
  unfold suspendRuntime
  refine within_bind (perform_gentle trivial) fun _ _ => ?_
  refine within_bind (pausedOrMarked_gentle h) fun paused hpaused => ?_
  refine within_bind (perform_gentle hpaused) fun _ _ => ?_
  exact report_gentle _

theorem reacquire_gentle : Gently d (reacquire runtime) fun _ => True := by
  unfold reacquire
  split
  · exact perform_gentle trivial
  · refine within_bind (foreignBusyDevices_within (fun _ => trivial) trivial)
      fun _ _ => ?_
    exact perform_gentle trivial

theorem resumePod_gentle (h : Resumable d runtime) :
    Gently d (PodBackend.resumePod s runtime) (Resumable d) := by
  have hresumed : ∀ stage, Resumable d { runtime with
      status := .ready, currentStage := stage } :=
    fun _ => ⟨h.1, h.2.1, .inr rfl⟩
  unfold PodBackend.resumePod
  split
  · refine within_bind (Q := fun _ => True) ?_
      fun _ _ => within_pure (hresumed _)
    unfold ProcessPodBackend.restartContainer
    split
    · refine within_bind (orNotAvailable_within (perform_gentle trivial))
        fun _ _ => ?_
      split
      · exact within_raise
      · exact within_pure trivial
    · exact within_pure trivial
  · exact within_pure (hresumed _)

theorem resumePodRuntime_gentle (h : Resumable d runtime) :
    Gently d (resumePodRuntime s runtime) fun _ => True := by
  unfold resumePodRuntime
  refine within_bind (within_attempt_ok (resumePod_gentle h)) fun r hr => ?_
  split
  · exact within_bind (perform_gentle (hr _ rfl)) fun _ _ => report_gentle _
  · refine within_bind (perform_gentle trivial) fun _ _ => ?_
    exact perform_gentle ⟨h.1, h.2.1, .inl rfl⟩
  · exact within_raise

theorem resumeRuntime_gentle (h : Resumable d runtime) :
    Gently d (resumeRuntime s runtime) fun _ => True := by
  unfold resumeRuntime
  refine within_bind (Q := fun _ => True) (within_attempt
    (reacquire_gentle.weaken fun _ _ => trivial) fun _ => trivial) fun r _ => ?_
  split
  · split
    · exact within_pure trivial
    · exact within_raise
  · rw [if_pos h.2.1]
    exact resumePodRuntime_gentle h

end Gentle

/-! ## A pass that has a lease for the pod -/

variable {s : Settings} {permitted : Permitted} {w w' w₀ : World} {d b : String}
variable {D : String → Prop} {C : Container → Prop}
variable {e : Effect} {r : Except Exn e.Ret}

/-- The pod has its record and its containers. -/
structure Retained (s : Settings) (D : String → Prop) (C : Container → Prop)
    (d : String) (w : World) : Prop extends Bystander s D C d w where
  record : ∃ runtime, w.runtimes.get? d = some runtime ∧ Resumable d runtime

def KeepsRetained {α : Type} (s : Settings) (D : String → Prop)
    (C : Container → Prop) (d : String) (permitted : Permitted) (p : Agent α) :
    Prop :=
  Keeps (host permitted) (fun w e => Retained s D C d w ∧ Retains C e)
    (Retained s D C d) p

theorem Spares.retains (h : Spares C e) : Retains C e := by
  cases e <;> first | exact trivial | exact h

theorem other_retained {α : Type} {p : Agent α} (hD : D b) (hb : b ≠ d)
    (hp : Within (Typed s (Elsewhere C d)) (Local s (Elsewhere C d) b) p
      fun _ => True) : KeepsRetained s D C d permitted p := by
  refine keeps_of_always hp.always
    (fun w e h he => ⟨h, (h.spares hD hb he).retains⟩) fun w e r w' h he hstep => ?_
  obtain ⟨htyped, hbystander, hledger⟩ := h.toBystander.step hD hb he hstep
  obtain ⟨runtime, hget, hpod⟩ := h.record
  exact ⟨htyped, hbystander, runtime,
    (congrArg Ledger.record hledger).trans hget, hpod⟩

theorem quiet_retained {e : Effect} (he : e.owner = none) :
    KeepsRetained s D C d permitted (perform e) := by
  have hretains : Retains C e := by
    cases e <;> first | exact trivial | simp [Effect.owner] at he
  refine keeps_perform (fun w h => ⟨h, hretains⟩) fun w r w' h hstep => ?_
  obtain ⟨hbystander, hledger, -⟩ := h.toBystander.quiet he hstep
  obtain ⟨runtime, hget, hpod⟩ := h.record
  exact ⟨hbystander, runtime, (congrArg Ledger.record hledger).trans hget, hpod⟩

theorem present_of_gentle (hgentle : Gentle d e) {x : Container}
    (hx : x ∈ w.containers) (hstep : (host permitted).Step w e r w') :
    ∃ x' ∈ w'.containers, x'.id = x.id ∧ x'.name = x.name := by
  obtain ⟨a, -, -, rfl⟩ := host_refines.performed hstep
  have hrunning : ∀ target running,
      ∃ x' ∈ (w.setRunning target running).containers,
        x'.id = x.id ∧ x'.name = x.name := by
    intro target running
    refine ⟨_, List.mem_map.mpr ⟨x, hx, rfl⟩, ?_⟩
    by_cases hanswers : x.answersTo target <;> simp [hanswers]
  by_cases htouches : World.touchesContainers e = false
  · have hsame := (World.perform_containers htouches w a).1
    exact ⟨x, hsame ▸ hx, rfl, rfl⟩
  · cases e with
    | dockerStop owner target =>
        by_cases htook : a.tookEffect
        · simpa [World.perform, htook] using hrunning target false
        · exact ⟨x, by simpa [World.perform, htook] using hx, rfl, rfl⟩
    | dockerStart owner target =>
        by_cases htook : a.tookEffect
        · simpa [World.perform, htook] using hrunning target true
        · exact ⟨x, by simpa [World.perform, htook] using hx, rfl, rfl⟩
    | dockerRun command => exact hgentle.elim
    | dockerRm owner target => exact hgentle.elim
    | _ => exact absurd rfl htouches

theorem get?_of_gentle (hgentle : Gentle d e)
    (hstep : (host permitted).Step w e r w') :
    w'.runtimes = w.runtimes ∨
      ∃ runtime, Resumable d runtime ∧
        w'.runtimes = w.runtimes.upsert runtime := by
  obtain ⟨a, -, -, rfl⟩ := host_refines.performed hstep
  by_cases htouches : World.touchesBooks e = false
  · exact .inl (World.perform_books htouches w a).1
  · cases e with
    | upsertRuntime runtime => exact .inr ⟨runtime, hgentle, rfl⟩
    | removeRuntime c => exact hgentle.elim
    | allocate _ _ _ => exact .inl rfl
    | allocateSpecific _ _ => exact .inl rfl
    | release _ => exact .inl rfl
    | updateDeploymentStatus _ => exact .inl rfl
    | _ => exact absurd rfl htouches

theorem gentle_retained {α : Type} {p : Agent α} {Q : α → Prop}
    (hp : Gently d p Q) : KeepsRetained s D C d permitted p := by
  refine keeps_of_always hp.always (fun w e h he => ⟨h, ?_⟩)
    fun w e r w' h he hstep => ⟨trivial, ⟨h.names, ?_, fun c hc => ?_, ?_⟩, ?_⟩
  · cases e <;> first | exact trivial | exact he.elim
  · intro c runtime hget
    rcases get?_of_gentle he hstep with hsame | ⟨runtime', hpod, hsame⟩
    · exact h.recorded c runtime (hsame ▸ hget)
    · rw [hsame, Table.get?_upsert] at hget
      split at hget
      · obtain ⟨recorded, hrecorded, -⟩ := h.record
        rename_i hc
        exact (hc.symm.trans hpod.1) ▸ h.recorded d recorded hrecorded
      · exact h.recorded c runtime hget
  · obtain ⟨x, hx, hid, hname⟩ := h.present c hc
    obtain ⟨x', hx', hid', hname'⟩ := present_of_gentle he hx hstep
    exact ⟨x', hx', hid'.trans hid, hname'.trans hname⟩
  · rcases get?_of_gentle he hstep with hsame | ⟨runtime, hpod, hsame⟩
    · exact fun c runtime hget => h.belonging c runtime (hsame ▸ hget)
    · intro c runtime' hget
      rw [hsame, Table.get?_upsert] at hget
      split at hget
      · rename_i hc
        obtain rfl := Option.some.inj hget
        refine ⟨hc, fun id _ _ hne => absurd ?_ hne⟩
        exact hc.symm.trans hpod.1
      · exact h.belonging c runtime' hget
  · rcases get?_of_gentle he hstep with hsame | ⟨runtime, hpod, hsame⟩
    · exact hsame ▸ h.record
    · refine ⟨runtime, ?_, hpod⟩
      rw [hsame, Table.get?_upsert, if_pos hpod.1]

theorem handleLease_retained {lease : LeaseAssignment}
    (hlease : lease.deploymentId = d) :
    KeepsRetained s D C d permitted (handleLease s lease) := by
  intro w h
  obtain ⟨runtime, hget, hpod⟩ := h.record
  refine sat_step_bind host_refines ⟨h, trivial⟩ fun a _ hstep => ?_
  have hkept : Retained s D C d (w.answer (.getRuntime lease.deploymentId) a).2 :=
    ⟨⟨h.names, h.recorded, h.present, h.belonging⟩, runtime, hget, hpod⟩
  simp only [World.perform, hlease, hget, andThen_ok]
  by_cases hsuspended : isSuspendedLease lease
  · rcases hpod.2.2 with hstatus | hstatus
    · simpa [hsuspended, hstatus] using hkept
    · simp only [hsuspended, hstatus, if_true]
      exact gentle_retained (suspendRuntime_gentle hpod) _ hkept
  · rcases hpod.2.2 with hstatus | hstatus
    · simp only [hsuspended, hstatus]
      exact gentle_retained (resumeRuntime_gentle hpod) _ hkept
    · simpa [hsuspended, hstatus] using hkept

theorem reconcileOnce_retained {answer : Except Exn (List LeaseAssignment)}
    (hotkey : String) (hleased : ∀ b ∈ activeIds s (heard answer), D b)
    (hactive : d ∈ activeIds s (heard answer)) :
    KeepsRetained s D C d (listing answer) (reconcileOnce s hotkey) := by
  refine keeps_reconcileOnce (L := fun leases => leases = heard answer)
    (fun e he => quiet_retained he.owner_eq_none) host_refines ?_ ?_ ?_
  · intro w r w' hstep
    obtain rfl : r = answer := hstep.1
    rfl
  · rintro leases rfl lease hmem hmine
    by_cases hb : lease.deploymentId = d
    · exact handleLease_retained hb
    · refine other_retained (hleased _ ?_) hb (handleLease_local rfl)
      exact List.mem_map.mpr ⟨lease, List.mem_filter.mpr ⟨hmem, hmine⟩, rfl⟩
  · rintro leases rfl w snapshotted h hmem
    by_cases hb : snapshotted.deploymentId = d
    · rw [cleanUp, if_pos (hb ▸ hactive)]
      exact keeps_pure ()
    · have hget := Table.mem_snapshot_iff.mp hmem
      exact other_retained (h.recorded _ _ hget) hb
        (cleanUp_local (h.belonging _ _ hget) _ _)

/-! ## A pass that has none -/

/-- `get_deployment` did not answer that `d` is terminated. -/
def NotToldTerminated (d : String) (event : Event) : Prop :=
  ∀ deployment : Deployment,
    event = ⟨.getDeployment d, .ok (some deployment)⟩ →
    deployment.state ≠ .terminated

theorem reapSuspended_untouched {runtime : UnifiedRuntimeRecord}
    (hid : runtime.deploymentId = d) :
    LeavesUntouched s D C d
      (fun e r => permitted e r ∧ NotToldTerminated d ⟨e, r⟩) w₀
      (reapSuspended s runtime) := by
  subst hid
  intro w h
  refine sat_step_attempt host_refines ⟨h, trivial⟩ fun a _ hstep => ?_
  have hkept : Untouched s D C runtime.deploymentId w₀
      (w.answer (.getDeployment runtime.deploymentId) a).2 :=
    ⟨⟨h.names, h.recorded, h.present, h.belonging⟩,
      (host_untouched rfl hstep _).trans h.books, h.containers⟩
  simp only [World.perform] at hstep ⊢
  split
  · rename_i deployment hresult
    split
    · rename_i hterminated
      rw [hresult] at hstep
      exact absurd hterminated (hstep.1.2 deployment rfl)
    · exact hkept
  · exact hkept
  · exact hkept

theorem reconcileOnce_unleased {answer : Except Exn (List LeaseAssignment)}
    (hotkey : String) (hleased : ∀ b ∈ activeIds s (heard answer), D b)
    {runtime : UnifiedRuntimeRecord}
    (hrecord : w₀.runtimes.get? d = some runtime)
    (hsuspended : runtime.status = .suspended)
    (hinactive : d ∉ activeIds s (heard answer)) :
    LeavesUntouched s D C d
      (fun e r => listing answer e r ∧ NotToldTerminated d ⟨e, r⟩) w₀
      (reconcileOnce s hotkey) := by
  refine keeps_reconcileOnce (L := fun leases => leases = heard answer)
    (fun e he => quiet_untouched he.owner_eq_none) host_refines ?_ ?_ ?_
  · intro w r w' hstep
    obtain rfl : r = answer := hstep.1.1
    rfl
  · rintro leases rfl lease hmem hmine
    have hactive : lease.deploymentId ∈ activeIds s (heard answer) :=
      List.mem_map.mpr ⟨lease, List.mem_filter.mpr ⟨hmem, hmine⟩, rfl⟩
    exact other_untouched (hleased _ hactive) (fun hb => hinactive (hb ▸ hactive))
      (handleLease_local rfl)
  · rintro leases rfl w snapshotted h hmem
    by_cases hb : snapshotted.deploymentId = d
    · have hsnapshot : w.runtimes.get? d = some snapshotted :=
        hb ▸ Table.mem_snapshot_iff.mp hmem
      have hrecord' : w.runtimes.get? d = some runtime :=
        (congrArg Ledger.record h.books).trans hrecord
      obtain rfl := Option.some.inj (hsnapshot.symm.trans hrecord')
      rw [cleanUp, if_neg (hb ▸ hinactive), hsuspended]
      exact reapSuspended_untouched hb
    · have hget := Table.mem_snapshot_iff.mp hmem
      exact other_untouched (h.recorded _ _ hget) hb
        (cleanUp_local (h.belonging _ _ hget) _ _)

/--
Wherever a pass has got to, whatever it was answered: a pod that was suspended
when it began has its record and its container, and no `docker rm` was about
that container, unless this node has no lease for the pod and the control plane
answered that it is terminated.
-/
theorem pass_retains_suspended_pod
    {answer : Except Exn (List LeaseAssignment)} {hotkey : String}
    {rest : Agent Unit} {runtime : UnifiedRuntimeRecord}
    (hrecord : w.runtimes.get? d = some runtime)
    (hkind : runtime.workloadKind = .pod)
    (hsuspended : runtime.status = .suspended)
    (hapart : Apart w (activeIds s (heard answer)) d (ContainerOf w runtime))
    (hpass : Reaches (host (listing answer)) (reconcileOnce s hotkey) w
      rest w') :
    (d ∉ activeIds s (heard answer) ∧ ∃ deployment : Deployment,
      ⟨.getDeployment d, .ok (some deployment)⟩ ∈ issued w w' ∧
        deployment.state = .terminated) ∨
    ((∃ runtime', w'.runtimes.get? d = some runtime' ∧ Resumable d runtime') ∧
      (∀ c, ContainerOf w runtime c →
        ∃ x ∈ w'.containers, x.id = c.id ∧ x.name = c.name) ∧
      ∀ event ∈ issued w w', Retains (ContainerOf w runtime) event.call) := by
  have hleased : ∀ b ∈ activeIds s (heard answer),
      Concerns w (activeIds s (heard answer)) b := fun _ => .inl
  by_cases hactive : d ∈ activeIds s (heard answer)
  · right
    have hsat := reconcileOnce_retained (s := s) (C := ContainerOf w runtime)
      hotkey hleased hactive w ⟨hapart.bystander, runtime, hrecord,
        Table.key_of_get? hrecord, hkind, .inl hsuspended⟩
    have hlogged := Sat.logged host_refines hsat
      (c := fun event => Retains (ContainerOf w runtime) event.call)
      fun _ _ _ _ hguard _ => hguard.2
    have hretained := hsat.cut (fun _ _ h => h.1) (fun _ _ h => h) hpass
    have hretains := hlogged.cut (fun _ _ h => h) (fun _ _ h => h.2) hpass
    exact ⟨hretained.record, hretained.present, hretains.issued⟩
  · by_cases htold : ∃ deployment : Deployment,
        ⟨.getDeployment d, .ok (some deployment)⟩ ∈ issued w w' ∧
          deployment.state = .terminated
    · exact .inl ⟨hactive, htold⟩
    · right
      have hrestricted := reaches_restrict (c := NotToldTerminated d) hpass
        fun event hevent deployment heq hterminated =>
          htold ⟨deployment, heq ▸ hevent, hterminated⟩
      have hsat := reconcileOnce_unleased (s := s) (C := ContainerOf w runtime)
        hotkey hleased hrecord hsuspended hactive w
        ⟨hapart.bystander, rfl, fun c hc => hc.1⟩
      have hlogged := Sat.logged host_refines hsat
        (c := fun event => Retains (ContainerOf w runtime) event.call)
        fun _ _ _ _ hguard _ => hguard.2.retains
      have huntouched := hsat.cut (fun _ _ h => h.1) (fun _ _ h => h)
        hrestricted
      have hretains := hlogged.cut (fun _ _ h => h) (fun _ _ h => h.2)
        hrestricted
      exact ⟨⟨runtime, (congrArg Ledger.record huntouched.books).trans hrecord,
        Table.key_of_get? hrecord, hkind, .inl hsuspended⟩,
        huntouched.present, hretains.issued⟩

/-! ## A pod whose lease has gone -/

/-- The pod of `onePodNode` after a pass with a suspended lease for it. -/
def suspendedPodNode : World :=
  replayed (podHost [{ leaseOn "pod-1" with status := some "suspended" }])
    (reconcileOnce {} "hotkey") onePodNode

theorem suspendedPodNode_apart (runtime : UnifiedRuntimeRecord) :
    Apart suspendedPodNode [] "pod-1" (ContainerOf suspendedPodNode runtime) := by
  have hid : "container-0".toList[0]? ≠ some 'g' := by decide
  refine apart_of_one hid ?_ (by simp) ?_ runtime
  · intro c hc
    obtain rfl := List.mem_singleton.mp (show c ∈ [_] from hc)
    exact ⟨rfl, rfl⟩
  · intro b other hget
    change (if "pod-1" = b then some _ else none) = some other at hget
    split at hget
    · exact Eq.symm (by assumption)
    · cases hget

theorem podHost_notToldTerminated (leases : List LeaseAssignment) (d : String) :
    (podHost leases).Respects fun e r =>
      listing (.ok leases) e r ∧ NotToldTerminated d ⟨e, r⟩ := by
  refine fun w e => ⟨podHost_listing leases w e, fun deployment heq => ?_⟩
  cases e <;> cases heq

/-- Without a lease, and unknown to the control plane, the pod stays. -/
theorem pass_retains_suspended_pod_unleased :
    ∃ w', (∃ r, Exec (host (listing (.ok []))) (reconcileOnce {} "hotkey")
        suspendedPodNode r w') ∧
      ∃ runtime', w'.runtimes.get? "pod-1" = some runtime' ∧
        Resumable "pod-1" runtime' := by
  obtain ⟨r, hexec⟩ := replayed_exec (podHost_notToldTerminated [] "pod-1")
    (p := reconcileOnce {} "hotkey") (w := suspendedPodNode) rfl
  have hnotTold := exec_permitted hexec
  have hpass : Exec (host (listing (.ok []))) (reconcileOnce {} "hotkey")
      suspendedPodNode r _ :=
    hexec.widen fun _ _ _ _ hstep => ⟨hstep.1.1, hstep.2⟩
  refine ⟨_, ⟨r, hpass⟩, ?_⟩
  rcases pass_retains_suspended_pod (d := "pod-1") rfl rfl rfl
    (suspendedPodNode_apart _) hpass with ⟨-, deployment, hmem, hstate⟩ | h
  · exact absurd hstate ((hnotTold.issued _ hmem).2 deployment rfl)
  · exact h.1

end NodeAgent
