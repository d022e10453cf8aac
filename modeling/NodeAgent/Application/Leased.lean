import NodeAgent.Application.Progress

/-!
# What becomes of a lease

After a pass in which everything is granted the deployment of an active lease is
ready or its end was reported, unless its record already had an end that nobody
was told of.
-/

namespace NodeAgent

open Effectful Program Agent

variable {s : Settings} {M : Machine Effect Effect.Ret Exn World}
variable {permitted : Permitted} {w w' : World} {d : String} {α : Type}

/-! ## Records of a known kind -/

/-- What lasts is of a kind that has a start handler. -/
def Classified : World → Prop :=
  OnRecord fun runtime => Lasting runtime → KnownKind runtime.workloadKind

def WritesClassed (w : World) : Effect → Prop
  | .upsertRuntime runtime => Classed w runtime
  | _ => True

theorem host_classified {e : Effect} {r : Except Exn e.Ret}
    (h : Classified w) (hwrite : WritesClassed w e)
    (hstep : (host permitted).Step w e r w') : Classified w' := by
  refine host_onRecord h (fun runtime heq hlasting => ?_) hstep
  subst heq
  rcases hwrite hlasting with hknown | ⟨before, hget, hbefore, hkind⟩
  · exact hknown
  · exact hkind ▸ h _ before (.inl hget) hbefore

theorem Conduct.writesClassed {F : World → Finset Nat → Prop} {e : Effect}
    (h : Conduct F w e) : WritesClassed w e := by
  cases e <;> first | exact h | exact trivial

theorem TeardownCall.writesClassed {e : Effect} {reported : Bool}
    (h : TeardownCall d reported e) (w : World) : WritesClassed w e := by
  cases e with
  | upsertRuntime runtime => exact classed_of_status (.inr (.inr h.2)) w
  | _ => exact trivial

theorem watchful_any (hM : Refines M) : Watchful M fun _ _ => True where
  refines := hM
  foreign w := by
    unfold foreignBusyDevices
    rw [sat_bind', sat_attempt]
    refine sat_step_bind hM trivial fun a _ _ => ?_
    have hbusy : ∀ d, Unmoved w d (w.answer (.probe .busyGpuDevices) a).2 :=
      fun d => unmoved_answer a rfl fun _ => rfl
    cases (w.perform (.probe .busyGpuDevices) a).1 with
    | error x => exact ⟨hbusy, _, rfl, trivial⟩
    | ok busy =>
        rw [andThen_ok]
        refine sat_step_bind hM trivial fun b _ _ => ?_
        exact ⟨fun d => (hbusy d).trans (unmoved_answer b rfl fun _ => rfl),
          _, rfl, trivial⟩

theorem teardown_classed (hM : Refines M) {p : Agent α} {reported : Bool}
    {Q : α → Prop}
    (hp : Within (Typed s anyContainer) (TeardownCall d reported) p Q) :
    Keeps M WritesClassed (fun _ => True) p :=
  keeps_of_always hp.always (fun w _ _ he => he.writesClassed w)
    fun _ _ _ _ _ _ hstep => ⟨host_typed s (hM.host hstep), trivial⟩

theorem request_classed (hM : Refines M) (request : Request) :
    Keeps M WritesClassed (fun _ => True) (request.program s) := by
  have hquiet : ∀ e : Effect, Framing e →
      Keeps M WritesClassed (fun _ => True) (perform e) := by
    refine fun e he => keeps_perform (fun _ _ => ?_) fun _ _ _ _ _ => trivial
    cases e <;> first | exact trivial | exact he.elim
  cases request with
  | reconcile hotkey =>
      refine keeps_reconcileOnce (L := fun _ => True) hquiet hM
        (fun _ _ _ _ => trivial) (fun _ _ lease _ _ w _ => ?_)
        fun _ _ _ runtime _ _ => teardown_classed hM (cleanUp_teardown rfl _ _)
      exact (handleLease_conduct (watchful_any hM) lease w).mono
        (fun _ _ h => h.writesClassed) fun _ _ _ => trivial
  | recover =>
      refine keeps_bind (keeps_recoverRuntimeState hquiet fun runtime => ?_)
        fun _ => keeps_pure _
      exact teardown_classed hM (recoverRuntime_teardown rfl)
  | terminate d =>
      exact keeps_bind (teardown_classed hM (terminateDeployment_teardown d))
        fun _ => keeps_pure _

theorem crashRun_classified (h : CrashRun s (host permitted) w) :
    Classified w := by
  have hkeeps : ∀ (request : Request) (w : World), Classified w →
      Sat (host permitted) (fun w _ => Classified w) (request.program s)
        (fun _ w' => Classified w') w := fun request w hw =>
    ((request_classed host_refines request w trivial).keeping
      (fun _ _ _ _ => host_classified) hw).weaken fun _ _ h => h.2
  exact h.keeps init_onRecord (fun request w _ => hkeeps request w)
    (fun _ _ h => h) fun _ => OnRecord.restart

/-! ## The lock between requests -/

theorem underReconcileLock_releases (hM : Refines M) {busy : α} {p : Agent α}
    (hlock : w.reconcileLock = false) :
    Sat M (fun _ _ => True) (underReconcileLock busy p)
      (fun _ w' => w'.reconcileLock = false) w := by
  have hp : ∀ w, Sat M (fun _ _ => True) p (fun _ _ => True) w :=
    fun w => sat_of_exec fun _ _ _ => trivial
  unfold underReconcileLock
  refine sat_step_bind hM trivial fun a _ _ => ?_
  simp only [World.perform, hlock, Bool.not_false, andThen_ok, if_true]
  refine sat_bind'.mpr (sat_attempt.mpr ((hp _).weaken fun r w₁ _ => ?_))
  rw [andThen_ok]
  refine sat_step_bind hM trivial fun b _ _ => ?_
  have hreleased :
      (w₁.answer .releaseReconcileLock b).2.reconcileLock = false := rfl
  cases r with
  | ok a => exact hreleased
  | error x => exact hreleased

theorem Local.lock {own : String → String → Prop} {e : Effect}
    (h : Local s own d e) (a : Answer e) :
    (w.perform e a).2.reconcileLock = w.reconcileLock := by
  cases e with
  | acquireReconcileLock => exact (h.elim id id).elim
  | releaseReconcileLock => exact (h.elim id id).elim
  | dockerRun command =>
      cases hcreated : a.created <;>
        simp [World.perform, World.withContainer, hcreated]
  | spawnServer owner => cases h : a.result <;> simp [World.perform, h]
  | dockerRm owner target =>
      by_cases h : a.tookEffect <;>
        simp [World.perform, h, World.withoutContainer]
  | dockerStop owner target =>
      by_cases h : a.tookEffect <;> simp [World.perform, h, World.setRunning]
  | dockerStart owner target =>
      by_cases h : a.tookEffect <;> simp [World.perform, h, World.setRunning]
  | terminatePid owner pid =>
      by_cases h : a.tookEffect <;> simp [World.perform, h]
  | stageArtifact d uri digest =>
      by_cases h : a.tookEffect <;> simp [World.perform, h]
  | makeRuntimeDir d => by_cases h : a.tookEffect <;> simp [World.perform, h]
  | deleteRuntimeDir owner path =>
      by_cases h : a.tookEffect <;> simp [World.perform, h]
  | deleteStagedArtifact owner path =>
      by_cases h : a.tookEffect <;> simp [World.perform, h]
  | createVolume volume => by_cases h : a.tookEffect <;> simp [World.perform, h]
  | deleteVolume volume => by_cases h : a.tookEffect <;> simp [World.perform, h]
  | _ => rfl

theorem crashRun_unlocked (h : CrashRun s (host permitted) w) :
    w.reconcileLock = false := by
  induction h with
  | boot => rfl
  | crash => rfl
  | serve before request exec ih =>
      cases request with
      | reconcile hotkey =>
          exact (underReconcileLock_releases host_refines ih).exec exec
      | recover =>
          have hrecover : Sat (host permitted) (fun _ _ => True)
              (Request.program s .recover)
              (fun _ w' => w'.reconcileLock = false) _ :=
            (underReconcileLock_releases host_refines ih).bind
              (fun _ _ h => h) fun _ _ h => h
          exact hrecover.exec exec
      | terminate d =>
          have hlocal : Within (Typed s anyContainer) (Local s anyContainer d)
              (Request.program s (.terminate d)) fun _ => True :=
            within_bind (Always.widen (terminateDeployment_teardown d)
              fun _ he => he.local) fun _ _ => within_pure trivial
          have hkeeps : Keeps (host permitted) (fun _ _ => True)
              (fun w => w.reconcileLock = false)
              (Request.program s (.terminate d)) := by
            refine keeps_of_always hlocal.always (fun _ _ _ _ => trivial)
              fun w e r w' hfree he hstep => ⟨host_typed s hstep, ?_⟩
            obtain ⟨a, -, -, rfl⟩ := host_refines.answered hstep
            exact (he.lock a).trans hfree
          exact (hkeeps _ ih).exec exec

/-! ## One pass -/

/-- What the control plane says of a workload throughout a pass. -/
def recalling (knows : String → Option WorkloadSpec) : Permitted
  | .getWorkload workloadId, r => r = .ok (knows workloadId)
  | _, _ => True

/-- A pass in which whatever is asked for is granted. -/
def granting (leases : List LeaseAssignment)
    (knows : String → Option WorkloadSpec) : Permitted := fun e r =>
  listing (.ok leases) e r ∧ recalling knows e r ∧ Granted e r

def Ready (w : World) (d : String) : Prop :=
  ∃ runtime, w.runtimes.get? d = some runtime ∧ runtime.status = .ready

/-- A record that no pass acts on any more. -/
def Inert (knows : String → Option WorkloadSpec)
    (runtime : UnifiedRuntimeRecord) : Prop :=
  match runtime.status with
  | .failed | .terminated | .preparing => True
  | .suspended =>
      runtime.workloadKind ≠ .pod ∧ knows runtime.workloadId = none
  | _ => False

/-- The record is inert, and no end was reported since the last dispatch. -/
def Stuck (knows : String → Option WorkloadSpec) (w : World) (d : String) :
    Prop :=
  ¬Excused w d ∧ ∃ runtime, w.runtimes.get? d = some runtime ∧
    Inert knows runtime

def ClassedAt (d : String) (w : World) : Prop :=
  ∀ runtime, w.runtimes.get? d = some runtime → Lasting runtime →
    KnownKind runtime.workloadKind

theorem host_classedAt {e : Effect} {r : Except Exn e.Ret}
    (h : ClassedAt d w) (hwrite : WritesClassed w e)
    (hstep : (host permitted).Step w e r w') : ClassedAt d w' := by
  obtain ⟨a, -, -, rfl⟩ := host_refines.answered hstep
  intro runtime hget hlasting
  have hrecord := (World.perform_record w e a d).symm.trans hget
  cases e with
  | upsertRuntime written =>
      simp only [World.recordAfter] at hrecord
      split at hrecord
      · cases hrecord
        rcases hwrite hlasting with hknown | ⟨before, hbefore, hlasted, hkind⟩
        · exact hknown
        · rename_i hid
          rw [hid] at hbefore
          exact hkind ▸ h before hbefore hlasted
      · exact h runtime hrecord hlasting
  | removeRuntime b =>
      simp only [World.recordAfter] at hrecord
      split at hrecord
      · cases hrecord
      · exact h runtime hrecord hlasting
  | _ => exact h runtime hrecord hlasting

section Pass

variable {leases : List LeaseAssignment} {knows : String → Option WorkloadSpec}
variable {lease : LeaseAssignment}

theorem granting_generous : Generous (host (granting leases knows)) :=
  fun _ _ _ _ hstep => hstep.1.2.2

theorem eq_of_recalls {workloadId : String} {found : Option WorkloadSpec}
    (h : Recalls (host (granting leases knows)) workloadId found) :
    found = knows workloadId := by
  rcases h with ⟨w, w', hstep⟩
  have hanswer : Except.ok found = Except.ok (knows workloadId) :=
    hstep.1.2.1
  exact Except.ok.inj hanswer

theorem Concluded.settled (h : Concluded w d) : Ready w d ∨ Excused w d := by
  rcases h with ⟨runtime, hget, hready | ⟨-, hexcused⟩⟩
  · exact .inl ⟨runtime, hget, hready⟩
  · exact .inr hexcused

theorem Answered.settled (h : Answered M w d) : Ready w d ∨ Excused w d := by
  rcases h with h | ⟨hexcused, -⟩
  · exact h.settled
  · exact .inr hexcused

theorem Unmoved.excused (h : Unmoved w d w') : Excused w' d ↔ Excused w d := by
  rw [Excused, Excused, h.2]

theorem outcome_settled (hid : lease.deploymentId = d)
    (hactive : isSuspendedLease lease = false) (hclassed : ClassedAt d w)
    (hstuck : ¬Stuck knows w d)
    (h : Outcome (host (granting leases knows)) w lease w') :
    Ready w' d ∨ Excused w' d := by
  subst hid
  unfold Outcome at h
  cases hget : w.runtimes.get? lease.deploymentId with
  | none =>
      simp only [hget, hactive] at h
      exact h.settled
  | some existing =>
      have hkey : existing.deploymentId = lease.deploymentId :=
        Table.key_of_get? hget
      simp only [hget, hactive] at h
      have hinert : Inert knows existing → Excused w lease.deploymentId := by
        intro hinert
        by_contra hexcused
        exact hstuck ⟨hexcused, existing, hget, hinert⟩
      cases hstatus : existing.status with
      | accepted => simp only [hstatus] at h; exact h.settled
      | starting => simp only [hstatus] at h; exact h.settled
      | ready =>
          simp only [hstatus] at h
          exact .inl ⟨existing, h.1.trans hget, hstatus⟩
      | suspended =>
          simp only [hstatus] at h
          have hknown := hclassed existing hget (.inr hstatus)
          cases h hknown with
          | back hconcluded hcause => exact hkey ▸ hconcluded.settled
          | forgotten hkind hnone hunmoved =>
              rw [hkey] at hunmoved
              refine .inr (hunmoved.excused.mpr (hinert ?_))
              simp only [Inert, hstatus]
              exact ⟨hkind, (eq_of_recalls hnone).symm⟩
          | refused hrefused => exact absurd granting_generous hrefused
      | failed =>
          simp only [hstatus] at h
          exact .inr (h.excused.mpr (hinert (by simp [Inert, hstatus])))
      | terminated =>
          simp only [hstatus] at h
          exact .inr (h.excused.mpr (hinert (by simp [Inert, hstatus])))
      | preparing =>
          simp only [hstatus] at h
          exact .inr (h.excused.mpr (hinert (by simp [Inert, hstatus])))

theorem outcome_inert (hid : lease.deploymentId = d)
    (hactive : isSuspendedLease lease = false) (hclassed : ClassedAt d w)
    {existing : UnifiedRuntimeRecord}
    (hget : w.runtimes.get? d = some existing) (hinert : Inert knows existing)
    (h : Outcome (host (granting leases knows)) w lease w') :
    Unmoved w d w' := by
  subst hid
  have hkey : existing.deploymentId = lease.deploymentId :=
    Table.key_of_get? hget
  simp only [Outcome, hget, hactive] at h
  cases hstatus : existing.status with
  | accepted => simp [Inert, hstatus] at hinert
  | starting => simp [Inert, hstatus] at hinert
  | ready => simp [Inert, hstatus] at hinert
  | suspended =>
      simp only [hstatus] at h
      simp only [Inert, hstatus] at hinert
      have hknown := hclassed existing hget (.inr hstatus)
      cases h hknown with
      | back hconcluded hcause =>
          rcases hcause with hpod | ⟨workload, hsome⟩
          · exact absurd hpod hinert.1
          · have hfound := eq_of_recalls hsome
            rw [hinert.2] at hfound
            cases hfound
      | forgotten hkind hnone hunmoved => rwa [hkey] at hunmoved
      | refused hrefused => exact absurd granting_generous hrefused
  | failed => simp only [hstatus] at h; exact h
  | terminated => simp only [hstatus] at h; exact h
  | preparing => simp only [hstatus] at h; exact h

theorem handleLease_classedAt (hclassed : ClassedAt d w) :
    Sat (host permitted) (fun _ _ => True) (handleLease s lease)
      (fun r w' => (r = .ok () → Outcome (host permitted) w lease w') ∧
        ClassedAt d w') w := by
  have hconduct := handleLease_conduct (s := s)
    (watchful_any (M := host permitted) host_refines) lease w
  exact (hconduct.keeping (I := ClassedAt d) (fun _ _ _ _ hc hguard =>
    host_classedAt hc hguard.writesClassed) hclassed).mono
      (fun _ _ _ => trivial) fun _ _ h => h

section Turns

variable {hotkey : String}
variable (hmine : ∃ lease ∈ leases, isMine s lease = true ∧
  lease.deploymentId = d)
variable (hactive : ∀ lease ∈ leases, isMine s lease = true →
  lease.deploymentId = d → isSuspendedLease lease = false)
include hmine hactive

theorem turns_settled :
    Turns (host (granting leases knows))
      (fun w => (¬Stuck knows w d ∧ ClassedAt d w) ∧ w.reconcileLock = false)
      (fun w => (Ready w d ∨ Excused w d) ∧ ClassedAt d w)
      (reconcileOnce s hotkey) := by
  have hhandle : ∀ lease ∈ leases, isMine s lease = true →
      lease.deploymentId = d → Turns (host (granting leases knows))
        (fun w => ¬Stuck knows w d ∧ ClassedAt d w)
        (fun w => (Ready w d ∨ Excused w d) ∧ ClassedAt d w)
        (handleLease s lease) := by
    intro lease hmem hlease hid w hw
    refine (handleLease_classedAt hw.2).weaken fun r w' h heq => ⟨?_, h.2⟩
    exact outcome_settled hid (hactive lease hmem hlease hid) hw.2 hw.1
      (h.1 heq)
  have hsettled : ∀ w, Ready w d ∨ Excused w d → ¬Stuck knows w d := by
    rintro w (⟨runtime, hget, hready⟩ | hexcused) ⟨hnot, stuck, hstuck, hinert⟩
    · rw [hget] at hstuck
      cases hstuck
      simp [Inert, hready] at hinert
    · exact hnot hexcused
  refine turns_leased host_refines ?_ ?_ (fun _ _ _ hstep => hstep.1.1) hmine
    hhandle fun lease hmem hlease hid w hw =>
      hhandle lease hmem hlease hid w ⟨hsettled w hw.1, hw.2⟩
  · rintro w w' ⟨hstuck, hclassed⟩ hsame
    constructor
    · rintro ⟨hexcused, runtime, hget, hinert⟩
      refine hstuck ⟨fun h => hexcused ?_, runtime,
        hsame.record.symm.trans hget, hinert⟩
      rwa [Excused, hsame.2]
    · exact fun runtime hget => hclassed runtime (hsame.record.symm.trans hget)
  · rintro w w' ⟨hsettled, hclassed⟩ hsame
    constructor
    · rcases hsettled with ⟨runtime, hget, hready⟩ | hexcused
      · exact .inl ⟨runtime, hsame.record.trans hget, hready⟩
      · exact .inr (by rwa [Excused, hsame.2])
    · exact fun runtime hget => hclassed runtime (hsame.record.symm.trans hget)

theorem turns_inert {existing : UnifiedRuntimeRecord} {history : List Mark}
    (hinert : Inert knows existing)
    (hclassed : Lasting existing → KnownKind existing.workloadKind) :
    Turns (host (granting leases knows))
      (fun w => (w.runtimes.get? d = some existing ∧ w.history d = history) ∧
        w.reconcileLock = false)
      (fun w => w.runtimes.get? d = some existing ∧ w.history d = history)
      (reconcileOnce s hotkey) := by
  have hhandle : ∀ lease ∈ leases, isMine s lease = true →
      lease.deploymentId = d → Turns (host (granting leases knows))
        (fun w => w.runtimes.get? d = some existing ∧ w.history d = history)
        (fun w => w.runtimes.get? d = some existing ∧ w.history d = history)
        (handleLease s lease) := by
    rintro lease hmem hlease hid w ⟨hget, hhistory⟩
    have hclassedAt : ClassedAt d w := by
      intro runtime hruntime
      rw [hget] at hruntime
      cases hruntime
      exact hclassed
    refine (handleLease_classedAt hclassedAt).weaken fun r w' h heq => ?_
    have hunmoved := outcome_inert hid (hactive lease hmem hlease hid)
      hclassedAt hget hinert (h.1 heq)
    exact ⟨hunmoved.1.trans hget, hunmoved.2.trans hhistory⟩
  have hlooks : LooksAt d fun w =>
      w.runtimes.get? d = some existing ∧ w.history d = history :=
    fun w w' hw hsame =>
      ⟨hsame.record.trans hw.1, hsame.2.trans hw.2⟩
  exact turns_leased host_refines hlooks hlooks
    (fun _ _ _ hstep => hstep.1.1) hmine hhandle hhandle

end Turns

/--
After a pass in which everything is granted, the deployment of an active lease
is ready or its end was reported since its last dispatch, if and only if it was
not stuck before the pass.
-/
theorem lease_settled_iff {hotkey : String}
    (hrun : CrashRun s (host anyResult) w)
    (hmine : ∃ lease ∈ leases, isMine s lease = true ∧ lease.deploymentId = d)
    (hactive : ∀ lease ∈ leases, isMine s lease = true →
      lease.deploymentId = d → isSuspendedLease lease = false)
    (hpass : Exec (host (granting leases knows)) (reconcileOnce s hotkey) w
      (.ok ()) w') :
    Ready w' d ∨ Excused w' d ↔ ¬Stuck knows w d := by
  have hlock := crashRun_unlocked hrun
  have hclassed : ClassedAt d w :=
    fun runtime hget => crashRun_classified hrun d runtime (.inl hget)
  constructor
  · rintro hsettled ⟨hexcused, existing, hget, hinert⟩
    have hkept := (turns_inert hmine hactive hinert (hclassed existing hget) w
      ⟨⟨hget, rfl⟩, hlock⟩).exec hpass rfl
    rcases hsettled with ⟨runtime, hruntime, hready⟩ | hafter
    · rw [hkept.1] at hruntime
      cases hruntime
      simp [Inert, hready] at hinert
    · rw [Excused, hkept.2] at hafter
      exact hexcused hafter
  · intro hstuck
    exact ((turns_settled hmine hactive w
      ⟨⟨hstuck, hclassed⟩, hlock⟩).exec hpass rfl).1

end Pass

/-! ## A pod that leaves its node and returns -/

def isGranted (w : World) : Effect → Bool
  | .allocate d n avoid => World.isOk (w.allocator.allocate d n avoid).1
  | .allocateSpecific d devices =>
      World.isOk (w.allocator.allocateSpecific d devices).1
  | _ => true

theorem podHost_granting (leases : List LeaseAssignment) :
    Follows (host (granting leases fun _ => some ubuntuPod)) (podHost leases)
      isGranted := by
  intro w e hgranted hallows
  refine ⟨?_, podHost leases w e, hallows, rfl⟩
  cases e with
  | allocate d n avoid => exact ⟨trivial, trivial, hgranted⟩
  | allocateSpecific d devices => exact ⟨trivial, trivial, hgranted⟩
  | listLeases hotkey => exact ⟨rfl, trivial, trivial⟩
  | getWorkload id => exact ⟨trivial, rfl, rfl⟩
  | dockerStart owner target => exact ⟨trivial, trivial, rfl⟩
  | _ => exact ⟨trivial, trivial, trivial⟩

def afterGranted (leases : List LeaseAssignment) (w : World) :
    Agent Unit × World :=
  replayFor (podHost leases) isGranted 40 (reconcileOnce {} "hotkey") w

theorem lease_settled_iff_firstPass :
    Ready (afterGranted [leaseOn "pod-1"] (.init {})).2 "pod-1" ∨
      Excused (afterGranted [leaseOn "pod-1"] (.init {})).2 "pod-1" := by
  have hpass := replayFor_exec (podHost_granting [leaseOn "pod-1"]) 40
    (p := reconcileOnce {} "hotkey") (w := .init {}) (r := .ok ()) rfl
  refine (lease_settled_iff (d := "pod-1") .boot
    ⟨leaseOn "pod-1", by simp, rfl, rfl⟩ ?_ hpass).mpr ?_
  · intro lease hmem _ _
    obtain rfl := List.mem_singleton.mp hmem
    rfl
  · rintro ⟨-, runtime, hget, -⟩
    cases hget

def shedNode : World :=
  replayed (podHost [{ leaseOn "pod-1" with nodeId := some "node-b" }])
    (reconcileOnce {} "hotkey") onePodNode

/-- Once shed, a pod is not started again when its lease comes back. -/
theorem shed_lease_stuck :
    CrashRun {} (host anyResult) shedNode ∧
    isMine {} (leaseOn "pod-1") = true ∧
    isSuspendedLease (leaseOn "pod-1") = false ∧
    Exec (host (granting [leaseOn "pod-1"] fun _ => some ubuntuPod))
      (reconcileOnce {} "hotkey") shedNode (.ok ())
      (afterGranted [leaseOn "pod-1"] shedNode).2 ∧
    ¬Ready (afterGranted [leaseOn "pod-1"] shedNode).2 "pod-1" ∧
    ¬Excused (afterGranted [leaseOn "pod-1"] shedNode).2 "pod-1" := by
  refine ⟨?_, rfl, rfl, replayFor_exec (podHost_granting _) 40 rfl, ?_, ?_⟩
  · obtain ⟨r, hstart⟩ := replayed_exec
      (anyResult_respected (podHost [leaseOn "pod-1"]))
      (p := reconcileOnce {} "hotkey") (w := .init {}) rfl
    obtain ⟨r', hshed⟩ := replayed_exec (anyResult_respected
      (podHost [{ leaseOn "pod-1" with nodeId := some "node-b" }]))
      (p := reconcileOnce {} "hotkey") (w := onePodNode) rfl
    exact .serve (.serve .boot (.reconcile "hotkey") hstart)
      (.reconcile "hotkey") hshed
  · rintro ⟨runtime, hget, hready⟩
    have hrecord : ((afterGranted [leaseOn "pod-1"] shedNode).2.runtimes.get?
        "pod-1").map (·.status) = some .terminated := rfl
    rw [hget] at hrecord
    simp [hready] at hrecord
  · rintro ⟨before, after, state, hhistory, hstate, -⟩
    have hmarks : (afterGranted [leaseOn "pod-1"] shedNode).2.history "pod-1" =
        [.dispatched, .reported .ready] := rfl
    have hmem : Mark.reported state ∈
        (afterGranted [leaseOn "pod-1"] shedNode).2.history "pod-1" := by
      rw [hhistory]
      simp
    rw [hmarks] at hmem
    rcases hstate with rfl | rfl <;> simp at hmem

end NodeAgent
