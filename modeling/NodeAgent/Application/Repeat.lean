import NodeAgent.Application.Leased

/-!
# A second pass

What a pass leaves behind is at rest: the same lease list and the same answers
of the control plane give a second pass nothing to do.
-/

namespace NodeAgent

open Effectful Program Agent

/-- What the control plane says of a deployment. -/
abbrev Tidings := String → Except Exn (Option Deployment)

/-- The control plane answers two passes alike. -/
def repeating (leases : List LeaseAssignment) (tidings : Tidings) : Permitted
  | .listLeases _, r => r = .ok leases
  | .getDeployment d, r => r = tidings d
  | _, _ => True

/-- Calls that a pass makes when there is nothing to do. -/
def Quiet : Effect → Prop
  | .acquireReconcileLock | .releaseReconcileLock | .listLeases _
  | .getRuntime _ | .snapshotRuntimeItems | .getDeployment _ => True
  | _ => False

/-- The handler of the lease finds nothing to do for this record. -/
def RestsUnder (lease : LeaseAssignment) :
    Option UnifiedRuntimeRecord → Prop
  | none => isSuspendedLease lease = true
  | some runtime =>
      if isSuspendedLease lease then
        runtime.status ≠ .ready ∧ runtime.status ≠ .starting
      else runtime.status ≠ .suspended ∧ runtime.status ≠ .accepted ∧
        runtime.status ≠ .starting

/-- The clean-up finds nothing to do for this record. -/
def RestsAlone (answer : Except Exn (Option Deployment)) :
    Option UnifiedRuntimeRecord → Prop
  | none => True
  | some runtime => runtime.status = .terminated ∨
      runtime.status = .suspended ∧ ∀ deployment,
        answer = .ok (some deployment) → deployment.state ≠ .terminated

variable {s : Settings} {permitted : Permitted} {w w' : World} {d : String}
variable {M : Machine Effect Effect.Ret Exn World}
variable {leases : List LeaseAssignment} {tidings : Tidings}
variable {lease : LeaseAssignment} {hotkey : String}

/-! ## What the first pass leaves -/

theorem Concluded.restsUnder (h : Concluded w d)
    (hactive : isSuspendedLease lease = false) :
    RestsUnder lease (w.runtimes.get? d) := by
  rcases h with ⟨runtime, hget, hstatus⟩
  have hready : runtime.status = .ready ∨ runtime.status = .failed :=
    hstatus.imp id And.left
  rcases hready with hready | hready <;>
    simp [hget, RestsUnder, hactive, hready]

theorem outcome_rests_suspended (hsuspended : isSuspendedLease lease = true)
    (h : Outcome M w lease w') :
    RestsUnder lease (w'.runtimes.get? lease.deploymentId) := by
  unfold Outcome at h
  simp only [hsuspended, if_true] at h
  cases hget : w.runtimes.get? lease.deploymentId with
  | none =>
      simp only [hget] at h
      simp [h.1, hget, RestsUnder, hsuspended]
  | some existing =>
      simp only [hget] at h
      cases hstatus : existing.status with
      | ready =>
          simp only [hstatus] at h
          obtain ⟨paused, hpaused, hpausedStatus⟩ := h
          simp [hpaused, RestsUnder, hsuspended, hpausedStatus]
      | starting =>
          simp only [hstatus] at h
          obtain ⟨paused, hpaused, hpausedStatus⟩ := h
          simp [hpaused, RestsUnder, hsuspended, hpausedStatus]
      | _ =>
          simp only [hstatus] at h
          simp [h.1, hget, RestsUnder, hsuspended, hstatus]

theorem outcome_rests (hstrict : Strict M) (hclassed : ClassedAt d w)
    (hid : lease.deploymentId = d) (h : Outcome M w lease w') :
    RestsUnder lease (w'.runtimes.get? d) ∨
      isSuspendedLease lease = false ∧ Suspended w d ∧ Suspended w' d := by
  subst hid
  have hanswered : Answered M w' lease.deploymentId →
      Concluded w' lease.deploymentId := by
    rintro (hconcluded | ⟨-, hnot⟩)
    · exact hconcluded
    · exact absurd hstrict hnot
  cases hsuspended : isSuspendedLease lease with
  | true => exact .inl (outcome_rests_suspended hsuspended h)
  | false =>
      unfold Outcome at h
      simp only [hsuspended, Bool.false_eq_true, if_false] at h
      cases hget : w.runtimes.get? lease.deploymentId with
      | none =>
          simp only [hget] at h
          exact .inl ((hanswered h).restsUnder hsuspended)
      | some existing =>
          have hkey : existing.deploymentId = lease.deploymentId :=
            Table.key_of_get? hget
          simp only [hget] at h
          cases hstatus : existing.status with
          | suspended =>
              simp only [hstatus] at h
              have hresumed := h (hclassed existing hget (.inr hstatus))
              cases hresumed with
              | back hconcluded hcause =>
                  rw [hkey] at hconcluded
                  exact .inl (hconcluded.restsUnder hsuspended)
              | forgotten hkind hnone hunmoved =>
                  rcases hnone with ⟨w₁, w₂, hstep⟩
                  exact absurd trivial (hstrict w₁ _ _ w₂ hstep)
              | refused hrefused hstill =>
                  rw [hkey] at hstill
                  exact .inr ⟨rfl, ⟨existing, hget, hstatus⟩, hstill⟩
          | accepted =>
              simp only [hstatus] at h
              exact .inl ((hanswered h).restsUnder hsuspended)
          | starting =>
              simp only [hstatus] at h
              exact .inl ((hanswered h).restsUnder hsuspended)
          | _ =>
              simp only [hstatus] at h
              left
              simp [h.1, hget, RestsUnder, hsuspended, hstatus]

def lapseless (leases : List LeaseAssignment) (tidings : Tidings) : Permitted :=
  fun e r => repeating leases tidings e r ∧ ¬Lapse ⟨e, r⟩

theorem lapseless_strict : Strict (host (lapseless leases tidings)) :=
  fun _ _ _ _ hstep => hstep.1.2

theorem turns_restsUnder (hmem : lease ∈ leases) (hmine : isMine s lease = true)
    (hid : lease.deploymentId = d)
    (hdistinct : (leases.map (·.deploymentId)).Nodup) (before : Prop) :
    Turns (host (lapseless leases tidings))
      (fun w => (ClassedAt d w ∧ (isSuspendedLease lease = false →
        Suspended w d → before)) ∧ w.reconcileLock = false)
      (fun w => ClassedAt d w ∧ (RestsUnder lease (w.runtimes.get? d) ∨
        isSuspendedLease lease = false ∧ before ∧ Suspended w d))
      (reconcileOnce s hotkey) := by
  have hhandle : ∀ lease' ∈ leases, isMine s lease' = true →
      lease'.deploymentId = d → Turns (host (lapseless leases tidings))
        (fun w => ClassedAt d w ∧ (isSuspendedLease lease = false →
          Suspended w d → before))
        (fun w => ClassedAt d w ∧ (RestsUnder lease (w.runtimes.get? d) ∨
          isSuspendedLease lease = false ∧ before ∧ Suspended w d))
        (handleLease s lease') := by
    rintro lease' hmem' - hid' w ⟨hclassed, hbefore⟩
    obtain rfl := List.inj_on_of_nodup_map hdistinct hmem hmem'
      (hid.trans hid'.symm)
    refine (handleLease_classedAt hclassed).weaken fun r w' h heq =>
      ⟨h.2, ?_⟩
    rcases outcome_rests lapseless_strict hclassed hid (h.1 heq) with
      hrests | ⟨hactive, hsuspended, hstill⟩
    · exact .inl hrests
    · exact .inr ⟨hactive, hbefore hactive hsuspended, hstill⟩
  have hsame : ∀ {w w' : World}, Same d w w' →
      (ClassedAt d w → ClassedAt d w') ∧
      (Suspended w d ↔ Suspended w' d) := by
    intro w w' hsame
    simp only [ClassedAt, Suspended, hsame.record]
    exact ⟨id, trivial⟩
  refine turns_leased host_refines ?_ ?_ (fun _ _ _ hstep => hstep.1.1)
    ⟨lease, hmem, hmine, hid⟩ hhandle fun lease' hmem' hmine' hid' w hw =>
      hhandle lease' hmem' hmine' hid' w ⟨hw.1, fun hactive hsuspended => ?_⟩
  · rintro w w' ⟨hclassed, hbefore⟩ h
    exact ⟨(hsame h).1 hclassed, fun hactive hsuspended =>
      hbefore hactive ((hsame h).2.mpr hsuspended)⟩
  · rintro w w' ⟨hclassed, hrests⟩ h
    refine ⟨(hsame h).1 hclassed, ?_⟩
    rw [h.record]
    exact hrests.imp id fun h' => ⟨h'.1, h'.2.1, (hsame h).2.mp h'.2.2⟩
  · rcases hw.2 with hrests | ⟨-, hbefore, -⟩
    · rcases hsuspended with ⟨runtime, hget, hstatus⟩
      simp [hget, RestsUnder, hactive, hstatus] at hrests
    · exact hbefore

/-! ## What the clean-up leaves -/

theorem terminated_restsAlone (h : ∃ stopped,
    w.runtimes.get? d = some stopped ∧ stopped.status = .terminated)
    (answer : Except Exn (Option Deployment)) :
    RestsAlone answer (w.runtimes.get? d) := by
  rcases h with ⟨stopped, hget, hstatus⟩
  rw [hget]
  exact .inl hstatus

theorem reapSuspended_rests (hM : Refines M)
    (htold : ∀ w r w', M.Step w (.getDeployment d) r w' → r = tidings d)
    {runtime : UnifiedRuntimeRecord} (hid : runtime.deploymentId = d)
    (hstatus : runtime.status = .suspended)
    (hrests : w.runtimes.get? d = some runtime ∨
      RestsAlone (tidings d) (w.runtimes.get? d)) :
    Sat M (fun _ _ => True) (reapSuspended s runtime) (fun r w' =>
      r = .ok () → RestsAlone (tidings d) (w'.runtimes.get? d)) w := by
  subst hid
  have hkept : (∀ deployment, tidings runtime.deploymentId =
        .ok (some deployment) → deployment.state ≠ .terminated) →
      RestsAlone (tidings runtime.deploymentId)
        (w.runtimes.get? runtime.deploymentId) := by
    intro hnot
    rcases hrests with hget | hrests
    · rw [hget]
      exact .inr ⟨hstatus, hnot⟩
    · exact hrests
  unfold reapSuspended
  refine sat_step_attempt hM trivial fun a _ hstep => ?_
  have hanswer := htold _ _ _ hstep
  simp only [hanswer]
  cases hcase : tidings runtime.deploymentId with
  | error x => exact fun _ => hcase ▸ hkept fun _ h => by simp [hcase] at h
  | ok found =>
      cases found with
      | none => exact fun _ => hcase ▸ hkept fun _ h => by simp [hcase] at h
      | some deployment =>
          dsimp only
          split
          · refine (terminateRuntime_terminates hM true _).andThen
              (by simp) fun _ w₁ _ => ?_
            refine sat_step_perform hM trivial fun b _ _ _ => ?_
            have hgone : (w₁.answer (.removeRuntime runtime.deploymentId)
                b).2.runtimes.get? runtime.deploymentId = none :=
              (World.perform_record _ _ b _).trans (if_pos rfl)
            rw [hgone]
            trivial
          · rename_i hstate
            refine fun _ => hcase ▸ hkept fun other h => ?_
            rw [hcase] at h
            cases h
            exact hstate

theorem cleanUp_rests (hM : Refines M)
    (htold : ∀ w r w', M.Step w (.getDeployment d) r w' → r = tidings d)
    {runtime : UnifiedRuntimeRecord} (hid : runtime.deploymentId = d)
    {active fleet : List String} (hinactive : d ∉ active)
    (hrests : w.runtimes.get? d = some runtime ∨
      RestsAlone (tidings d) (w.runtimes.get? d)) :
    Sat M (fun _ _ => True) (cleanUp s active fleet runtime) (fun r w' =>
      r = .ok () → RestsAlone (tidings d) (w'.runtimes.get? d)) w := by
  have hterminates : ∀ reported, Sat M (fun _ _ => True)
      (terminateRuntime s runtime reported) (fun r w' =>
        r = .ok () → RestsAlone (tidings d) (w'.runtimes.get? d)) w :=
    fun reported => (terminateRuntime_terminates hM reported w).weaken
      fun r w' h heq => terminated_restsAlone (hid ▸ h heq) _
  rw [cleanUp, if_neg (hid ▸ hinactive)]
  split
  · rename_i hstatus
    refine fun _ => hrests.elim (fun hget => ?_) id
    rw [hget]
    exact .inl hstatus
  · rename_i hstatus
    exact reapSuspended_rests hM htold hid hstatus hrests
  · exact hterminates _

theorem turns_restsAlone (hunleased : ∀ lease ∈ leases,
    isMine s lease = true → lease.deploymentId ≠ d) :
    Turns (host (lapseless leases tidings))
      (fun w => True ∧ w.reconcileLock = false)
      (fun w => RestsAlone (tidings d) (w.runtimes.get? d))
      (reconcileOnce s hotkey) := by
  have hinactive : d ∉ activeIds s leases := by
    intro hmem
    obtain ⟨lease, hlease, hid⟩ := List.mem_map.mp hmem
    obtain ⟨hlease, hmine⟩ := List.mem_filter.mp hlease
    exact hunleased lease hlease hmine hid
  have htold : ∀ w r w', (host (lapseless leases tidings)).Step w
      (.getDeployment d) r w' → r = tidings d :=
    fun _ _ _ hstep => hstep.1.1
  refine turns_unleased host_refines (fun _ _ _ _ => trivial) ?_
    (fun _ _ _ hstep => hstep.1.1) hunleased ?_ ?_ ?_
  · intro w w' hw hsame
    rw [hsame.record]
    exact hw
  · intro w _ hget
    rw [hget]
    trivial
  · exact fun runtime hid w hw =>
      cleanUp_rests host_refines htold hid hinactive (.inl hw.2)
  · exact fun runtime hid w hw =>
      cleanUp_rests host_refines htold hid hinactive (.inr hw)

/-! ## The second pass -/

structure AllRest (s : Settings) (leases : List LeaseAssignment)
    (tidings : Tidings) (runtimes : RuntimeTable) : Prop where
  leased : ∀ lease ∈ leases, isMine s lease = true →
    RestsUnder lease (runtimes.get? lease.deploymentId)
  unleased : ∀ d, d ∉ activeIds s leases → RestsAlone (tidings d) (runtimes.get? d)

/-- The tables and the allocator are what they were. -/
def Unchanged (w₀ w : World) : Prop :=
  w.runtimes = w₀.runtimes ∧ w.allocator = w₀.allocator

theorem Quiet.untouched {e : Effect} (h : Quiet e) :
    World.touchesBooks e = false := by
  cases e <;> first | rfl | exact h.elim

section Second

variable {w₀ : World}

def StaysQuiet (permitted : Permitted) (w₀ : World) (p : Agent Unit) : Prop :=
  Keeps (host permitted) (fun _ e => Quiet e) (Unchanged w₀) p

theorem host_unchanged {e : Effect} {r : Except Exn e.Ret} (he : Quiet e)
    (h : Unchanged w₀ w) (hstep : (host permitted).Step w e r w') :
    Unchanged w₀ w' := by
  obtain ⟨a, -, -, rfl⟩ := host_refines.answered hstep
  obtain ⟨hruntimes, -, hallocator, -⟩ := World.perform_books he.untouched w a
  exact ⟨hruntimes.trans h.1, hallocator.trans h.2⟩

theorem restingLease_quiet
    (h : RestsUnder lease (w₀.runtimes.get? lease.deploymentId)) :
    StaysQuiet permitted w₀ (handleLease s lease) := by
  intro w hw
  unfold handleLease
  refine sat_step_bind host_refines trivial fun a _ hstep => ?_
  have hafter := host_unchanged (e := .getRuntime lease.deploymentId)
    trivial hw hstep
  simp only [World.perform, hw.1, andThen_ok]
  cases hget : w₀.runtimes.get? lease.deploymentId with
  | none =>
      rw [hget] at h
      have hsuspended : isSuspendedLease lease = true := h
      simpa [hsuspended] using hafter
  | some existing =>
      simp only [hget, RestsUnder] at h
      cases hsuspended : isSuspendedLease lease with
      | true =>
          simp only [hsuspended, if_true] at h
          cases hstatus : existing.status with
          | ready => exact absurd hstatus h.1
          | starting => exact absurd hstatus h.2
          | _ => simpa [hstatus] using hafter
      | false =>
          simp only [hsuspended, Bool.false_eq_true, if_false] at h
          cases hstatus : existing.status with
          | suspended => exact absurd hstatus h.1
          | accepted => exact absurd hstatus h.2.1
          | starting => exact absurd hstatus h.2.2
          | _ => simpa [hstatus] using hafter

theorem restingRuntime_quiet {runtime : UnifiedRuntimeRecord}
    {active fleet : List String}
    (htold : ∀ w r w', (host permitted).Step w
      (.getDeployment runtime.deploymentId) r w' →
      r = tidings runtime.deploymentId)
    (h : runtime.deploymentId ∉ active →
      RestsAlone (tidings runtime.deploymentId) (some runtime)) :
    StaysQuiet permitted w₀ (cleanUp s active fleet runtime) := by
  unfold cleanUp
  split
  · exact keeps_pure ()
  · rename_i hinactive
    rcases h hinactive with hstatus | ⟨hstatus, hnot⟩
    · simp only [hstatus]
      exact keeps_pure ()
    · simp only [hstatus]
      intro w hw
      unfold reapSuspended
      refine sat_step_attempt host_refines trivial fun a _ hstep => ?_
      have hafter := host_unchanged
        (e := .getDeployment runtime.deploymentId) trivial hw hstep
      have hanswer := htold _ _ _ hstep
      simp only [hanswer]
      cases hcase : tidings runtime.deploymentId with
      | error x => exact hafter
      | ok found =>
          cases found with
          | none => exact hafter
          | some deployment =>
              simpa [hnot deployment hcase] using hafter

theorem reconcileOnce_quiet
    (hrest : AllRest s leases tidings w₀.runtimes) :
    StaysQuiet (repeating leases tidings) w₀ (reconcileOnce s hotkey) := by
  refine keeps_reconcileOnce (L := fun heard => heard = leases)
    (fun e he => ?_) host_refines ?_ ?_ ?_
  · have hquiet : Quiet e := by
      cases e <;> first | exact trivial | exact he.elim
    exact keeps_perform (fun _ _ => hquiet)
      fun _ _ _ h hstep => host_unchanged hquiet h hstep
  · intro w r w' hstep
    obtain rfl : r = .ok leases := hstep.1
    rfl
  · rintro _ rfl lease hmem hmine
    exact restingLease_quiet (hrest.leased lease hmem hmine)
  · rintro _ rfl w runtime hw hmem
    refine restingRuntime_quiet (fun _ _ _ hstep => hstep.1)
      fun hinactive => ?_
    have hget := Table.mem_snapshot_iff.mp hmem
    rw [hw.1] at hget
    exact hget ▸ hrest.unleased _ hinactive

end Second

/--
After a pass from a reachable state in which no dispatch lapses, no workload is
missing and every resume succeeds, a second pass with the same leases and the
same answers changes no record and no allocation, and makes only quiet calls:
no docker command, no report, no write.
-/
theorem second_pass_quiet {w₀ w₁ : World} {rest : Agent Unit}
    (hrun : CrashRun s (host anyResult) w₀)
    (hdistinct : (leases.map (·.deploymentId)).Nodup)
    (hfirst : Exec (host (repeating leases tidings)) (reconcileOnce s hotkey)
      w₀ (.ok ()) w₁)
    (hlapse : ∀ event ∈ issued w₀ w₁, ¬Lapse event)
    (hresumed : ∀ lease ∈ leases, isMine s lease = true →
      isSuspendedLease lease = false → Suspended w₀ lease.deploymentId →
      ¬Suspended w₁ lease.deploymentId)
    (hsecond : Reaches (host (repeating leases tidings))
      (reconcileOnce s hotkey) w₁ rest w) :
    w.runtimes = w₁.runtimes ∧ w.allocator = w₁.allocator ∧
      ∀ event ∈ issued w₁ w, Quiet event.call := by
  have hlock := crashRun_unlocked hrun
  have hpass : Exec (host (lapseless leases tidings)) (reconcileOnce s hotkey)
      w₀ (.ok ()) w₁ := reaches_restrict hfirst hlapse
  have hrest : AllRest s leases tidings w₁.runtimes := by
    constructor
    · intro lease hmem hmine
      have hclassed : ClassedAt lease.deploymentId w₀ :=
        fun runtime hget => crashRun_classified hrun _ runtime (.inl hget)
      have hafter := (turns_restsUnder hmem hmine rfl
        hdistinct (Suspended w₀ lease.deploymentId) w₀
        ⟨⟨hclassed, fun _ h => h⟩, hlock⟩).exec hpass rfl
      rcases hafter.2 with hrests | ⟨hactive, hbefore, hstill⟩
      · exact hrests
      · exact absurd hstill (hresumed lease hmem hmine hactive hbefore)
    · intro d hinactive
      have hunleased : ∀ lease ∈ leases, isMine s lease = true →
          lease.deploymentId ≠ d := by
        rintro lease hmem hmine rfl
        exact hinactive (List.mem_map.mpr
          ⟨lease, List.mem_filter.mpr ⟨hmem, hmine⟩, rfl⟩)
      exact (turns_restsAlone hunleased w₀ ⟨trivial, hlock⟩).exec hpass rfl
  have hquiet : Sat (host (repeating leases tidings)) (fun _ e => Quiet e)
      (reconcileOnce s hotkey) (fun _ => Unchanged w₁) w₁ :=
    reconcileOnce_quiet hrest w₁ ⟨rfl, rfl⟩
  have hlogged := Sat.logged host_refines hquiet
    (c := fun event => Quiet event.call) fun _ _ _ _ hguard _ => hguard
  have hkept := hquiet.keeping (I := Unchanged w₁)
    (fun _ _ _ _ h hguard hstep => host_unchanged hguard h hstep) ⟨rfl, rfl⟩
  have hsame := hkept.cut (fun _ _ h => h) (fun _ _ h => h.2) hsecond
  have hcalls := hlogged.cut (fun _ _ h => h) (fun _ _ h => h.2) hsecond
  exact ⟨hsame.1, hsame.2, hcalls.issued⟩

/-! ## A pod that stays up -/

def isLapseless (_ : World) : Effect → Bool
  | .updateDeploymentStatus update => update.error ≠ some
      "node-agent reconciliation failed (check node-agent logs)"
  | _ => true

theorem podHost_lapseless (leases : List LeaseAssignment) :
    Follows (host (lapseless leases fun _ => .ok none)) (podHost leases)
      isLapseless := by
  intro w e hlapse hallows
  refine ⟨?_, podHost leases w e, hallows, rfl⟩
  cases e with
  | updateDeploymentStatus update =>
      have herror : update.error ≠ some
          "node-agent reconciliation failed (check node-agent logs)" :=
        of_decide_eq_true hlapse
      exact ⟨trivial, herror⟩
  | listLeases hotkey => exact ⟨rfl, id⟩
  | getDeployment d => exact ⟨rfl, id⟩
  | getWorkload workloadId => exact ⟨trivial, id⟩
  | _ => exact ⟨trivial, id⟩

def afterPass (w : World) : Agent Unit × World :=
  replayFor (podHost [leaseOn "pod-1"]) isLapseless 40
    (reconcileOnce {} "hotkey") w

theorem second_pass_quiet_onePod :
    ((afterPass (.init {})).2.runtimes.get? "pod-1").map (·.status) =
        some .ready ∧
      (afterPass (afterPass (.init {})).2).2.runtimes =
        (afterPass (.init {})).2.runtimes ∧
      ∀ event ∈ issued (afterPass (.init {})).2
          (afterPass (afterPass (.init {})).2).2, Quiet event.call := by
  have hfirst := replayFor_exec (podHost_lapseless [leaseOn "pod-1"]) 40
    (p := reconcileOnce {} "hotkey") (w := .init {}) (r := .ok ()) rfl
  have hsecond := replayFor_exec (podHost_lapseless [leaseOn "pod-1"]) 40
    (p := reconcileOnce {} "hotkey") (w := (afterPass (.init {})).2)
    (r := .ok ()) rfl
  have hwiden : ∀ {p q : Agent Unit} {w w' : World},
      Reaches (host (lapseless [leaseOn "pod-1"] fun _ => .ok none)) p w q w' →
      Reaches (host (repeating [leaseOn "pod-1"] fun _ => .ok none)) p w q w' :=
    fun h => h.widen fun _ _ _ _ hstep => ⟨hstep.1.1, hstep.2⟩
  have hlapse := (exec_permitted hfirst).issued
  have hquiet := second_pass_quiet .boot (by simp) (hwiden hfirst)
    (fun event hevent => (hlapse event hevent).2) ?_ (hwiden hsecond)
  · exact ⟨rfl, hquiet.1, hquiet.2.2⟩
  · rintro lease - - - ⟨runtime, hget, -⟩
    cases hget

end NodeAgent