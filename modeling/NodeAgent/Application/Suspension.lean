import NodeAgent.Application.Housekeeping
import NodeAgent.Application.Leased

/-!
# Suspended leases

What a pass leaves running of a deployment whose lease is suspended.  The pass
suspends a record that is starting or ready, and stops the one container that
the record names.
-/

namespace NodeAgent

open Effectful Program Agent

namespace Tenancy

variable {s : Settings} {permitted : Permitted} {d : String} {α : Type}
variable {v v' : Tenancy} {runtime : UnifiedRuntimeRecord}
variable {N : Machine Effect Effect.Ret Exn Tenancy}

/-- No GPU is held, and no container runs. -/
def Cleared (v : Tenancy) : Prop :=
  v.held = ∅ ∧ ∀ c ∈ v.containers, c.running = false

/-- The record is in service and names every container that runs. -/
def Covers (s : Settings) (v : Tenancy) (runtime : UnifiedRuntimeRecord) :
    Prop :=
  v.record = some runtime ∧ InService runtime ∧
    ∀ c ∈ v.containers, c.running = true → Stops s runtime c

/-- There is nothing to stop, or suspending the record stops it. -/
def Stoppable (s : Settings) (v : Tenancy) : Prop :=
  Cleared v ∨ ∃ runtime, Covers s v runtime

theorem cleared_enduring : Enduring Cleared := by
  intro v v' hfades ⟨hheld, hstopped⟩
  exact ⟨hfades.held.trans hheld, fun c hc =>
    not_running_of_shrinks hfades.containers (P := fun _ => True)
      (fun _ _ _ _ _ => trivial) (fun c hc _ => hstopped c hc) hc trivial⟩

theorem stoppable_enduring : Enduring (Stoppable s) := by
  rintro v v' hfades (hcleared | ⟨runtime, hrecord, hservice, hnames⟩)
  · exact .inl (cleared_enduring v v' hfades hcleared)
  · refine .inr ⟨runtime, hfades.record.trans hrecord, hservice, ?_⟩
    intro c hc hrunning
    obtain ⟨c', hc', hid, hname, -, -, hran⟩ := hfades.containers c hc
    have hstops := hnames c' hc' (hran hrunning)
    exact ⟨hstops.1, answersTo_of_eq hid.symm hname.symm hstops.2.1,
      hstops.2.2⟩

theorem cleared_of_halted (hheld : v.held = ∅)
    (hnames : ∀ c ∈ v.containers, c.running = true → Stops s runtime c)
    (hfades : Fades v v') (hhalted : Halted s runtime v') : Cleared v' := by
  refine ⟨hfades.held.trans hheld, fun c hc => ?_⟩
  by_contra hrunning
  have hrunning : c.running = true := by simpa using hrunning
  obtain ⟨c', hc', hid, hname, -, -, hran⟩ := hfades.containers c hc
  have hstops := hnames c' hc' (hran hrunning)
  have hstopped := hhalted c hc ⟨hstops.1,
    answersTo_of_eq hid.symm hname.symm hstops.2.1, hstops.2.2⟩
  rw [hrunning] at hstopped
  cases hstopped

variable (hN : Obeys s permitted N)
include hN

theorem suspendRuntime_clears (hid : runtime.deploymentId = d)
    (hnames : ∀ c ∈ v.containers, c.running = true → Stops s runtime c) :
    Abides N (fun _ => True) (suspendRuntime s runtime)
      (fun r v' => r = .ok () → Cleared v') v := by
  have hany : Enduring fun _ => True := fun _ _ _ _ => trivial
  have hrelease : Abides N (fun _ => True) (release runtime.deploymentId)
      (fun _ v' => v'.held = ∅ ∧ ∀ c ∈ v'.containers, c.running = true →
        Stops s runtime c) v := by
    refine abides_own hN trivial ?_
    rintro r v' - rfl
    exact ⟨rfl, hnames⟩
  have hpause : ∀ v₁, v₁.held = ∅ →
      (∀ c ∈ v₁.containers, c.running = true → Stops s runtime c) →
      Abides N (fun _ => True) (pausedOrMarked s runtime)
        (fun _ v' => Cleared v') v₁ := by
    intro v₁ hheld hnames
    refine sat_bind'.mpr (sat_attempt.mpr
      ((pauseBackend_abides hN hany hid trivial).weaken ?_))
    rintro r v₂ ⟨hfades, hhalted⟩
    have hcleared := cleared_of_halted hheld hnames hfades hhalted
    cases r <;> exact hcleared
  have hquiet : ∀ {e : Effect} {v₁}, Cleared v₁ →
      (∀ r v₂, OwnStep s v₁ e r v₂ → v₂.held = v₁.held ∧
        v₂.containers = v₁.containers) →
      Abides N (fun _ => True) (perform e) (fun _ v' => Cleared v') v₁ := by
    intro e v₁ h₁ hsame
    refine abides_own hN trivial fun r v₂ _ hstep => ?_
    obtain ⟨hheld, hcontainers⟩ := hsame r v₂ hstep
    exact ⟨hheld.trans h₁.1, fun c hc => h₁.2 c (hcontainers ▸ hc)⟩
  unfold suspendRuntime
  refine Sat.andThen hrelease (by simp) fun _ v₁ h₁ => ?_
  refine Sat.andThen (hpause v₁ h₁.1 h₁.2) (by simp) fun suspended v₂ h₂ => ?_
  refine Sat.andThen (hquiet h₂ ?_) (by simp) fun _ v₃ h₃ => ?_
  · rintro r v' rfl
    exact ⟨rfl, rfl⟩
  refine sat_ignoring.mpr ((hquiet h₃ ?_).weaken ?_)
  · rintro r v' rfl
    exact ⟨rfl, rfl⟩
  · intro r v' h'
    cases r with
    | ok => exact fun _ => h'
    | error x => by_cases hx : x.isControlPlaneHTTPError <;> simp [hx, h']

theorem handleLease_clears {lease : LeaseAssignment}
    (hsuspended : isSuspendedLease lease = true) (hv : Stoppable s v) :
    Abides N (fun _ => True) (handleLease s lease)
      (fun r v' => r = .ok () → Cleared v') v := by
  have hget : Abides N (fun _ => True) (getRuntime lease.deploymentId)
      (fun r v' => v' = v ∧ r = .ok v.record) v := by
    refine abides_own hN trivial ?_
    rintro r v' - ⟨rfl, rfl⟩
    exact ⟨rfl, rfl⟩
  unfold handleLease
  refine Sat.andThen hget (by simp) ?_
  rintro found v' ⟨rfl, hfound⟩
  obtain rfl : found = v'.record := by simpa using hfound
  cases hrecord : v'.record with
  | none =>
      rcases hv with hcleared | ⟨runtime, hcovers⟩
      · simpa [hsuspended] using hcleared
      · cases hrecord.symm.trans hcovers.1
  | some existing =>
      have hnames : InService existing →
          ∀ c ∈ v'.containers, c.running = true → Stops s existing c := by
        intro _ c hc hrunning
        rcases hv with hcleared | ⟨runtime, hruntime, -, hnames⟩
        · rw [hcleared.2 c hc] at hrunning
          cases hrunning
        · rw [hrecord] at hruntime
          cases hruntime
          exact hnames c hc hrunning
      have hdone : ¬InService existing → Cleared v' := by
        intro hstatus
        rcases hv with hcleared | ⟨runtime, hruntime, hservice, -⟩
        · exact hcleared
        · rw [hrecord] at hruntime
          cases hruntime
          exact absurd hservice hstatus
      simp only [hsuspended, if_true]
      cases hstatus : existing.status with
      | ready => exact suspendRuntime_clears hN rfl (hnames (.inr hstatus))
      | starting => exact suspendRuntime_clears hN rfl (hnames (.inl hstatus))
      | _ => exact fun _ => hdone (by simp [InService, hstatus])

end Tenancy

/-! ## The pass -/

section Pass

variable {s : Settings} {w w' : World} {d : String}
variable {leases : List LeaseAssignment}

/-- Docker commands succeed in a pass over the given leases. -/
def suspending (leases : List LeaseAssignment) : Permitted := fun e r =>
  listing (.ok leases) e r ∧ dockerWorks e r

theorem turns_cleared {Q : Tenancy → Prop}
    (hQ : ∀ v, Q v → Tenancy.Stoppable s v) {lease : LeaseAssignment}
    (hid : lease.deploymentId = d)
    (hsuspended : isSuspendedLease lease = true) :
    Turns (host (suspending leases)) (Tenants s d Q)
      (Tenants s d Tenancy.Cleared) (handleLease s lease) := by
  intro w h
  have hworks : Works (suspending leases) := fun _ _ h => h.2
  have hclears := Tenancy.handleLease_clears (s := s)
    (N := Tenancy.machine s (suspending leases)) (fun _ _ _ _ hstep => hstep)
    hsuspended (hQ _ h.2)
  refine (sat_tenancy (N := Tenancy.machine s (suspending leases))
    host_refines (fun w e r w' htenanted hlocal hstep =>
      ⟨hstep.1, host_typed s hstep, host_tenancy hworks htenanted hlocal hstep⟩)
    (fun _ _ => handleLease_local hid) h.1 hclears).mono
    (fun _ _ _ => trivial) ?_
  exact fun r w' hpost hok => ⟨hpost.1, hpost.2.2.2 hok⟩

/--
After a pass in which docker commands succeed, a deployment whose leases are
suspended holds no GPU and runs no container, if it did not before or if its
record was starting or ready and named every container of its that ran.
-/
theorem suspended_cleared {hotkey : String}
    (hrun : CrashRun s (host anyResult) w)
    (hmine : ∃ lease ∈ leases, isMine s lease = true ∧ lease.deploymentId = d)
    (hsuspended : ∀ lease ∈ leases, isMine s lease = true →
      lease.deploymentId = d → isSuspendedLease lease = true)
    (hstoppable : Tenancy.Stoppable s (w.tenancy d))
    (hpass : Exec (host (suspending leases)) (reconcileOnce s hotkey) w
      (.ok ()) w') :
    (w'.tenancy d).Cleared := by
  have htenanted := crashRun_tenanted host_refines hrun
  have hlock := crashRun_unlocked hrun
  have hturns : Turns _ _ _ (reconcileOnce s hotkey) := turns_held
    host_refines (Tenancy.stoppable_enduring.unaffected host_refines)
    (Tenancy.cleared_enduring.unaffected host_refines)
    (fun _ _ _ hstep => hstep.1.1) hmine
    (fun lease hmem hmine hid => turns_cleared (fun _ h => h) hid
      (hsuspended lease hmem hmine hid))
    (fun lease hmem hmine hid => turns_cleared (fun _ h => .inl h) hid
      (hsuspended lease hmem hmine hid))
  exact ((hturns w ⟨⟨htenanted, hstoppable⟩, hlock⟩).exec hpass rfl).2

end Pass

/-! ## A pod whose start was cut short -/

theorem podHost_suspending (leases : List LeaseAssignment) :
    (podHost leases).Respects (suspending leases) := by
  intro w e
  cases e with
  | listLeases hotkey => exact ⟨rfl, trivial⟩
  | dockerRun command => exact ⟨trivial, rfl⟩
  | dockerRm owner target => exact ⟨trivial, rfl⟩
  | dockerStop owner target => exact ⟨trivial, rfl⟩
  | dockerStart owner target => exact ⟨trivial, rfl⟩
  | _ => exact ⟨trivial, trivial⟩

theorem suspended_cleared_onePodNode :
    ((replayed (podHost [suspendedLease "pod-1"]) (reconcileOnce {} "hotkey")
      onePodNode).tenancy "pod-1").Cleared := by
  obtain ⟨r, hstart⟩ := replayed_exec
    (anyResult_respected (podHost [leaseOn "pod-1"]))
    (p := reconcileOnce {} "hotkey") (w := .init {}) rfl
  have hpass : Exec (host (suspending [suspendedLease "pod-1"]))
      (reconcileOnce {} "hotkey") onePodNode (.ok ())
      (replayed (podHost [suspendedLease "pod-1"]) (reconcileOnce {} "hotkey")
        onePodNode) :=
    replay_exec (podHost_suspending [suspendedLease "pod-1"]) rfl
  refine suspended_cleared (.serve .boot (.reconcile "hotkey") hstart)
    ⟨suspendedLease "pod-1", by simp, rfl, rfl⟩ ?_ (.inr ⟨_, rfl, .inr rfl, ?_⟩)
    hpass
  · intro lease hmem _ _
    obtain rfl := List.mem_singleton.mp hmem
    rfl
  · intro c hc _
    obtain rfl := List.mem_singleton.mp hc
    exact ⟨rfl, rfl, .inl ⟨rfl, rfl⟩⟩

/-- The agent dies between `docker run` and writing the container id. -/
def cutAfterRun : Agent Unit × World :=
  replayFor (podHost [leaseOn "pod-1"]) (fun _ _ => true) 16
    (reconcileOnce {} "hotkey") (.init {})

/-- The lease is suspended after the restart. -/
def unpaidNode : World :=
  replayed (podHost [suspendedLease "pod-1"]) (reconcileOnce {} "hotkey")
    (cutAfterRun.2.restart {})

/-- The container keeps running on a GPU that the allocator calls free. -/
theorem unpaidNode_runs :
    CrashRun {} (host anyResult) (cutAfterRun.2.restart {}) ∧
    isMine {} (suspendedLease "pod-1") = true ∧
    isSuspendedLease (suspendedLease "pod-1") = true ∧
    Exec (host (suspending [suspendedLease "pod-1"]))
      (reconcileOnce {} "hotkey") (cutAfterRun.2.restart {}) (.ok ())
      unpaidNode ∧
    (∃ c ∈ (unpaidNode.tenancy "pod-1").containers,
      c.running = true ∧ c.gpus = .devices [0]) ∧
    ¬(unpaidNode.tenancy "pod-1").Cleared := by
  have hcut : CrashRun {} (host anyResult) (cutAfterRun.2.restart {}) :=
    .crash .boot (.reconcile "hotkey") (replayFor_reaches
      (anyResult_respected (podHost [leaseOn "pod-1"])).follows 16 _ _)
  have hpass : Exec (host (suspending [suspendedLease "pod-1"]))
      (reconcileOnce {} "hotkey") (cutAfterRun.2.restart {}) (.ok ())
      unpaidNode :=
    replay_exec (podHost_suspending [suspendedLease "pod-1"]) rfl
  have hcontainer : ∃ c ∈ (unpaidNode.tenancy "pod-1").containers,
      c.running = true ∧ c.gpus = .devices [0] :=
    ⟨_, List.mem_singleton_self _, rfl, rfl⟩
  refine ⟨hcut, rfl, rfl, hpass, hcontainer, fun hcleared => ?_⟩
  obtain ⟨c, hc, hrunning, -⟩ := hcontainer
  rw [hcleared.2 c hc] at hrunning
  cases hrunning

end NodeAgent
