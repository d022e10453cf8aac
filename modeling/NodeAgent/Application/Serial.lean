import NodeAgent.Application.Capacity
import NodeAgent.Foundation.TryLock

/-!
# Passes from several threads

The worker loop, the routes and the bootstrap start passes from threads of
their own, and the heartbeat reads beside them.  The reconcile lock is asked
for without waiting, and whoever is refused leaves again.
-/

namespace NodeAgent

open Effectful Program Agent

variable {s : Settings} {permitted : Permitted} {w w' v v' : World}

/-! ## Worlds that differ in what was only looked at -/

def Watching : Effect → Prop
  | .getRuntime _ | .snapshotRuntimeItems | .allocatedDevices | .listLeases _
  | .getDeployment _ | .getWorkload _ | .probe _ => True
  | _ => False

/-- The lock was refused, or something was looked at. -/
def Event.idle : Event → Bool
  | ⟨.acquireReconcileLock, .ok acquired⟩ => !acquired
  | ⟨.getRuntime _, _⟩ | ⟨.snapshotRuntimeItems, _⟩ | ⟨.allocatedDevices, _⟩
  | ⟨.listLeases _, _⟩ | ⟨.getDeployment _, _⟩ | ⟨.getWorkload _, _⟩
  | ⟨.probe _, _⟩ => true
  | _ => false

namespace World

def withLog (w : World) (log : List Event) : World := { w with log := log }

def doings (w : World) : List Event := w.log.filter fun event => !event.idle

/-- No call can tell the worlds apart, and the same was done in both. -/
structure Same (w v : World) : Prop where
  state : v = w.withLog v.log
  doings : v.doings = w.doings

theorem Same.refl (w : World) : Same w w := ⟨rfl, rfl⟩

theorem perform_withLog (w : World) (log : List Event) (e : Effect)
    (a : Answer e) :
    (w.withLog log).perform e a =
      ((w.perform e a).1, (w.perform e a).2.withLog log) := by
  cases e with
  | dockerRun command =>
      cases h : a.created <;> simp [perform, withContainer, withLog, h]
  | dockerRm owner target =>
      by_cases h : a.tookEffect <;>
        simp [perform, withLog, h, withoutContainer]
  | dockerStop owner target =>
      by_cases h : a.tookEffect <;> simp [perform, withLog, h, setRunning]
  | dockerStart owner target =>
      by_cases h : a.tookEffect <;> simp [perform, withLog, h, setRunning]
  | spawnServer owner => cases h : a.result <;> simp [perform, withLog, h]
  | terminatePid owner pid =>
      by_cases h : a.tookEffect <;> simp [perform, withLog, h]
  | stageArtifact d uri digest =>
      by_cases h : a.tookEffect <;> simp [perform, withLog, h]
  | makeRuntimeDir d =>
      by_cases h : a.tookEffect <;> simp [perform, withLog, h]
  | deleteRuntimeDir owner path =>
      by_cases h : a.tookEffect <;> simp [perform, withLog, h]
  | deleteStagedArtifact owner path =>
      by_cases h : a.tookEffect <;> simp [perform, withLog, h]
  | createVolume volume =>
      by_cases h : a.tookEffect <;> simp [perform, withLog, h]
  | deleteVolume volume =>
      by_cases h : a.tookEffect <;> simp [perform, withLog, h]
  | _ => rfl

theorem allows_withLog (w : World) (log : List Event) (e : Effect)
    (a : Answer e) : (w.withLog log).allows e a = w.allows e a := by
  cases e <;> rfl

theorem Same.answer (h : Same w v) (e : Effect) (a : Answer e) :
    (v.answer e a).1 = (w.answer e a).1 ∧
      Same (w.answer e a).2 (v.answer e a).2 := by
  have hperform : v.perform e a =
      ((w.perform e a).1, (w.perform e a).2.withLog v.log) := by
    rw [h.state]
    exact w.perform_withLog v.log e a
  refine ⟨by simp only [World.answer, hperform], ?_, ?_⟩
  · simp only [World.answer, hperform, withLog]
  · have hdoings := h.doings
    unfold World.doings at hdoings ⊢
    simp only [World.answer, hperform, List.filter_append, hdoings]

theorem Same.idle (h : Same w v) {e : Effect} {a : Answer e}
    (hidle : Event.idle ⟨e, (w.perform e a).1⟩ = true)
    (hkept : (w.perform e a).2 = w) : Same (w.answer e a).2 v := by
  refine ⟨?_, ?_⟩
  · rw [h.state]
    simp only [World.answer, hkept, withLog]
  · rw [h.doings]
    simp [World.doings, World.answer, List.filter_append, hidle]

theorem Same.lock (h : Same w v) : v.reconcileLock = w.reconcileLock := by
  rw [h.state]
  rfl

theorem Same.restart (h : Same w v) : Same (w.restart s) (v.restart s) := by
  refine ⟨?_, h.doings⟩
  rw [h.state]
  rfl

theorem perform_lock {e : Effect} (hacquire : e ≠ .acquireReconcileLock)
    (hrelease : e ≠ .releaseReconcileLock) (w : World) (a : Answer e) :
    (w.perform e a).2.reconcileLock = w.reconcileLock := by
  cases e with
  | acquireReconcileLock => exact absurd rfl hacquire
  | releaseReconcileLock => exact absurd rfl hrelease
  | dockerRun command =>
      cases h : a.created <;> simp [perform, withContainer, h]
  | dockerRm owner target =>
      by_cases h : a.tookEffect <;> simp [perform, h, withoutContainer]
  | dockerStop owner target =>
      by_cases h : a.tookEffect <;> simp [perform, h, setRunning]
  | dockerStart owner target =>
      by_cases h : a.tookEffect <;> simp [perform, h, setRunning]
  | spawnServer owner => cases h : a.result <;> simp [perform, h]
  | terminatePid owner pid => by_cases h : a.tookEffect <;> simp [perform, h]
  | stageArtifact d uri digest =>
      by_cases h : a.tookEffect <;> simp [perform, h]
  | makeRuntimeDir d => by_cases h : a.tookEffect <;> simp [perform, h]
  | deleteRuntimeDir owner path =>
      by_cases h : a.tookEffect <;> simp [perform, h]
  | deleteStagedArtifact owner path =>
      by_cases h : a.tookEffect <;> simp [perform, h]
  | createVolume volume => by_cases h : a.tookEffect <;> simp [perform, h]
  | deleteVolume volume => by_cases h : a.tookEffect <;> simp [perform, h]
  | _ => rfl

end World

/-! ## The reconcile lock -/

/-- The reconcile lock, as the handlers and the host see it. -/
def reconcileLock (s : Settings) : TryLock Effect Effect.Ret Exn where
  takes e := e = .acquireReconcileLock
  gives e := e = .releaseReconcileLock
  granted
    | .acquireReconcileLock, .ok acquired => acquired = true
    | _, _ => False
  answers := Typed s anyContainer

def Locked (w : World) : Prop := w.reconcileLock = true

theorem reconcileLock_locked :
    LockedBy (reconcileLock s) (host permitted) Locked where
  answered w e r w' hstep := host_typed s hstep
  taken w e r w' htakes hstep := by
    obtain rfl : e = .acquireReconcileLock := htakes
    obtain ⟨a, -, rfl, rfl⟩ := host_refines.performed hstep
    refine ⟨rfl, ?_⟩
    simp [reconcileLock, World.perform, Locked]
  given w e r w' hgives hstep := by
    obtain rfl : e = .releaseReconcileLock := hgives
    obtain ⟨a, -, rfl, rfl⟩ := host_refines.performed hstep
    simp [World.perform, Locked]
  apart w e r w' hapart hstep := by
    obtain ⟨a, -, rfl, rfl⟩ := host_refines.performed hstep
    simp only [Locked, World.perform_lock hapart.1 hapart.2 w a]

theorem Watching.kept {e : Effect} (h : Watching e) (w : World)
    (a : Answer e) : (w.perform e a).2 = w ∧
      Event.idle ⟨e, (w.perform e a).1⟩ = true := by
  cases e <;> first | exact h.elim | exact ⟨rfl, rfl⟩

theorem reconcileLock_unseen :
    Unseen (reconcileLock s) (host permitted) Watching World.Same where
  follows w v e r w' h hstep := by
    obtain ⟨hr, a, hallows, hanswer⟩ := hstep
    obtain ⟨hresult, hsame⟩ := h.answer e a
    refine ⟨(v.answer e a).2, ⟨hr, a, ?_, ?_⟩, ?_⟩
    · rw [h.state, World.allows_withLog]
      exact hallows
    · refine Prod.ext ?_ rfl
      rw [hresult, hanswer]
    · rwa [hanswer] at hsame
  apart e he := by
    refine ⟨fun heq => ?_, fun heq => ?_⟩ <;> subst heq <;> exact he
  watched w v e r w' he h hstep := by
    obtain ⟨a, -, -, rfl⟩ := host_refines.answered hstep
    obtain ⟨hkept, hidle⟩ := he.kept w a
    exact h.idle hidle hkept
  refused w v e r w' htakes hrefused h hstep := by
    obtain rfl : e = .acquireReconcileLock := htakes
    obtain ⟨a, -, rfl, rfl⟩ := host_refines.answered hstep
    have hlock : w.reconcileLock = true := by
      simpa [reconcileLock, World.perform] using hrefused
    refine h.idle ?_ ?_
    · simp [World.perform, Event.idle, hlock]
    · simp only [World.perform]
      rw [← hlock]

/-! ## Passes ask for the lock -/

theorem Local.apart {own : String → String → Prop} {d : String} {e : Effect}
    (h : Local s own d e) : (reconcileLock s).Apart e := by
  rcases h with hcall | hcall <;> cases e <;> first
    | exact hcall.elim
    | exact ⟨nofun, nofun⟩

def PassCall (s : Settings) (e : Effect) : Prop :=
  e = .snapshotRuntimeItems ∨ (∃ hotkey, e = .listLeases hotkey) ∨
    ∃ d, Local s anyContainer d e

theorem PassCall.apart {e : Effect} (h : PassCall s e) :
    (reconcileLock s).Apart e := by
  rcases h with rfl | ⟨hotkey, rfl⟩ | ⟨d, hlocal⟩
  · exact ⟨nofun, nofun⟩
  · exact ⟨nofun, nofun⟩
  · exact hlocal.apart

def RecoveryCall (s : Settings) (e : Effect) : Prop :=
  e = .snapshotRuntimeItems ∨ ∃ d, Local s anyContainer d e

theorem RecoveryCall.passCall {e : Effect} (h : RecoveryCall s e) :
    PassCall s e :=
  h.imp_right .inr

theorem snapshot_calls :
    Within (Typed s anyContainer) (RecoveryCall s) snapshotRuntimeItems
      fun runtimes => ∀ runtime ∈ runtimes,
        Belongs s anyContainer runtime.deploymentId runtime :=
  within_perform (.inl rfl) fun _ h => h

theorem reconcileOnceLocked_calls (hotkey : String) :
    Within (Typed s anyContainer) (PassCall s)
      (reconcileOnceLocked s hotkey) fun _ => True := by
  unfold reconcileOnceLocked
  refine within_bind (Q := fun _ => True) ?_ fun leases _ => ?_
  · unfold syncLeases
    refine within_bind (Q := fun _ => True) (within_attempt
      (within_perform (.inr (.inl ⟨_, rfl⟩)) fun _ _ => trivial)
      fun _ => trivial) fun r _ => ?_
    split
    · exact within_pure trivial
    · split
      · exact within_pure trivial
      · exact within_raise
  · refine within_bind (within_forEach fun lease _ =>
      Always.widen (handleLease_local rfl) fun _ h => .inr (.inr ⟨_, h⟩))
      fun _ _ => ?_
    refine within_bind (Always.widen snapshot_calls fun _ h => h.passCall)
      fun runtimes hruntimes => ?_
    exact within_forEach fun runtime hmem =>
      Always.widen (cleanUp_local (hruntimes runtime hmem) _ _)
        fun _ h => .inr (.inr ⟨_, h⟩)

theorem recoverRuntimeStateLocked_calls :
    Within (Typed s anyContainer) (RecoveryCall s)
      (recoverRuntimeStateLocked s) fun _ => True := by
  refine within_bind snapshot_calls fun runtimes hruntimes => ?_
  suffices h : ∀ resumed terminated, Within (Typed s anyContainer)
      (RecoveryCall s) (recoverLoop s resumed terminated runtimes)
      fun _ => True from h 0 0
  induction runtimes with
  | nil => exact fun _ _ => within_pure trivial
  | cons runtime rest ih =>
      have hrest := ih fun other hmem =>
        hruntimes other (List.mem_cons_of_mem _ hmem)
      intro resumed terminated
      unfold recoverLoop
      split
      · exact hrest _ _
      · refine within_bind (Always.widen
          (recoverRuntime_local (hruntimes runtime (by simp)))
          fun _ h => .inr ⟨_, h⟩) fun kept _ => ?_
        split
        · exact hrest _ _
        · exact hrest _ _

theorem asks_underReconcileLock {α : Type} {busy : α} {p : Agent α}
    (hp : Within (Typed s anyContainer) (reconcileLock s).Apart p
      fun _ => True) :
    (reconcileLock s).Asks (underReconcileLock busy p) := by
  refine ⟨rfl, fun r => ⟨fun hgranted => ?_, fun hrefused => ?_⟩⟩
  · cases r with
    | error x => exact hgranted.elim
    | ok acquired =>
        obtain rfl : acquired = true := hgranted
        refine TryLock.inside_attempt_bind _ hp.always fun result => .inl ?_
        refine ⟨rfl, fun released => ?_⟩
        cases released with
        | error x => exact ⟨_, rfl⟩
        | ok => cases result <;> exact ⟨_, rfl⟩
  · cases r with
    | error x => exact ⟨_, rfl⟩
    | ok acquired =>
        obtain rfl : acquired = false := Bool.eq_false_iff.mpr hrefused
        exact ⟨_, rfl⟩

theorem asks_reconcile (hotkey : String) :
    (reconcileLock s).Asks (Request.program s (.reconcile hotkey)) :=
  asks_underReconcileLock (Always.widen (reconcileOnceLocked_calls hotkey)
    fun _ h => h.apart)

theorem asks_recover :
    (reconcileLock s).Asks (Request.program s .recover) :=
  (asks_underReconcileLock (Always.widen recoverRuntimeStateLocked_calls
    fun _ h => h.passCall.apart)).bind_done _ fun _ => ⟨_, rfl⟩

/-! ## Threads -/

inductive Thread (s : Settings) where
  | reconcile (hotkey : String)
  | recover
  | watch (p : Agent Unit)
      (watches : Always (Typed s anyContainer) Watching p fun _ => True)

def CapacityCall : Effect → Prop
  | .snapshotRuntimeItems | .allocatedDevices | .probe .busyGpuDevices => True
  | _ => False

theorem CapacityCall.watching {e : Effect} (h : CapacityCall e) :
    Watching e := by
  cases e <;> first | exact h.elim | trivial

theorem buildCapacityUpdate_calls :
    Within (Typed s anyContainer) CapacityCall (buildCapacityUpdate s)
      fun _ => True := by
  refine within_bind (Q := fun _ => True)
    (within_perform trivial fun _ _ => trivial) fun runtimes _ => ?_
  refine within_bind (Q := fun _ => True) ?_ fun _ _ => within_pure trivial
  refine within_bind (Q := fun _ => True) (within_attempt ?_ fun _ => trivial)
    fun foreign _ => ?_
  · refine within_bind (Q := fun _ => True)
      (within_perform trivial fun _ _ => trivial) fun busy _ => ?_
    exact within_bind (Q := fun _ => True)
      (within_perform trivial fun _ _ => trivial)
      fun _ _ => within_pure trivial
  · split <;> exact within_pure trivial

/-- The heartbeat's reading of the records and of the allocator. -/
def Thread.heartbeat : Thread s :=
  .watch ((buildCapacityUpdate s).bind fun _ => .done (.ok ()))
    (Always.widen (Within.always (within_bind buildCapacityUpdate_calls
      fun _ _ => within_pure (Q := fun _ => True) trivial))
      fun _ h => h.watching)

namespace Thread

def program : Thread s → Agent Unit
  | .reconcile hotkey => Request.program s (.reconcile hotkey)
  | .recover => Request.program s .recover
  | .watch p _ => p

theorem request_of_asks (thread : Thread s)
    (h : (reconcileLock s).Asks thread.program) :
    ∃ request, thread.program = Request.program s request := by
  cases thread with
  | reconcile hotkey => exact ⟨.reconcile hotkey, rfl⟩
  | recover => exact ⟨.recover, rfl⟩
  | watch p watches =>
      cases p with
      | done r => exact h.elim
      | call e next =>
          obtain rfl : e = .acquireReconcileLock := h.1
          exact watches.1.elim

theorem asks_or_watches (thread : Thread s) :
    (reconcileLock s).Asks thread.program ∨
      Always (Typed s anyContainer) Watching thread.program fun _ => True := by
  cases thread with
  | reconcile hotkey => exact .inl (asks_reconcile hotkey)
  | recover => exact .inl asks_recover
  | watch p watches => exact .inr watches

end Thread

/-- What the threads of a process have made of a world, call by call. -/
def ThreadsReach (M : Machine Effect Effect.Ret Exn World)
    (threads : Nat → Thread s) (w : World) (pool : Nat → Agent Unit)
    (w' : World) : Prop :=
  Interleaves (fun _ => M) (fun i => (threads i).program) w pool w'

/-- The given threads have been served one after the other, each alone. -/
def Served (M : Machine Effect Effect.Ret Exn World)
    (threads : Nat → Thread s) (pool : Nat → Agent Unit) (w : World)
    (order : List Nat) (w' : World) : Prop :=
  OneByOne (reconcileLock s) M (fun i => (threads i).program) pool w order w'

/-- As it is after the threads in `order`, and in the middle of one more at most. -/
def SerialSince (M : Machine Effect Effect.Ret Exn World)
    (threads : Nat → Thread s) (pool : Nat → Agent Unit) (w : World)
    (order : List Nat) (v : World) : Prop :=
  SerialUpTo (reconcileLock s) M Locked Watching World.Same
    (fun i => (threads i).program) pool w order v

variable {threads : Nat → Thread s} {pool : Nat → Agent Unit}

theorem threadsReach_serial
    (hrun : ThreadsReach (host permitted) threads w pool w')
    (hfree : ¬Locked w) (h : World.Same w v) :
    ∃ order v', Served (host permitted) threads pool v order v' ∧
      SerialSince (host permitted) threads pool w' order v' :=
  interleaves_serial reconcileLock_locked reconcileLock_unseen hfree h
    (fun i => (threads i).asks_or_watches) hrun

theorem Served.keeps {M : Machine Effect Effect.Ret Exn World}
    {P : World → Prop} {order : List Nat}
    (h : Served M threads pool v order v')
    (hserve : ∀ v request r v', P v → Exec M (Request.program s request) v r v' →
      P v') (start : P v) : P v' := by
  induction h with
  | nil => exact start
  | next before new asks alone ended ih =>
      obtain ⟨request, hrequest⟩ := (threads _).request_of_asks asks
      rw [hrequest] at alone
      exact hserve _ _ _ _ ih alone

/-! ## Processes with threads -/

/--
The states in which a process starts.  Its threads are all that it will ever
run, and it may die between any two calls in one of the given states.
-/
inductive ThreadedRun (s : Settings) (M : Machine Effect Effect.Ret Exn World)
    (dies : World → Prop) : World → Prop
  | boot : ThreadedRun s M dies (.init s)
  | restart {w w' : World} {pool : Nat → Agent Unit}
      (before : ThreadedRun s M dies w) (threads : Nat → Thread s)
      (run : ThreadsReach M threads w pool w') (hdies : dies w') :
      ThreadedRun s M dies (w'.restart s)

variable {dies : World → Prop}

theorem ThreadedRun.unlocked {M : Machine Effect Effect.Ret Exn World}
    (h : ThreadedRun s M dies w) : ¬Locked w := by
  cases h <;> exact nofun

theorem ThreadedRun.serial {P : World → Prop}
    (h : ThreadedRun s (host permitted) dies w) (hboot : P (.init s))
    (hserve : ∀ v request r v', P v →
      Exec (host permitted) (Request.program s request) v r v' → P v')
    (hidle : ∀ v, P v → P (v.restart s))
    (hcrash : ∀ w' v request rest v', P v → dies w' → Locked w' →
      Reaches (host permitted) (Request.program s request) v rest v' →
      P (v'.restart s)) :
    ∃ v, P v ∧ World.Same w v := by
  induction h with
  | boot => exact ⟨_, hboot, .refl _⟩
  | @restart w w' pool before threads run hdies ih =>
      obtain ⟨v, hv, hsame⟩ := ih
      obtain ⟨order, v', hserved, hnow⟩ :=
        threadsReach_serial run before.unlocked hsame
      have hv' := hserved.keeps hserve hv
      rcases hnow with
        ⟨-, hsame', -⟩ | ⟨i, v'', hlocked, -, hasks, -, hreaches, hsame', -⟩
      · exact ⟨_, hidle v' hv', hsame'.restart⟩
      · obtain ⟨request, hrequest⟩ := (threads i).request_of_asks hasks
        simp only [hrequest] at hreaches
        exact ⟨_, hcrash w' v' request _ v'' hv' hdies hlocked hreaches,
          hsame'.restart⟩

/--
Whatever passes, recoveries and readers run at once, and wherever the agent
has died before: a run that serves one request at a time has made the world
what it is, but for what the one thread inside has still to do.  Every other
thread is waiting, was served in its turn, was refused, or only reads.
-/
theorem threads_serial
    (h : ThreadedRun s (host permitted) (fun _ => True) w)
    (hrun : ThreadsReach (host permitted) threads w pool w') :
    ∃ v order v', CrashRun s (host permitted) v ∧ World.Same w v ∧
      Served (host permitted) threads pool v order v' ∧
      CrashRun s (host permitted) v' ∧
      SerialSince (host permitted) threads pool w' order v' := by
  obtain ⟨v, hv, hsame⟩ := h.serial .boot
    (fun v request r v' hv hexec => CrashRun.serve hv request hexec)
    (fun v hv => .crash hv .recover (.refl _ _))
    (fun w' v request rest v' hv _ _ hreaches => .crash hv request hreaches)
  obtain ⟨order, v', hserved, hnow⟩ :=
    threadsReach_serial hrun h.unlocked hsame
  exact ⟨v, order, v', hv, hsame, hserved, hserved.keeps
    (fun v request r v' hv hexec => CrashRun.serve hv request hexec) hv, hnow⟩

/-! ## A refused recovery -/

def hostAnswer (env : Environment) (_thread : Nat) (w : World) (e : Effect) :
    Option (Except Exn e.Ret × World) :=
  if w.allows e (env w e) then some (w.answer e (env w e)) else none

theorem hostAnswer_step {env : Environment} (henv : env.Respects permitted)
    (i : Nat) (w : World) (e : Effect) (r : Except Exn e.Ret) (w' : World)
    (h : hostAnswer env i w e = some (r, w')) :
    (host permitted).Step w e r w' := by
  rw [hostAnswer, Option.ite_none_right_eq_some, Option.some.injEq] at h
  refine ⟨?_, env w e, h.1, h.2⟩
  have hr : (w.answer e (env w e)).1 = r := congrArg Prod.fst h.2
  exact hr ▸ henv w e

def passAndRecovery : Nat → Thread {}
  | 0 => .reconcile "hotkey"
  | 1 => .recover
  | _ => .heartbeat

/--
The pass asks first; the recovery is refused, and the heartbeat looks at the
records before the pass goes on.
-/
def passThenRefused : (Nat → Agent Unit) × World :=
  takeTurns (hostAnswer (podHost [leaseOn "pod-1"]))
    (0 :: 1 :: 2 :: List.replicate 40 0)
    (fun i => (passAndRecovery i).program) (.init {})

theorem passThenRefused_reach :
    ThreadsReach (host ownErrors) passAndRecovery (.init {})
      passThenRefused.1 passThenRefused.2 :=
  takeTurns_interleaves (hostAnswer_step (podHost_ownErrors _)) _ _ _

/-- The pod that the pass has started beside the refused recovery. -/
theorem threads_serial_passThenRefused :
    ∃ v order v', CrashRun {} (host ownErrors) v ∧ World.Same (.init {}) v ∧
      Served (host ownErrors) passAndRecovery passThenRefused.1 v order v' ∧
      CrashRun {} (host ownErrors) v' ∧
      SerialSince (host ownErrors) passAndRecovery passThenRefused.1
        passThenRefused.2 order v' :=
  threads_serial .boot passThenRefused_reach

/-! ## Devices -/

theorem World.Same.ledger_eq (h : World.Same w v) (d : String) :
    v.runtimes.get? d = w.runtimes.get? d ∧
      v.allocator.getAllocation d = w.allocator.getAllocation d := by
  rw [h.state]
  exact ⟨rfl, rfl⟩

/--
Whenever no pass is under way, however many have been running at once, the
allocator holds for each runtime in service exactly its devices and for a
deployment that is settled or unknown none; no two in service share a device.
-/
theorem threads_devices
    (h : ThreadedRun s (host ownErrors) (fun w => ¬Locked w) w)
    (hrun : ThreadsReach (host ownErrors) threads w pool w')
    (hfree : ¬Locked w') :
    (∀ d runtime, w'.runtimes.get? d = some runtime → InService runtime →
      w'.allocator.getAllocation d = (originalDevices runtime).toFinset) ∧
    (∀ d, (∀ runtime, w'.runtimes.get? d = some runtime →
        runtime.status = .suspended ∨ runtime.status = .failed ∨
          runtime.status = .terminated) →
      w'.allocator.getAllocation d = ∅) ∧
    (∀ d b runtime other, d ≠ b → w'.runtimes.get? d = some runtime →
      w'.runtimes.get? b = some other → InService runtime → InService other →
      Disjoint (originalDevices runtime).toFinset
        (originalDevices other).toFinset) := by
  have hserve : ∀ v request r v', NodeRun s (host ownErrors) v →
      Exec (host ownErrors) (Request.program s request) v r v' →
      NodeRun s (host ownErrors) v' :=
    fun v request r v' hv hexec => .serve hv request hexec
  obtain ⟨v, hv, hsame⟩ := h.serial .boot hserve
    (fun v hv => .restart hv)
    (fun w' v request rest v' _ hfree hlocked _ => absurd hlocked hfree)
  obtain ⟨order, v', hserved, hnow⟩ :=
    threadsReach_serial hrun h.unlocked hsame
  rcases hnow with ⟨-, hsame', -⟩ | ⟨i, v'', hlocked, -⟩
  · obtain ⟨hheld, hsettled, hdisjoint⟩ :=
      run_devices (hserved.keeps hserve hv)
    have heq := hsame'.ledger_eq
    simp only [(heq _).1, (heq _).2] at hheld hsettled hdisjoint
    exact ⟨hheld, hsettled, hdisjoint⟩
  · exact absurd hlocked hfree

theorem threads_devices_passThenRefused : ∃ runtime,
    passThenRefused.2.runtimes.get? "pod-1" = some runtime ∧
      runtime.status = .ready ∧ originalDevices runtime = [0] ∧
      passThenRefused.2.allocator.getAllocation "pod-1" =
        (originalDevices runtime).toFinset :=
  ⟨_, rfl, rfl, rfl, (threads_devices .boot passThenRefused_reach nofun).1 _ _
    rfl (.inr rfl)⟩

/-! ## The terminate route beside passes -/

theorem terminate_apart (d : String) :
    Always (Typed s anyContainer) (reconcileLock s).Apart
      (Request.program s (.terminate d)) fun _ => True :=
  Within.always (Q := fun _ => True) (within_bind
    (Always.widen (terminateDeployment_local d rfl) fun _ h => h.apart)
    fun _ _ => within_pure trivial)

theorem request_outside (request : Request) :
    (reconcileLock s).Outside (Request.program s request) := by
  cases request with
  | reconcile hotkey => exact .inl (asks_reconcile hotkey)
  | recover => exact .inl asks_recover
  | terminate d => exact .inr (terminate_apart d)

/--
Of all requests that run at once one pass or recovery at most is under way, and
the lock is taken exactly as long as it is: none keeps the lock when it ends.
-/
theorem requests_exclusive {requests : Nat → Request} (hfree : ¬Locked w)
    (hrun : Interleaves (fun _ => host permitted)
      (fun i => (requests i).program s) w pool w') :
    ∃ holder, Exclusive (reconcileLock s) Locked pool w' holder := by
  have hnone : Exclusive (reconcileLock s) Locked
      (fun i => (requests i).program s) w none :=
    ⟨by simpa using hfree, fun i hi => (nomatch hi),
      fun i _ => request_outside (requests i)⟩
  exact hnone.interleaves reconcileLock_locked hrun

def passAndTerminate : Nat → Request
  | 0 => .reconcile "hotkey"
  | _ => .terminate "pod-1"

/-- The pass has the lock, and the route has looked up the record. -/
def passUnderWay : (Nat → Agent Unit) × World :=
  takeTurns (hostAnswer (podHost [leaseOn "pod-1"])) [0, 0, 1]
    (fun i => (passAndTerminate i).program {}) (.init {})

theorem requests_exclusive_passUnderWay : Locked passUnderWay.2 ∧
    ∃ holder, Exclusive (reconcileLock {}) Locked passUnderWay.1
      passUnderWay.2 holder :=
  ⟨rfl, requests_exclusive (show ¬Locked (.init {}) from nofun)
    (takeTurns_interleaves (hostAnswer_step (podHost_ownErrors _)) _ _ _)⟩

end NodeAgent
