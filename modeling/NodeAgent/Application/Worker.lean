import NodeAgent.Application.Serial
import NodeAgent.Foundation.Discipline

/-!
# The loops of the process

The worker loop registers the miner and recovers its runtimes before it makes
its first pass, and tries again after a failure.  The heartbeat loop runs beside
it, and the routes beside both.  All of them see the worker state, which is a
plain dictionary.
-/

namespace NodeAgent

open Effectful Program Agent

structure MinerSettings extends Settings where
  bootstrapMiner : Bool := false
  minerHotkey : String := "node-local"
  minerPayoutAddress : String := "5FnodeLocal"
  minerAuthSecret : String := "greencompute-node-local-secret"
  minerValidatorUrl : String := "http://127.0.0.1:8002"
  supportedWorkloadKinds : List String := ["inference", "pod", "vm"]

structure MinerRegistration where
  hotkey : String
  payoutAddress : String
  authSecret : String
  apiBaseUrl : String
  validatorUrl : String
  supportedWorkloadKinds : List WorkloadKind
  deriving DecidableEq

structure Heartbeat where
  hotkey : String
  healthy : Bool
  deriving DecidableEq

/-- An entry of `_worker_state` and its value; the time of a stamp is left out. -/
inductive WorkerEntry where
  | running
  | lastIteration
  | lastRecoveryAt
  | resumedRuntimes (count : Nat)
  | terminatedStaleRuntimes (count : Nat)
  | bootstrapped
  deriving DecidableEq, Repr

structure WorkerState where
  running : Bool := false
  /-- It is not `None`. -/
  lastIteration : Bool := false
  bootstrapped : Bool := false
  /-- It is not `None`. -/
  lastRecoveryAt : Bool := false
  resumedRuntimes : Nat := 0
  terminatedStaleRuntimes : Nat := 0
  deriving DecidableEq, Repr

def WorkerState.put (state : WorkerState) : WorkerEntry → WorkerState
  | .running => { state with running := true }
  | .lastIteration => { state with lastIteration := true }
  | .lastRecoveryAt => { state with lastRecoveryAt := true }
  | .resumedRuntimes count => { state with resumedRuntimes := count }
  | .terminatedStaleRuntimes count =>
      { state with terminatedStaleRuntimes := count }
  | .bootstrapped => { state with bootstrapped := true }

/-- What a thread of the process does in one step. -/
inductive LoopCall where
  | agent (e : Effect)
  | registerMiner (registration : MinerRegistration)
  | recordHeartbeat (heartbeat : Heartbeat)
  | updateCapacity (update : CapacityUpdate)
  /-- `_worker_state["bootstrapped"]`. -/
  | bootstrapped
  /-- `_worker_state[...] = ...`. -/
  | put (entry : WorkerEntry)

abbrev LoopCall.Ret : LoopCall → Type
  | .agent e => e.Ret
  | .bootstrapped => Bool
  | .registerMiner _ | .recordHeartbeat _ | .updateCapacity _ | .put _ => Unit

abbrev Loop := Program LoopCall LoopCall.Ret Exn

namespace Loop

def ofAgent {α : Type} : Agent α → Loop α
  | .done r => .done r
  | .call e next => .call (.agent e) fun r => ofAgent (next r)

abbrev registerMiner (registration : MinerRegistration) : Loop Unit :=
  perform (LoopCall.registerMiner registration)

abbrev recordHeartbeat (heartbeat : Heartbeat) : Loop Unit :=
  perform (LoopCall.recordHeartbeat heartbeat)

abbrev updateCapacity (update : CapacityUpdate) : Loop Unit :=
  perform (LoopCall.updateCapacity update)

abbrev isBootstrapped : Loop Bool := perform LoopCall.bootstrapped

abbrev put (entry : WorkerEntry) : Loop Unit := perform (LoopCall.put entry)

end Loop

open Loop

/-- `WorkloadKind(token)` is a parameter; `none` is its `ValueError`. -/
def supportedKinds (workloadKind : String → Option WorkloadKind)
    (s : MinerSettings) : List WorkloadKind :=
  let kinds := s.supportedWorkloadKinds.filterMap fun raw =>
    let token := lower (strip raw)
    if token = "" then none else workloadKind token
  if kinds = [] then [.inference] else kinds

section Loops

variable (workloadKind : String → Option WorkloadKind) (s : MinerSettings)

def registration : MinerRegistration where
  hotkey := s.minerHotkey
  payoutAddress := s.minerPayoutAddress
  authSecret := s.minerAuthSecret
  apiBaseUrl := s.minerApiBaseUrl
  validatorUrl := s.minerValidatorUrl
  supportedWorkloadKinds := supportedKinds workloadKind s

/-- A refused recovery answers without the keys that are read here. -/
def bootstrap : Loop Unit := do
  registerMiner (registration workloadKind s)
  recordHeartbeat ⟨s.minerHotkey, true⟩
  let capacity ← ofAgent (buildCapacityUpdate s.toSettings)
  updateCapacity capacity
  match ← ofAgent (recoverRuntimeState s.toSettings) with
  | .busy => raise (.unexpected "KeyError: 'last_recovery_at'")
  | .recovered resumed terminated => do
      put .lastRecoveryAt
      put (.resumedRuntimes resumed)
      put (.terminatedStaleRuntimes terminated)
      put .bootstrapped

def heartbeatTick : Loop Unit := do
  recordHeartbeat ⟨s.minerHotkey, true⟩
  let capacity ← ofAgent (buildCapacityUpdate s.toSettings)
  updateCapacity capacity

def reconcileTick : Loop Unit := do
  ofAgent (reconcileOnce s.toSettings s.minerHotkey)
  put .lastIteration

/-- One round of `_heartbeat_loop`, up to its sleep. -/
def heartbeatRound : Loop Unit :=
  ignoring (fun _ => true) (onlyIf s.bootstrapMiner (do
    let bootstrapped ← isBootstrapped
    onlyIf bootstrapped (heartbeatTick s)))

/-- One round of `_worker_loop`, up to its sleep. -/
def workerRound : Loop Unit :=
  ignoring (fun _ => true) (onlyIf s.bootstrapMiner (do
    let bootstrapped ← isBootstrapped
    onlyIf (!bootstrapped) (bootstrap workloadKind s)
    reconcileTick s))

def heartbeatLoop (rounds : Nat) : Loop Unit :=
  forEach (fun _ => heartbeatRound s) (List.replicate rounds ())

def workerLoop (rounds : Nat) : Loop Unit := do
  put .running
  forEach (fun _ => workerRound workloadKind s) (List.replicate rounds ())

end Loops

inductive Route where
  | register (payload : MinerRegistration)
  | publishHeartbeat (payload : Heartbeat)
  | publishCapacity (payload : CapacityUpdate)
  | listLeases (hotkey : String)
  | serve (request : Request)
  | readyz

def Route.program (s : MinerSettings) : Route → Loop Unit
  | .register payload => registerMiner payload
  | .publishHeartbeat payload => recordHeartbeat payload
  | .publishCapacity payload => updateCapacity payload
  | .listLeases hotkey => ofAgent (do let _ ← syncLeases hotkey)
  | .serve request => ofAgent (request.program s.toSettings)
  | .readyz => do
      onlyIf s.bootstrapMiner (do let _ ← isBootstrapped)
      ofAgent (do let _ ← snapshotRuntimeItems)

/-- The threads of the process. -/
inductive Who where
  | worker
  | heartbeat
  | route (n : Nat)
  deriving DecidableEq, Repr

/-- How long the loops run and which requests arrive. -/
structure Lifespan where
  workerRounds : Nat
  heartbeatRounds : Nat
  routes : Nat → Route

def Lifespan.pool (span : Lifespan)
    (workloadKind : String → Option WorkloadKind) (s : MinerSettings) :
    Who → Loop Unit
  | .worker => workerLoop workloadKind s span.workerRounds
  | .heartbeat => heartbeatLoop s span.heartbeatRounds
  | .route n => (span.routes n).program s

/-! ## The process -/

abbrev LoopEvent := (c : LoopCall) × Except Exn c.Ret

structure Process where
  world : World
  state : WorkerState
  sent : List (Who × LoopEvent)

namespace Process

def start (w : World) : Process := ⟨w, {}, []⟩

def sentBy (p : Process) (who : Who) : List LoopEvent :=
  (p.sent.filter (·.1 = who)).map (·.2)

/-- The control plane may answer the calls of the loops as it likes. -/
def Moves (permitted : Permitted) (p : Process) (p' : Process) :
    (c : LoopCall) → Except Exn c.Ret → Prop
  | .agent e, r => (host permitted).Step p.world e r p'.world ∧
      p'.state = p.state
  | .bootstrapped, r => r = .ok p.state.bootstrapped ∧
      p'.world = p.world ∧ p'.state = p.state
  | .put entry, r => r = .ok () ∧
      p'.world = p.world ∧ p'.state = p.state.put entry
  | .registerMiner _, _ | .recordHeartbeat _, _ | .updateCapacity _, _ =>
      p'.world = p.world ∧ p'.state = p.state

end Process

def processHost (permitted : Permitted) (who : Who) :
    Machine LoopCall LoopCall.Ret Exn Process where
  Step p c r p' := p.Moves permitted p' c r ∧
    p'.sent = p.sent ++ [(who, ⟨c, r⟩)]

variable {permitted : Permitted} {p p' : Process} {who : Who}

theorem Process.sentBy_snoc {event : LoopEvent}
    (h : p'.sent = p.sent ++ [(who, event)]) (other : Who) :
    p'.sentBy other =
      if who = other then p.sentBy other ++ [event] else p.sentBy other := by
  unfold Process.sentBy
  rw [h, List.filter_append]
  by_cases hwho : who = other <;> simp [hwho]

/-! ## The stages of the worker -/

inductive Stage where
  | down
  | asked
  | registered
  | beating
  | advertised
  | recovering
  | recovered
  | stamped
  | up
  deriving DecidableEq, Repr

namespace Stage

/-- A bootstrap that raises leaves the worker where it asks for the flag. -/
def after : Stage → (c : LoopCall) → Except Exn c.Ret → Option Stage
  | .down, .put .running, _ => some .down
  | .up, .bootstrapped, .ok true => some .up
  | .up, .agent _, _ => some .up
  | .up, .put .lastIteration, _ => some .up
  | .up, _, _ => none
  | _, .bootstrapped, .ok false => some .asked
  | .asked, .registerMiner _, .ok _ => some .registered
  | .registered, .recordHeartbeat _, .ok _ => some .beating
  | .beating, .agent .snapshotRuntimeItems, _ => some .beating
  | .beating, .agent .allocatedDevices, _ => some .beating
  | .beating, .agent (.probe .busyGpuDevices), _ => some .beating
  | .beating, .updateCapacity _, .ok _ => some .advertised
  | .advertised, .agent .acquireReconcileLock, .ok true => some .recovering
  | .advertised, .agent .acquireReconcileLock, _ => some .down
  | .recovering, .agent .releaseReconcileLock, _ => some .recovered
  | .recovering, .agent .acquireReconcileLock, _ => none
  | .recovering, .agent (.listLeases _), _ => none
  | .recovering, .agent _, _ => some .recovering
  | .recovered, .put .lastRecoveryAt, .ok _ => some .stamped
  | .stamped, .put (.resumedRuntimes _), _ => some .stamped
  | .stamped, .put (.terminatedStaleRuntimes _), _ => some .stamped
  | .stamped, .put .bootstrapped, .ok _ => some .up
  | .asked, .registerMiner _, .error _ => some .down
  | .registered, .recordHeartbeat _, .error _ => some .down
  | .beating, .updateCapacity _, .error _ => some .down
  | _, _, _ => none

end Stage

/-- The worker's conversation; only the worker itself sets the flag it reads. -/
def workerDiscipline (s : Settings) :
    Discipline LoopCall LoopCall.Ret Exn Stage where
  answers stage
    | .agent e, r => Typed s anyContainer e r
    | .bootstrapped, r => r = .ok (decide (stage = .up))
    | .put _, r => r = .ok ()
    | .registerMiner _, _ | .recordHeartbeat _, _ | .updateCapacity _, _ => True
  after := Stage.after

section Follows

variable {s : Settings} {stage : Stage} {α β : Type}

theorem ofAgent_bind (p : Agent α) (f : α → Agent β) :
    ofAgent (p >>= f) = ofAgent p >>= fun a => ofAgent (f a) := by
  induction p with
  | done r => cases r <;> rfl
  | call e next ih => exact congrArg (Program.call _) (funext ih)

theorem ofAgent_follows {p : Agent α} {calls : Effect → Prop}
    {ends : Except Exn α → Prop} {post : Except Exn α → Stage → Prop}
    (hp : Always (Typed s anyContainer) calls p ends)
    (hstage : ∀ e r, calls e → stage.after (.agent e) r = some stage)
    (hends : ∀ r, ends r → post r stage) :
    (workerDiscipline s).Follows (ofAgent p) stage post := by
  induction p with
  | done r => exact hends r hp
  | call e next ih =>
      exact Discipline.follows_call fun r hr =>
        ⟨stage, hstage e r hp.1, ih r (hp.2 r () hr)⟩

theorem capacity_follows {post : Except Exn CapacityUpdate → Stage → Prop}
    (h : ∀ r, post r .beating) :
    (workerDiscipline s).Follows (ofAgent (buildCapacityUpdate s)) .beating
      post := by
  refine ofAgent_follows buildCapacityUpdate_calls (fun e r he => ?_)
    fun r _ => h r
  cases e <;> first
    | exact he.elim
    | rfl
    | rename_i probe
      cases probe <;> first | exact he.elim | rfl

theorem recoveryCall_stays {e : Effect} (h : RecoveryCall s e)
    (r : Except Exn e.Ret) :
    Stage.recovering.after (.agent e) r = some .recovering := by
  obtain ⟨hacquire, hrelease⟩ := h.passCall.apart
  rcases h with rfl | ⟨d, hlocal⟩
  · rfl
  · rcases hlocal with hcall | hcall <;> cases e <;>
      first | exact hcall.elim | rfl

theorem recover_follows :
    (workerDiscipline s).Follows (ofAgent (recoverRuntimeState s)) .advertised
      fun r stage => ∀ resumed terminated,
        r = .ok (.recovered resumed terminated) → stage = .recovered := by
  refine Discipline.follows_call fun r _ => ?_
  match r with
  | .error x => exact ⟨.down, rfl, nofun⟩
  | .ok false =>
      exact ⟨.down, rfl, fun resumed terminated h => nomatch h⟩
  | .ok true =>
      refine ⟨.recovering, rfl, ?_⟩
      have hlocked := Within.attempt (recoverRuntimeStateLocked_calls (s := s))
      change Discipline.Follows _
        (ofAgent (attempt (recoverRuntimeStateLocked s) >>= _)) _ _
      rw [ofAgent_bind]
      refine Sat.bind (m := fun _ stage => stage = .recovering)
        (ofAgent_follows hlocked (fun e r he => recoveryCall_stays he r)
          fun _ _ => rfl) ?_ ?_
      · rintro result _ rfl
        refine Discipline.follows_call fun r hr => ⟨.recovered, rfl, ?_⟩
        cases r with
        | error x => exact nofun
        | ok => cases result <;> exact fun _ _ _ => rfl
      · exact fun _ _ _ _ _ => nofun

end Follows

section Loops

variable {workloadKind : String → Option WorkloadKind} {s : MinerSettings}

theorem bootstrap_follows :
    (workerDiscipline s.toSettings).Follows (bootstrap workloadKind s) .asked
      fun r stage => r = .ok () → stage = .up := by
  refine Discipline.follows_perform_bind (fun _ _ => ⟨.registered, rfl, ?_⟩)
    fun _ _ => ⟨.down, rfl, nofun⟩
  refine Discipline.follows_perform_bind (fun _ _ => ⟨.beating, rfl, ?_⟩)
    fun _ _ => ⟨.down, rfl, nofun⟩
  refine Sat.bind (m := fun _ stage => stage = .beating)
    (capacity_follows fun _ => rfl) ?_ fun _ _ _ => nofun
  rintro capacity _ rfl
  refine Discipline.follows_perform_bind (fun _ _ => ⟨.advertised, rfl, ?_⟩)
    fun _ _ => ⟨.down, rfl, nofun⟩
  refine Sat.bind recover_follows ?_ fun _ _ _ => nofun
  rintro (_ | ⟨resumed, terminated⟩) stage hstage
  · exact nofun
  · obtain rfl := hstage resumed terminated rfl
    refine Discipline.follows_perform_bind (fun _ _ => ⟨.stamped, rfl, ?_⟩) nofun
    refine Discipline.follows_perform_bind (fun _ _ => ⟨.stamped, rfl, ?_⟩) nofun
    refine Discipline.follows_perform_bind (fun _ _ => ⟨.stamped, rfl, ?_⟩) nofun
    refine Discipline.follows_perform fun r hr => ?_
    obtain rfl : r = .ok () := hr
    exact ⟨.up, rfl, fun _ => rfl⟩

theorem reconcileTick_follows :
    (workerDiscipline s.toSettings).Follows (reconcileTick s) .up
      fun _ _ => True := by
  have hany := sat_of_invariant (M := oracle (Typed s.toSettings anyContainer))
    (I := fun _ => True) (fun _ _ _ _ _ _ => trivial)
    (reconcileOnce s.toSettings s.minerHotkey) (s := ()) trivial
  refine Sat.andThen (m := fun _ stage => stage = .up)
    (ofAgent_follows hany (fun _ _ _ => rfl)
      fun _ _ => rfl) (fun _ _ => trivial) ?_
  rintro _ _ rfl
  exact Discipline.follows_perform fun _ _ => ⟨.up, rfl, trivial⟩

theorem workerRound_follows (stage : Stage) :
    (workerDiscipline s.toSettings).Follows (workerRound workloadKind s) stage
      fun _ _ => True := by
  suffices h : (workerDiscipline s.toSettings).Follows (do
      let bootstrapped ← isBootstrapped
      onlyIf (!bootstrapped) (bootstrap workloadKind s)
      reconcileTick s) stage fun _ _ => True by
    refine sat_ignoring.mpr (sat_onlyIf.mpr ?_)
    split
    · exact Sat.weaken h fun r _ _ => by cases r <;> trivial
    · trivial
  refine Discipline.follows_perform_bind (fun bootstrapped hanswer => ?_) nofun
  obtain rfl : bootstrapped = decide (stage = .up) := Except.ok.inj hanswer
  by_cases hup : stage = .up
  · subst hup
    exact ⟨.up, rfl, reconcileTick_follows⟩
  · rw [decide_eq_false hup]
    refine ⟨.asked, ?_, Sat.andThen bootstrap_follows (fun _ _ => trivial)
      fun _ stage hstage => ?_⟩
    · cases stage <;> first | exact absurd rfl hup | rfl
    · obtain rfl := hstage rfl
      exact reconcileTick_follows

theorem workerLoop_follows (rounds : Nat) :
    (workerDiscipline s.toSettings).Follows
      (workerLoop workloadKind s rounds) .down fun _ _ => True := by
  have hrounds : (workerDiscipline s.toSettings).Follows
      (forEach (fun _ => workerRound workloadKind s)
        (List.replicate rounds ())) .down fun _ _ => True :=
    sat_forEach (fun _ _ stage _ => workerRound_follows stage) trivial
  exact Discipline.follows_perform_bind (fun _ _ => ⟨.down, rfl, hrounds⟩)
    nofun

end Loops

/-! ## What the worker has behind it -/

/-- What the control plane and the lock grant to a bootstrap that succeeds. -/
def bootstrapGrants (registration : MinerRegistration) (heartbeat : Heartbeat)
    (update : CapacityUpdate) : List LoopEvent :=
  [⟨.registerMiner registration, .ok ()⟩, ⟨.recordHeartbeat heartbeat, .ok ()⟩,
    ⟨.updateCapacity update, .ok ()⟩, ⟨.agent .acquireReconcileLock, .ok true⟩,
    ⟨.put .lastRecoveryAt, .ok ()⟩, ⟨.put .bootstrapped, .ok ()⟩]

/-- How many of them a stage has behind it. -/
def Stage.granted : Stage → Nat
  | .down | .asked => 0
  | .registered => 1
  | .beating => 2
  | .advertised => 3
  | .recovering | .recovered => 4
  | .stamped => 5
  | .up => 6

def Stage.Behind (stage : Stage) (said : List LoopEvent) : Prop :=
  ∃ registration heartbeat update,
    ((bootstrapGrants registration heartbeat update).take stage.granted).Sublist
      said

theorem Stage.Behind.fewer {stage stage' : Stage} {said : List LoopEvent}
    (h : stage.Behind said) (hle : stage'.granted ≤ stage.granted)
    (event : LoopEvent) : stage'.Behind (said ++ [event]) := by
  obtain ⟨registration, heartbeat, update, hsub⟩ := h
  exact ⟨registration, heartbeat, update,
    ((List.take_sublist_take_left hle).trans hsub).trans
      (List.sublist_append_left _ _)⟩

theorem Stage.Behind.after {stage stage' : Stage} {said : List LoopEvent}
    {c : LoopCall} {r : Except Exn c.Ret} (h : stage.Behind said)
    (hafter : stage.after c r = some stage') :
    stage'.Behind (said ++ [⟨c, r⟩]) := by
  unfold Stage.after at hafter
  split at hafter <;> cases hafter
  all_goals first
    | exact h.fewer (by first | decide | exact Nat.zero_le _) _
    | -- the grants that carry a payload, then those that carry none
      rename_i payload _
      obtain ⟨registration, heartbeat, update, hsub⟩ := h
      first
        | exact ⟨payload, heartbeat, update, hsub.append (.refl _)⟩
        | exact ⟨registration, payload, update, hsub.append (.refl _)⟩
        | exact ⟨registration, heartbeat, payload, hsub.append (.refl _)⟩
        | exact ⟨registration, heartbeat, update, hsub.append (.refl _)⟩

theorem worker_behind {s : Settings} {stage : Stage} {said : List LoopEvent}
    (h : (workerDiscipline s).run .down said = some stage) :
    stage.Behind said := by
  induction said using List.reverseRecOn generalizing stage with
  | nil =>
      obtain rfl : Stage.down = stage := Option.some.inj h
      exact ⟨⟨"", "", "", "", "", []⟩, ⟨"", true⟩, ⟨⟨"", 0, 0⟩, ∅⟩, .refl _⟩
  | append_singleton said event ih =>
      rw [Discipline.run_snoc, Option.bind_eq_some_iff] at h
      obtain ⟨before, hbefore, hafter⟩ := h
      exact (ih hbefore).after hafter

theorem worker_leases {s : Settings} {stage : Stage} {said : List LoopEvent}
    (h : (workerDiscipline s).run .down said = some stage) (hup : stage ≠ .up)
    (hotkey : String) : ∀ event ∈ said, event.1 ≠ .agent (.listLeases hotkey) := by
  induction said using List.reverseRecOn generalizing stage with
  | nil => exact fun _ hmem => nomatch hmem
  | append_singleton said event ih =>
      rw [Discipline.run_snoc, Option.bind_eq_some_iff] at h
      obtain ⟨before, hbefore, hafter⟩ := h
      obtain ⟨c, r⟩ := event
      have hnot : before ≠ .up ∧ c ≠ .agent (.listLeases hotkey) := by
        change before.after c r = some stage at hafter
        constructor
        · rintro hbefore
          unfold Stage.after at hafter
          split at hafter <;> cases hbefore <;> cases hafter
          all_goals first | exact hup rfl | contradiction
        · rintro rfl
          cases before <;> cases hafter
          exact hup rfl
      rintro other hmem
      rcases List.mem_append.mp hmem with hold | hnew
      · exact ih hbefore hnot.1 other hold
      · obtain rfl := List.mem_singleton.mp hnew
        exact hnot.2

/-! ## The other threads -/

def LeavesState : LoopCall → Prop
  | .put _ => False
  | _ => True

theorem ofAgent_leavesState {α : Type} (p : Agent α) :
    Always (fun _ _ => True) LeavesState (ofAgent p) fun _ => True := by
  induction p with
  | done r => trivial
  | call e next ih => exact ⟨trivial, fun r _ _ => ih r⟩

theorem heartbeatTick_leavesState (s : MinerSettings) :
    Within (fun _ _ => True) LeavesState (heartbeatTick s) fun _ => True := by
  refine within_bind (Q := fun _ => True)
    (within_perform trivial fun _ _ => trivial) fun _ _ => ?_
  refine within_bind (Q := fun _ => True)
    (Always.weaken (ofAgent_leavesState _) fun _ _ _ _ => trivial)
    fun _ _ => ?_
  exact within_perform trivial fun _ _ => trivial

theorem heartbeatLoop_leavesState (s : MinerSettings) (rounds : Nat) :
    Within (fun _ _ => True) LeavesState (heartbeatLoop s rounds)
      fun _ => True := by
  refine within_forEach fun _ _ => within_ignoring (within_onlyIf fun _ => ?_)
  refine within_bind (Q := fun _ => True)
    (within_perform trivial fun _ _ => trivial) fun _ _ => ?_
  exact within_onlyIf fun _ => heartbeatTick_leavesState s

theorem route_leavesState (s : MinerSettings) (route : Route) :
    Always (fun _ _ => True) LeavesState (route.program s) fun _ => True := by
  cases route with
  | register payload => exact ⟨trivial, fun _ _ _ => trivial⟩
  | publishHeartbeat payload => exact ⟨trivial, fun _ _ _ => trivial⟩
  | publishCapacity payload => exact ⟨trivial, fun _ _ _ => trivial⟩
  | listLeases hotkey => exact ofAgent_leavesState _
  | serve request => exact ofAgent_leavesState _
  | readyz =>
      refine Within.always (Q := fun _ => True) (within_bind
        (Q := fun _ => True) (within_onlyIf fun _ => ?_) fun _ _ => ?_)
      · exact within_bind (Q := fun _ => True)
          (within_perform trivial fun _ _ => trivial)
          fun _ _ => within_pure trivial
      · exact Always.weaken (ofAgent_leavesState _) fun _ _ _ _ => trivial

/-- Which calls a thread makes on the worker state. -/
def Who.calls : Who → LoopCall → Prop
  | .worker, _ => True
  | _, c => LeavesState c

theorem pool_calls (span : Lifespan)
    (workloadKind : String → Option WorkloadKind) (s : MinerSettings)
    (who : Who) :
    Always (fun _ _ => True) who.calls (span.pool workloadKind s who)
      fun _ => True := by
  cases who with
  | worker => exact sat_of_invariant (fun _ _ _ _ _ _ => trivial) _ trivial
  | heartbeat => exact (heartbeatLoop_leavesState s _).always
  | route n => exact route_leavesState s _

def FlagDown : (c : LoopCall) → Except Exn c.Ret → Prop
  | .bootstrapped, r => r = .ok false
  | _, _ => True

theorem heartbeatLoop_waits (s : MinerSettings) (rounds : Nat) :
    Within FlagDown (· = .bootstrapped) (heartbeatLoop s rounds)
      fun _ => True := by
  refine within_forEach fun _ _ => within_ignoring (within_onlyIf fun _ => ?_)
  refine within_bind (Q := fun bootstrapped => bootstrapped = false)
    (within_perform rfl fun _ h => Except.ok.inj h) fun _ hfalse => ?_
  subst hfalse
  exact within_pure trivial

/-! ## Every interleaving -/

def LoopCall.leaves (state : WorkerState) : LoopCall → WorkerState
  | .put entry => state.put entry
  | _ => state

theorem Process.Moves.state {c : LoopCall} {r : Except Exn c.Ret}
    (h : p.Moves permitted p' c r) : p'.state = c.leaves p.state := by
  cases c with
  | agent e => exact h.2
  | bootstrapped => exact h.2.2
  | put entry => exact h.2.2
  | _ => exact h.2

theorem LeavesState.state {c : LoopCall} (h : LeavesState c)
    (state : WorkerState) : c.leaves state = state := by
  cases c <;> first | exact h.elim | rfl

/-- The worker state says how far the worker has come. -/
structure WorkerState.Tells (state : WorkerState) (stage : Stage) : Prop where
  flag : state.bootstrapped = decide (stage = .up)
  stamp : 5 ≤ stage.granted → state.lastRecoveryAt = true

theorem WorkerState.Tells.after {state : WorkerState} {stage stage' : Stage}
    {c : LoopCall} {r : Except Exn c.Ret} (h : state.Tells stage)
    (hafter : stage.after c r = some stage') :
    (c.leaves state).Tells stage' := by
  obtain ⟨hflag, hstamp⟩ := h
  unfold Stage.after at hafter
  split at hafter <;> cases hafter <;>
    exact ⟨by simp_all [LoopCall.leaves, WorkerState.put],
      by simp_all [LoopCall.leaves, WorkerState.put, Stage.granted]⟩

structure Process.WorkerAt (s : Settings) (p : Process) (stage : Stage) :
    Prop where
  conversation :
    (workerDiscipline s).run .down (p.sentBy .worker) = some stage
  tells : p.state.Tells stage

theorem Process.WorkerAt.step {s : Settings} {stage : Stage} {c : LoopCall}
    {r : Except Exn c.Ret} (h : p.WorkerAt s stage)
    (hstep : (processHost permitted .worker).Step p c r p') :
    (workerDiscipline s).answers stage c r ∧
      ∀ stage', stage.after c r = some stage' → p'.WorkerAt s stage' := by
  obtain ⟨hmoves, hsent⟩ := hstep
  refine ⟨?_, fun stage' hafter => ⟨?_, ?_⟩⟩
  · cases c with
    | agent e => exact host_typed s hmoves.1
    | bootstrapped => exact hmoves.1.trans (congrArg Except.ok h.tells.flag)
    | put entry => exact hmoves.1
    | _ => trivial
  · rw [p.sentBy_snoc hsent, if_pos rfl, Discipline.run_snoc, h.conversation]
    exact hafter
  · rw [hmoves.state]
    exact h.tells.after hafter

theorem Process.WorkerAt.others {s : Settings} {stage : Stage} {c : LoopCall}
    {r : Except Exn c.Ret} (h : p.WorkerAt s stage) (hwho : who ≠ .worker)
    (hcalls : who.calls c) (hstep : (processHost permitted who).Step p c r p') :
    p'.WorkerAt s stage := by
  obtain ⟨hmoves, hsent⟩ := hstep
  have hleaves : LeavesState c := by
    cases who with
    | worker => exact absurd rfl hwho
    | _ => exact hcalls
  refine ⟨?_, ?_⟩
  · rw [p.sentBy_snoc hsent, if_neg hwho]
    exact h.conversation
  · rw [hmoves.state, hleaves.state]
    exact h.tells

theorem LoopCall.leaves_flag {c : LoopCall} {state : WorkerState}
    (h : (c.leaves state).bootstrapped = false) : state.bootstrapped = false := by
  cases c with
  | put entry => cases entry <;> first | exact h | cases h
  | _ => exact h

variable {span : Lifespan} {workloadKind : String → Option WorkloadKind}
variable {s : MinerSettings} {w : World} {pool : Who → Loop Unit}

theorem heartbeat_waits
    (hrun : Interleaves (processHost permitted) (span.pool workloadKind s)
      (.start w) pool p) (hflag : p.state.bootstrapped = false) :
    ∀ event ∈ p.sentBy .heartbeat, event.1 = .bootstrapped := by
  have hwaits : Always FlagDown (· = .bootstrapped)
      (span.pool workloadKind s .heartbeat) fun _ => True :=
    (heartbeatLoop_waits s _).always
  have hend := hrun.invariant (I := fun pool p =>
    p.state.bootstrapped = false →
      Always FlagDown (· = .bootstrapped) (pool .heartbeat) (fun _ => True) ∧
        ∀ event ∈ p.sentBy .heartbeat, event.1 = .bootstrapped) ?_
    fun _ => ⟨hwaits, fun _ hmem => nomatch hmem⟩
  · exact (hend hflag).2
  · rintro pool p who c next r p' ih turn ⟨hmoves, hsent⟩ hflag'
    have hflag : p.state.bootstrapped = false := by
      rw [hmoves.state] at hflag'
      exact LoopCall.leaves_flag hflag'
    obtain ⟨hnext, hbefore⟩ := ih hflag
    rw [p.sentBy_snoc hsent]
    by_cases hwho : who = .heartbeat
    · subst hwho
      rw [turn] at hnext
      obtain rfl : c = .bootstrapped := hnext.1
      rw [Function.update_self, if_pos rfl]
      refine ⟨hnext.2 r () (hmoves.1.trans (congrArg Except.ok hflag)), ?_⟩
      rintro event hmem
      rcases List.mem_append.mp hmem with hold | hnew
      · exact hbefore event hold
      · exact congrArg Sigma.fst (List.mem_singleton.mp hnew)
    · rw [Function.update_of_ne (Ne.symm hwho), if_neg hwho]
      exact ⟨hnext, hbefore⟩

/--
At every moment of every interleaving of the loops with any requests, the worker
has kept to its stages, and the flag is up exactly in the last one.  With the
flag up, a registration, a heartbeat, a capacity update and a recovery under the
lock lie behind it in this order.  With the flag down it has listed no lease,
and the heartbeat loop has sent nothing.
-/
theorem bootstrap_gate
    (hrun : Interleaves (processHost permitted) (span.pool workloadKind s)
      (.start w) pool p) :
    ∃ stage, (workerDiscipline s.toSettings).run .down (p.sentBy .worker) =
        some stage ∧
      (p.state.bootstrapped = true ↔ stage = .up) ∧
      (p.state.bootstrapped = true → p.state.lastRecoveryAt = true ∧
        ∃ registration heartbeat update,
          (bootstrapGrants registration heartbeat update).Sublist
            (p.sentBy .worker)) ∧
      (p.state.bootstrapped = false →
        (∀ hotkey, ∀ event ∈ p.sentBy .worker,
          event.1 ≠ .agent (.listLeases hotkey)) ∧
        ∀ event ∈ p.sentBy .heartbeat, event.1 = .bootstrapped) := by
  have hfollows : (workerDiscipline s.toSettings).Follows
      (span.pool workloadKind s .worker) .down fun _ _ => True :=
    workerLoop_follows _
  obtain ⟨stage, ⟨hconversation, hflag, hstamp⟩, -⟩ :=
    hfollows.interleaves (I := Process.WorkerAt s.toSettings) hrun
      (fun _ _ _ _ _ h hstep => h.step hstep)
      (fun _ _ _ _ _ _ hwho hcalls h hstep => h.others hwho hcalls hstep)
      (pool_calls span workloadKind s) ⟨rfl, rfl, nofun⟩
  refine ⟨stage, hconversation, by simp [hflag], fun hup => ?_, fun hdown => ?_⟩
  · obtain rfl : stage = .up := by simpa [hflag] using hup
    exact ⟨hstamp (by decide), worker_behind hconversation⟩
  · have hnot : stage ≠ .up := by simpa [hflag] using hdown
    exact ⟨fun hotkey => worker_leases hconversation hnot hotkey,
      heartbeat_waits hrun hdown⟩

/-! ## A bootstrap -/

def Process.hears (p : Process) (who : Who) (c : LoopCall)
    (r : Except Exn c.Ret) (w : World) : Except Exn c.Ret × Process :=
  (r, ⟨w, c.leaves p.state, p.sent ++ [(who, ⟨c, r⟩)]⟩)

/-- The control plane accepts what the loops send it. -/
def processAnswer (env : Environment) (who : Who) (p : Process) :
    (c : LoopCall) → Option (Except Exn c.Ret × Process)
  | .agent e => (hostAnswer env 0 p.world e).map fun (r, w) =>
      p.hears who (.agent e) r w
  | .bootstrapped =>
      some (p.hears who .bootstrapped (.ok p.state.bootstrapped) p.world)
  | .put entry => some (p.hears who (.put entry) (.ok ()) p.world)
  | .registerMiner payload =>
      some (p.hears who (.registerMiner payload) (.ok ()) p.world)
  | .recordHeartbeat payload =>
      some (p.hears who (.recordHeartbeat payload) (.ok ()) p.world)
  | .updateCapacity payload =>
      some (p.hears who (.updateCapacity payload) (.ok ()) p.world)

theorem processAnswer_step {env : Environment} (henv : env.Respects permitted)
    (who : Who) (p : Process) (c : LoopCall) (r : Except Exn c.Ret)
    (p' : Process) (h : processAnswer env who p c = some (r, p')) :
    (processHost permitted who).Step p c r p' := by
  cases c with
  | agent e =>
      obtain ⟨⟨r', w⟩, hanswer, hsome⟩ := Option.map_eq_some_iff.mp h
      cases hsome
      exact ⟨⟨hostAnswer_step henv 0 _ _ _ _ hanswer, rfl⟩, rfl⟩
  | _ =>
      cases h
      exact ⟨by first | exact ⟨rfl, rfl, rfl⟩ | exact ⟨rfl, rfl⟩, rfl⟩

def quietSpan : Lifespan where
  workerRounds := 1
  heartbeatRounds := 2
  routes := fun _ => .readyz

/-- The heartbeat loop finds the flag down, and finds it up in its next round. -/
def firstBoot : (Who → Loop Unit) × Process :=
  takeTurns (processAnswer (podHost []))
    (.heartbeat :: List.replicate 15 .worker ++ List.replicate 3 .heartbeat)
    (quietSpan.pool (fun _ => some .pod) { bootstrapMiner := true })
    (.start (.init {}))

theorem bootstrap_gate_firstBoot : firstBoot.2.state.bootstrapped = true ∧
    (firstBoot.2.sentBy .heartbeat).length = 4 ∧
    ∃ registration heartbeat update,
      (bootstrapGrants registration heartbeat update).Sublist
        (firstBoot.2.sentBy .worker) := by
  have hrun := takeTurns_interleaves
    (processAnswer_step (podHost_ownErrors []))
    (.heartbeat :: List.replicate 15 .worker ++ List.replicate 3 .heartbeat)
    (quietSpan.pool (fun _ => some .pod) { bootstrapMiner := true })
    (.start (.init {}))
  obtain ⟨stage, -, -, hup, -⟩ := bootstrap_gate hrun
  exact ⟨rfl, rfl, (hup rfl).2⟩

end NodeAgent
