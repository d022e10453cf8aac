import NodeAgent.Application.Worker
import NodeAgent.Foundation.Layers

/-!
# The gate before the routes

Every route but one first checks the request's `X-Agent-Auth` header against the
node's secret.  Without a secret the routes that control the node are closed,
and the others are open after a warning.
-/

namespace NodeAgent

open Effectful Program Agent Loop

structure AuthSettings extends MinerSettings where
  agentAuthSecret : Option String := none
  inferenceAuthSecret : Option String := none
  computeAuthSecret : Option String := none

def AuthSettings.secrets (cfg : AuthSettings) : List (Option String) :=
  [cfg.agentAuthSecret, cfg.inferenceAuthSecret, cfg.computeAuthSecret]

/-- The first of the three that is set and not empty. -/
def effectiveAgentSecret (cfg : AuthSettings) : Option String :=
  cfg.secrets.findSome? fun val => if truthy val then val else none

/-- An entry of `_warned`. -/
inductive WarnedEntry where
  | opened
  | closed
  deriving DecidableEq, Repr

inductive GateCall where
  /-- `_warned[entry]`. -/
  | isWarned (entry : WarnedEntry)
  /-- The log line of the entry. -/
  | warn (entry : WarnedEntry)
  /-- `_warned[entry] = True`. -/
  | setWarned (entry : WarnedEntry)

abbrev GateCall.Ret : GateCall → Type
  | .isWarned _ => Bool
  | .warn _ | .setWarned _ => Unit

abbrev Gated := Program (LoopCall ⊕ GateCall)
  (Sum.elim LoopCall.Ret GateCall.Ret) Exn

namespace Gated

abbrev isWarned (entry : WarnedEntry) : Gated Bool :=
  perform (Sum.inr (GateCall.isWarned entry))

abbrev warn (entry : WarnedEntry) : Gated Unit :=
  perform (Sum.inr (GateCall.warn entry))

abbrev setWarned (entry : WarnedEntry) : Gated Unit :=
  perform (Sum.inr (GateCall.setWarned entry))

end Gated

open Gated

/-- `if not _warned[entry]: logger...; _warned[entry] = True`. -/
def warnOnce (entry : WarnedEntry) : Gated Unit := do
  let warned ← isWarned entry
  onlyIf (!warned) (do
    warn entry
    setWarned entry)

def isAscii (text : String) : Bool := text.toList.all fun c => c.toNat < 128

/-- `hmac.compare_digest`, which takes strings of ASCII characters only. -/
def compareDigest (a b : String) : Except Exn Bool :=
  if isAscii a && isAscii b then .ok (a = b)
  else .error (.unexpected
    "TypeError: comparing strings with non-ASCII characters is not supported")

def unauthorized : Exn := .unexpected "401: invalid or missing auth header"

def disabled : Exn :=
  .unexpected "503: node-agent auth not configured; control route disabled"

def validateAuth (header : Option String) (cfg : AuthSettings)
    (sensitive : Bool) : Gated Unit :=
  match effectiveAgentSecret cfg with
  | some expected =>
      match header with
      | none => raise unauthorized
      | some header =>
          if header = "" then raise unauthorized
          else match compareDigest header expected with
            | .error x => raise x
            | .ok same => if same then pure () else raise unauthorized
  | none =>
      if sensitive then do
        warnOnce .closed
        raise disabled
      else warnOnce .opened

/-! ## The routes -/

/-- A request at a route; of what it answers only the reads are kept. -/
inductive Endpoint where
  | register (payload : MinerRegistration)
  | publishCapacity (payload : CapacityUpdate)
  | publishHeartbeat (payload : Heartbeat)
  | listLeases (hotkey : String)
  | reconcile (hotkey : String)
  | recovery (hotkey : String)
  | listRuntimes
  | runtimeSummary
  | getRuntime (deploymentId : String)
  | chatCompletions (deploymentId : String)
  | inferenceHealthz (deploymentId : String)
  | podStats (deploymentId : String)
  | inferenceProxy (deploymentId : String)
  | getSshAccess (deploymentId : String)
  | terminateDeployment (deploymentId : String)
  | gpuStatus
  | fleetStatus
  /-- Of the application itself, before no gate. -/
  | readyz

namespace Endpoint

/-- The argument of the route's `validate_auth`; `none` where it has none. -/
def sensitive : Endpoint → Option Bool
  | .inferenceHealthz _ | .podStats _ | .inferenceProxy _ => some false
  | .readyz => none
  | _ => some true

/-- What the route makes the agent do once it is let in. -/
def handler (s : MinerSettings) : Endpoint → Loop Unit
  | .register payload => (Route.register payload).program s
  | .publishCapacity payload => (Route.publishCapacity payload).program s
  | .publishHeartbeat payload => (Route.publishHeartbeat payload).program s
  | .listLeases hotkey => (Route.listLeases hotkey).program s
  | .reconcile hotkey => (Route.serve (.reconcile hotkey)).program s
  | .recovery _ => (Route.serve .recover).program s
  | .terminateDeployment d => (Route.serve (.terminate d)).program s
  | .listRuntimes | .runtimeSummary | .fleetStatus =>
      ofAgent (do let _ ← snapshotRuntimeItems)
  | .getRuntime d | .chatCompletions d | .inferenceHealthz d | .podStats d
  | .inferenceProxy d | .getSshAccess d =>
      ofAgent (do let _ ← Agent.getRuntime d)
  | .gpuStatus => ofAgent (do let _ ← allocatedDevices)
  | .readyz => Route.readyz.program s

end Endpoint

structure Arrival where
  header : Option String
  endpoint : Endpoint

namespace Arrival

def check (cfg : AuthSettings) (arrival : Arrival) : Gated Unit :=
  match arrival.endpoint.sensitive with
  | none => pure ()
  | some sensitive => validateAuth arrival.header cfg sensitive

def program (cfg : AuthSettings) (arrival : Arrival) : Gated Unit := do
  arrival.check cfg
  (arrival.endpoint.handler cfg.toMinerSettings).raised GateCall.Ret

/-- The requests that the gate is to let in. -/
def Admitted (cfg : AuthSettings) (arrival : Arrival) : Prop :=
  match arrival.endpoint.sensitive with
  | none => True
  | some sensitive =>
      match effectiveAgentSecret cfg with
      | none => sensitive = false
      | some secret => arrival.header = some secret ∧ isAscii secret = true

instance (cfg : AuthSettings) (arrival : Arrival) :
    Decidable (arrival.Admitted cfg) := by
  unfold Admitted
  split
  · infer_instance
  · split <;> infer_instance

/-- What the agent is to see of a request. -/
def admitted (cfg : AuthSettings) (arrival : Arrival) : Loop Unit :=
  if arrival.Admitted cfg then arrival.endpoint.handler cfg.toMinerSettings
  else pure ()

end Arrival

/-! ## The gate lets in whom it is to let in -/

variable {cfg : AuthSettings}

theorem effectiveAgentSecret_some {secret : String}
    (h : effectiveAgentSecret cfg = some secret) :
    some secret ∈ cfg.secrets ∧ secret ≠ "" := by
  obtain ⟨val, hmem, hval⟩ := List.exists_of_findSome?_eq_some h
  split at hval
  · rename_i htruthy
    subst hval
    exact ⟨hmem, by simpa [truthy] using htruthy⟩
  · cases hval

/-- A flag can be read, and the log takes every line. -/
def GateCall.Returns (c : GateCall) (r : Except Exn c.Ret) : Prop :=
  ∃ a, r = .ok a

theorem warnOnce_checks {entry : WarnedEntry} {ends : Except Exn Unit → Prop}
    {p : Gated Unit} (h : p.Checks GateCall.Returns ends) :
    (warnOnce entry >>= fun _ => p).Checks GateCall.Returns ends := by
  rintro r ⟨warned, rfl⟩
  cases warned with
  | true => exact h
  | false =>
      rintro r ⟨_, rfl⟩
      rintro r ⟨_, rfl⟩
      exact h

theorem validateAuth_checks (header : Option String) (sensitive : Bool) :
    (validateAuth header cfg sensitive).Checks GateCall.Returns fun r =>
      r = .ok () ↔ match effectiveAgentSecret cfg with
        | none => sensitive = false
        | some secret => header = some secret ∧ isAscii secret = true := by
  unfold validateAuth
  cases hsecret : effectiveAgentSecret cfg with
  | none =>
      cases sensitive with
      | true => exact warnOnce_checks (by simp [raise])
      | false =>
          have hopen : (warnOnce .opened >>= fun _ => pure ()).Checks
              GateCall.Returns fun r => r = .ok () ↔ false = false :=
            warnOnce_checks (by simp [pure])
          simpa using hopen
  | some expected =>
      have hexpected := (effectiveAgentSecret_some hsecret).2
      cases header with
      | none => simp [raise]
      | some header =>
          by_cases hempty : header = ""
          · simp [raise, hempty, Ne.symm hexpected]
          · simp only [hempty, if_false, compareDigest]
            by_cases hascii : isAscii header = true ∧ isAscii expected = true
            · by_cases hsame : header = expected <;>
                simp [raise, pure, hascii.1, hascii.2, hsame]
            · have hnot : ¬(header = expected ∧ isAscii expected = true) := by
                rintro ⟨rfl, hheader⟩
                exact hascii ⟨hheader, hheader⟩
              simp [raise, hascii, hnot]

theorem Arrival.check_checks (arrival : Arrival) :
    (arrival.check cfg).Checks GateCall.Returns fun r =>
      r = .ok () ↔ arrival.Admitted cfg := by
  unfold Arrival.check Arrival.Admitted
  cases arrival.endpoint.sensitive with
  | none => simp [pure]
  | some sensitive => exact validateAuth_checks arrival.header sensitive

theorem Arrival.program_shows (arrival : Arrival) :
    (arrival.program cfg).Shows GateCall.Returns (arrival.admitted cfg) := by
  refine shows_bind arrival.check_checks (fun _ hok => ?_) fun x herror => ?_
  · rw [Arrival.admitted, if_pos (hok.mp rfl)]
    exact raised_shows _
  · rw [Arrival.admitted, if_neg fun hin => nomatch herror.mpr hin]
    exact ⟨_, rfl⟩

/-! ## The gated process -/

structure GatedProcess where
  process : Process
  warned : WarnedEntry → Bool
  /-- The warnings logged so far. -/
  logged : List WarnedEntry

namespace GatedProcess

def start (w : World) : GatedProcess := ⟨.start w, fun _ => false, []⟩

/-- A call of the gate on the state that it alone uses. -/
def Moves (g g' : GatedProcess) : (c : GateCall) → Except Exn c.Ret → Prop
  | .isWarned entry, r => r = .ok (g.warned entry) ∧
      g'.warned = g.warned ∧ g'.logged = g.logged
  | .warn entry, r => r = .ok () ∧
      g'.warned = g.warned ∧ g'.logged = g.logged ++ [entry]
  | .setWarned entry, r => r = .ok () ∧
      g'.warned = Function.update g.warned entry true ∧ g'.logged = g.logged

theorem Moves.returns {g g' : GatedProcess} {c : GateCall}
    {r : Except Exn c.Ret} (h : g.Moves g' c r) : GateCall.Returns c r := by
  cases c <;> exact ⟨_, h.1⟩

end GatedProcess

def gateHost (permitted : Permitted) (who : Who) :
    Machine (LoopCall ⊕ GateCall) (Sum.elim LoopCall.Ret GateCall.Ret) Exn
      GatedProcess where
  Step g c r g' :=
    match c, r with
    | .inl c, r => (processHost permitted who).Step g.process c r g'.process ∧
        g'.warned = g.warned ∧ g'.logged = g.logged
    | .inr c, r => g.Moves g' c r ∧ g'.process = g.process

/-- How long the loops run and which requests arrive at the gate. -/
structure Traffic where
  workerRounds : Nat
  heartbeatRounds : Nat
  arrivals : Nat → Arrival

namespace Traffic

def pool (traffic : Traffic) (workloadKind : String → Option WorkloadKind)
    (cfg : AuthSettings) : Who → Gated Unit
  | .worker => (workerLoop workloadKind cfg.toMinerSettings
      traffic.workerRounds).raised GateCall.Ret
  | .heartbeat => (heartbeatLoop cfg.toMinerSettings
      traffic.heartbeatRounds).raised GateCall.Ret
  | .route n => (traffic.arrivals n).program cfg

/-- The process without a gate, where only the admitted requests arrive. -/
def admitted (traffic : Traffic)
    (workloadKind : String → Option WorkloadKind) (cfg : AuthSettings) :
    Who → Loop Unit
  | .worker => workerLoop workloadKind cfg.toMinerSettings traffic.workerRounds
  | .heartbeat => heartbeatLoop cfg.toMinerSettings traffic.heartbeatRounds
  | .route n => (traffic.arrivals n).admitted cfg

theorem pool_shows (traffic : Traffic)
    (workloadKind : String → Option WorkloadKind) (who : Who) :
    (traffic.pool workloadKind cfg who).Shows GateCall.Returns
      (traffic.admitted workloadKind cfg who) := by
  cases who with
  | worker => exact raised_shows _
  | heartbeat => exact raised_shows _
  | route n => exact (traffic.arrivals n).program_shows

end Traffic

variable {permitted : Permitted} {w : World} {p : Process}
variable {pool pool' : Who → Loop Unit}

theorem sentBy_done {who : Who} {r : Except Exn Unit}
    (hrun : Interleaves (processHost permitted) pool (.start w) pool' p)
    (hdone : pool who = .done r) : p.sentBy who = [] := by
  refine (hrun.invariant (I := fun pool p =>
    pool who = .done r ∧ p.sentBy who = []) ?_ ⟨hdone, rfl⟩).2
  rintro pool p other c next r' p' ⟨hdone, hempty⟩ turn ⟨-, hsent⟩
  have hother : other ≠ who := by
    rintro rfl
    rw [hdone] at turn
    cases turn
  rw [Function.update_of_ne (Ne.symm hother), p.sentBy_snoc hsent,
    if_neg hother]
  exact ⟨hdone, hempty⟩

theorem Arrival.Admitted.secret {arrival : Arrival}
    (h : arrival.Admitted cfg)
    (hsensitive : arrival.endpoint.sensitive = some true) :
    ∃ secret, some secret ∈ cfg.secrets ∧ secret ≠ "" ∧
      arrival.header = some secret := by
  unfold Arrival.Admitted at h
  rw [hsensitive] at h
  cases hsecret : effectiveAgentSecret cfg with
  | none => simp [hsecret] at h
  | some secret =>
      obtain ⟨hmem, hne⟩ := effectiveAgentSecret_some hsecret
      simp only [hsecret] at h
      exact ⟨secret, hmem, hne, h.1⟩

/--
In every interleaving of the loops with any requests, the agent does what it
would do without a gate if only the admitted requests arrived, and an admitted
request that has ended was served to its end.  A request that is not admitted
makes it do nothing, and one at a sensitive route is admitted only with a secret
that the operator has set.
-/
theorem gate_admits {traffic : Traffic}
    {workloadKind : String → Option WorkloadKind} {g : GatedProcess}
    {pool : Who → Gated Unit}
    (hrun : Interleaves (gateHost permitted) (traffic.pool workloadKind cfg)
      (.start w) pool g) :
    (∃ pool', Interleaves (processHost permitted)
        (traffic.admitted workloadKind cfg) (.start w) pool' g.process ∧
      ∀ who r, pool who = .done r → ∃ r', pool' who = .done r') ∧
    ∀ n, g.process.sentBy (.route n) ≠ [] →
      (traffic.arrivals n).Admitted cfg ∧
      ((traffic.arrivals n).endpoint.sensitive = some true →
        ∃ secret, some secret ∈ cfg.secrets ∧ secret ≠ "" ∧
          (traffic.arrivals n).header = some secret) := by
  obtain ⟨pool', hbelow, hshows⟩ := hrun.underneath
    (M := gateHost permitted) (N := processHost permitted)
    (fun _ _ _ _ _ (hstep : _ ∧ _) => hstep.1)
    (fun _ _ _ _ _ (hstep : _ ∧ _) => ⟨hstep.1.returns, hstep.2⟩)
    (traffic.pool_shows workloadKind)
  refine ⟨⟨pool', hbelow, fun who r hdone => ?_⟩, fun n hsent => ?_⟩
  · have hwho := hshows who
    rw [hdone] at hwho
    exact hwho
  · have hadmitted : (traffic.arrivals n).Admitted cfg := by
      by_contra hout
      refine hsent (sentBy_done hbelow (r := .ok ()) ?_)
      rw [Traffic.admitted, Arrival.admitted, if_neg hout]
      rfl
    exact ⟨hadmitted, hadmitted.secret⟩

/-! ## A request that is admitted and one that is not -/

namespace GatedProcess

/-- The flags and the log answer as they do, and the rest as the host does. -/
def hears (env : Environment) (who : Who) (g : GatedProcess) :
    (c : LoopCall ⊕ GateCall) →
      Option (Except Exn (Sum.elim LoopCall.Ret GateCall.Ret c) × GatedProcess)
  | .inl c => (processAnswer env who g.process c).map fun (r, p) =>
      (r, { g with process := p })
  | .inr (.isWarned entry) => some (.ok (g.warned entry), g)
  | .inr (.warn entry) =>
      some (.ok (), { g with logged := g.logged ++ [entry] })
  | .inr (.setWarned entry) => some (.ok (),
      { g with warned := Function.update g.warned entry true })

theorem hears_step {env : Environment} (henv : env.Respects permitted)
    (who : Who) (g : GatedProcess) (c : LoopCall ⊕ GateCall)
    (r : Except Exn (Sum.elim LoopCall.Ret GateCall.Ret c)) (g' : GatedProcess)
    (h : hears env who g c = some (r, g')) :
    (gateHost permitted who).Step g c r g' := by
  cases c with
  | inl c =>
      obtain ⟨⟨r', p⟩, hanswer, hsome⟩ := Option.map_eq_some_iff.mp h
      cases hsome
      exact ⟨processAnswer_step henv who _ _ _ _ hanswer, rfl, rfl⟩
  | inr c =>
      cases c <;> cases h <;> exact ⟨⟨rfl, rfl, rfl⟩, rfl⟩

end GatedProcess

def guardedNode : AuthSettings where
  inferenceAuthSecret := some "token"

/-- The first request has the token, and the others have none. -/
def oneWithToken : Traffic where
  workerRounds := 0
  heartbeatRounds := 0
  arrivals
    | 0 => ⟨some "token", .getRuntime "pod-1"⟩
    | _ => ⟨none, .terminateDeployment "pod-1"⟩

def oneServed : (Who → Gated Unit) × GatedProcess :=
  takeTurns (GatedProcess.hears (podHost [])) [.route 1, .route 0]
    (oneWithToken.pool (fun _ => none) guardedNode) (.start (.init {}))

theorem gate_admits_token :
    (oneServed.2.process.sentBy (.route 0)).length = 1 ∧
    (oneWithToken.arrivals 0).Admitted guardedNode ∧
    oneServed.2.process.sentBy (.route 1) = [] := by
  have hrun := takeTurns_interleaves
    (GatedProcess.hears_step (podHost_ownErrors [])) [.route 1, .route 0]
    (oneWithToken.pool (fun _ => none) guardedNode) (.start (.init {}))
  obtain ⟨-, hserved⟩ := gate_admits hrun
  exact ⟨rfl, (hserved 0 nofun).1, rfl⟩

end NodeAgent
