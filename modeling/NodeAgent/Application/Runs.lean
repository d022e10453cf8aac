import NodeAgent.Application.Passes
import NodeAgent.Infrastructure.Replay

/-!
# Runs of one agent

Requests one at a time and restarts, from an empty node on.
-/

namespace NodeAgent

open Effectful Program Agent

/-- What the worker loop and the routes ask the agent to do. -/
inductive Request where
  | reconcile (hotkey : String)
  | recover
  | terminate (deploymentId : String)
  deriving DecidableEq, Repr

def Request.program (s : Settings) : Request → Agent Unit
  | .reconcile hotkey => reconcileOnce s hotkey
  | .recover => do
      let _ ← recoverRuntimeState s
  | .terminate d => do
      let _ ← terminateDeployment s d

/-! ## What every request keeps -/

section Requests

variable {s : Settings} {M : Machine Effect Effect.Ret Exn World}
variable {guard : World → Effect → Prop} {inv : World → Prop}
variable {runtime : UnifiedRuntimeRecord}

def Looking : Effect → Prop
  | .getRuntime _ | .getDeployment _ => True
  | e => Framing e

variable (hlook : ∀ e : Effect, Looking e → Keeps M guard inv (perform e))
variable (hterminate : ∀ runtime reported,
  Keeps M guard inv (terminateRuntime s runtime reported))
variable (hremove : ∀ runtime : UnifiedRuntimeRecord, Keeps M guard inv (do
  terminateRuntime s runtime
  removeRuntime runtime.deploymentId))
include hlook hterminate

theorem keeps_recoverRuntime :
    Keeps M guard inv (recoverRuntime s runtime) := by
  unfold recoverRuntime
  refine keeps_bind (keeps_attempt (hlook (.getDeployment _) trivial))
    fun r => ?_
  split
  · exact keeps_bind (hterminate _ _) fun _ => keeps_pure _
  · split
    · exact keeps_pure _
    · exact keeps_bind (hterminate _ _) fun _ => keeps_pure _
  · split
    · exact keeps_pure _
    · exact keeps_raise _

include hremove

theorem keeps_cleanUp (active fleet : List String) :
    Keeps M guard inv (cleanUp s active fleet runtime) := by
  unfold cleanUp
  split
  · exact keeps_pure _
  · split
    · exact keeps_pure _
    · unfold reapSuspended
      refine keeps_bind (keeps_attempt (hlook (.getDeployment _) trivial))
        fun r => ?_
      split
      · split
        · exact hremove _
        · exact keeps_pure _
      · exact keeps_pure _
      · exact keeps_pure _
    · exact hterminate _ _

theorem keeps_request (hM : Refines M)
    (hlease : ∀ lease, Keeps M guard inv (handleLease s lease))
    (request : Request) : Keeps M guard inv (request.program s) := by
  have hquiet : ∀ e : Effect, Framing e → Keeps M guard inv (perform e) :=
    fun e he => hlook e (by cases e <;> first | exact he | exact he.elim)
  cases request with
  | reconcile hotkey =>
      exact keeps_reconcileOnce (L := fun _ => True) hquiet hM
        (fun _ _ _ _ => trivial) (fun _ _ lease _ _ => hlease lease)
        (fun _ _ _ _ _ _ => keeps_cleanUp hlook hterminate hremove _ _)
  | recover =>
      exact keeps_bind (keeps_recoverRuntimeState hquiet fun _ =>
        keeps_recoverRuntime hlook hterminate) fun _ => keeps_pure _
  | terminate d =>
      refine keeps_bind (keeps_bind (hlook (.getRuntime _) trivial)
        fun found => ?_) fun _ => keeps_pure _
      split
      · exact keeps_pure _
      · exact keeps_bind (hterminate _ _) fun _ => keeps_pure _

end Requests

/-- The states between the steps of a run that serves one request at a time. -/
inductive NodeRun (s : Settings) (M : Machine Effect Effect.Ret Exn World) :
    World → Prop
  | boot : NodeRun s M (.init s)
  | serve {w w' : World} {r : Except Exn Unit} (before : NodeRun s M w)
      (request : Request) (exec : Exec M (request.program s) w r w') :
      NodeRun s M w'
  | restart {w : World} (before : NodeRun s M w) : NodeRun s M (w.restart s)

variable {s : Settings} {permitted : Permitted} {w : World}

/-! ## The state file -/

theorem host_persisted (hdurable : Durable permitted) {w' : World} {e : Effect}
    {r : Except Exn e.Ret} (h : w.stateFile = w.runtimes)
    (hstep : (host permitted).Step w e r w') :
    w'.stateFile = w'.runtimes := by
  have hr := hstep.1
  obtain ⟨a, -, rfl, rfl⟩ := host_refines.performed hstep
  by_cases he : World.touchesBooks e = false
  · obtain ⟨hruntimes, hfile, -⟩ := World.perform_books he w a
    simp only [hruntimes, hfile, h]
  · cases e with
    | upsertRuntime runtime =>
        cases hresult : a.result with
        | ok => simp [World.perform, World.saved, World.isOk, hresult]
        | error x => exact absurd (hresult ▸ hr) (hdurable.upsert runtime x)
    | removeRuntime d =>
        cases hresult : a.result with
        | ok => simp [World.perform, World.saved, World.isOk, hresult]
        | error x => exact absurd (hresult ▸ hr) (hdurable.remove d x)
    | allocate _ _ _ => exact h
    | allocateSpecific _ _ => exact h
    | release _ => exact h
    | updateDeploymentStatus _ => exact h
    | _ => exact absurd rfl he

/-! ## Every run is sound -/

theorem init_sound : NodeSound permitted (.init s) :=
  fun _ => Ledger.sound_of_none rfl rfl

theorem request_sound (request : Request) :
    Keeps (host permitted) (World.Writes permitted)
      (NodeSound permitted) (request.program s) := by
  cases request with
  | reconcile hotkey => exact reconcileOnce_sound hotkey
  | recover =>
      exact keeps_bind recoverRuntimeState_sound fun _ => keeps_pure _
  | terminate d =>
      exact keeps_bind (terminateDeployment_sound d) fun _ => keeps_pure _

theorem run_sound (hdurable : Durable permitted)
    (h : NodeRun s (host permitted) w) :
    NodeSound permitted w ∧ w.stateFile = w.runtimes := by
  induction h with
  | boot => exact ⟨init_sound, rfl⟩
  | serve before request exec ih =>
      refine ⟨(request_sound request _ ih.1).exec exec, ?_⟩
      exact (sat_of_invariant (fun _ _ _ _ => host_persisted hdurable) _
        ih.2).exec exec
  | restart before ih => exact ⟨restart_sound ih.1 ih.2, rfl⟩

/-! ## Crashes -/

/-- As `NodeRun`, where the agent may also die between any two calls. -/
inductive CrashRun (s : Settings) (M : Machine Effect Effect.Ret Exn World) :
    World → Prop
  | boot : CrashRun s M (.init s)
  | serve {w w' : World} {r : Except Exn Unit} (before : CrashRun s M w)
      (request : Request) (exec : Exec M (request.program s) w r w') :
      CrashRun s M w'
  | crash {w w' : World} {rest : Agent Unit} (before : CrashRun s M w)
      (request : Request) (reached : Reaches M (request.program s) w rest w') :
      CrashRun s M (w'.restart s)

theorem CrashRun.keeps {M : Machine Effect Effect.Ret Exn World}
    {guard : World → Effect → Prop} {inv : World → Prop}
    (h : CrashRun s M w) (hinit : inv (.init s))
    (hrequest : ∀ (request : Request) w, CrashRun s M w → inv w →
      Sat M guard (request.program s) (fun _ => inv) w)
    (hguard : ∀ w e, guard w e → inv w)
    (hrestart : ∀ w, inv w → inv (w.restart s)) : inv w := by
  induction h with
  | boot => exact hinit
  | serve before request exec ih =>
      exact (hrequest request _ before ih).exec exec
  | crash before request reached ih =>
      exact hrestart _ ((hrequest request _ before ih).cut hguard
        (fun _ _ h => h) reached)

def OnRecord (P : UnifiedRuntimeRecord → Prop) (w : World) : Prop :=
  ∀ d runtime, w.runtimes.get? d = some runtime ∨
    w.stateFile.get? d = some runtime → P runtime

/-- In memory and in the file, what keeps its devices lists them in order. -/
def TablesPinned (w : World) : Prop :=
  ∀ d runtime, w.runtimes.get? d = some runtime ∨
    w.stateFile.get? d = some runtime →
    InService runtime ∨ runtime.status = .suspended → Pinned runtime

section OnRecord

variable {P : UnifiedRuntimeRecord → Prop}

theorem OnRecord.saved (h : OnRecord P w) (table : RuntimeTable) {ok : Bool}
    (htable : ∀ d runtime, table.get? d = some runtime → P runtime) :
    OnRecord P (w.saved table ok) := by
  intro d runtime hget
  rcases hget with hget | hget
  · exact htable d runtime hget
  · cases ok with
    | true => exact htable d runtime hget
    | false => exact h d runtime (.inr hget)

theorem host_onRecord {w' : World} {e : Effect} {r : Except Exn e.Ret}
    (h : OnRecord P w)
    (hwrite : ∀ runtime, e = .upsertRuntime runtime → P runtime)
    (hstep : (host permitted).Step w e r w') : OnRecord P w' := by
  obtain ⟨a, -, -, rfl⟩ := host_refines.performed hstep
  by_cases he : World.touchesBooks e = false
  · obtain ⟨hruntimes, hfile, -⟩ := World.perform_books he w a
    intro d runtime hget
    simp only [hruntimes, hfile] at hget
    exact h d runtime hget
  · cases e with
    | upsertRuntime runtime =>
        refine h.saved (w.runtimes.upsert runtime)
          fun d runtime' hget => ?_
        rw [Table.get?_upsert] at hget
        split at hget
        · cases hget
          exact hwrite runtime rfl
        · exact h d runtime' (.inl hget)
    | removeRuntime b =>
        refine h.saved (w.runtimes.remove b)
          fun d runtime' hget => ?_
        rw [Table.get?_remove] at hget
        split at hget
        · cases hget
        · exact h d runtime' (.inl hget)
    | allocate _ _ _ => exact h
    | allocateSpecific _ _ => exact h
    | release _ => exact h
    | updateDeploymentStatus _ => exact h
    | _ => exact absurd rfl he

theorem init_onRecord : OnRecord P (.init s) := by
  intro d runtime hget
  rcases hget with hget | hget <;> cases hget

theorem OnRecord.restart (h : OnRecord P w) : OnRecord P (w.restart s) :=
  fun d runtime hget => h d runtime
    (.inr (by simpa [World.restart] using hget))

end OnRecord

theorem reached_invariant {I : World → Prop}
    (hstep : ∀ w e r w', I w → w.Writes permitted e →
      (host permitted).Step w e r w' → I w')
    (hsound : NodeSound permitted w) (h : I w) {request : Request}
    {rest : Agent Unit} {w' : World}
    (hreached : Reaches (host permitted) (request.program s) w rest w') :
    I w' :=
  ((request_sound request _ hsound).keeping hstep h).cut
    (fun _ _ h => h) (fun _ _ h => h.2) hreached

theorem crashRun_invariant {I : World → Prop} (hinit : I (.init s))
    (hstep : ∀ w e r w', I w → w.Writes permitted e →
      (host permitted).Step w e r w' → I w')
    (hrestart : ∀ w, I w → I (w.restart s))
    (hsound : ∀ w, CrashRun s (host permitted) w → NodeSound permitted w)
    (h : CrashRun s (host permitted) w) : I w := by
  induction h with
  | boot => exact hinit
  | serve before request exec ih =>
      exact reached_invariant hstep (hsound _ before) ih exec
  | crash before request reached ih =>
      exact hrestart _ (reached_invariant hstep (hsound _ before) ih reached)

theorem host_tablesPinned (hfloor : Floored permitted) {w' : World}
    {e : Effect} {r : Except Exn e.Ret} (h : TablesPinned w)
    (hwrite : w.Writes permitted e) (hstep : (host permitted).Step w e r w') :
    TablesPinned w' := by
  refine host_onRecord (P := fun runtime => InService runtime ∨
    runtime.status = .suspended → Pinned runtime) h (fun runtime heq => ?_)
    hstep
  subst heq
  exact hwrite.pinned hfloor

theorem crashRun_sound (hfloor : Floored permitted)
    (hpolite : ¬Polite permitted) (hreliable : ¬Reliable permitted)
    (h : CrashRun s (host permitted) w) :
    NodeSound permitted w ∧ TablesPinned w := by
  induction h with
  | boot => exact ⟨init_sound, init_onRecord⟩
  | serve before request exec ih =>
      have hsat := (request_sound (s := s) request _ ih.1).keeping
        (fun _ _ _ _ => host_tablesPinned hfloor) ih.2
      exact hsat.exec exec
  | crash before request reached ih =>
      have hsat := (request_sound (s := s) request _ ih.1).keeping
        (fun _ _ _ _ => host_tablesPinned hfloor) ih.2
      have hpinned := hsat.cut (fun _ _ h => h) (fun _ _ h => h.2) reached
      exact ⟨restart_pinned hpolite hreliable fun d runtime hget =>
        hpinned d runtime (.inr hget), OnRecord.restart hpinned⟩

/-- Anything may fail; a workload asks for at least one GPU. -/
def floored : Permitted
  | .getWorkload _, .ok (some workload) => 1 ≤ requestedGpus workload
  | _, _ => True

theorem floored_floored : Floored floored := fun _ _ h => h

theorem floored_not_polite : ¬Polite floored := fun h => by
  have := h "" "" .valueError trivial
  cases this

theorem floored_not_reliable : ¬Reliable floored :=
  fun h => h.remove "" .valueError trivial

theorem cooperative_floored (leases : List LeaseAssignment)
    (deployment : String → Option Deployment) {workload : WorkloadSpec}
    (h : 1 ≤ requestedGpus workload) :
    (cooperative leases (fun _ => some workload) deployment).Respects
      floored := by
  intro w e
  cases e with
  | getWorkload id => exact h
  | _ => exact trivial

/-! ## Devices -/

/--
Backends fail with their own errors, state-file writes succeed, and a workload
asks for at least one GPU; staging, volumes and probes fail in any way.
-/
def ownErrors : Permitted
  | .upsertRuntime _, r | .removeRuntime _, r => World.isOk r = true
  | .dockerStart _ _, .error x => x.isMissingOrTimeout = true
  | .getWorkload _, .ok (some workload) => 1 ≤ requestedGpus workload
  | _, _ => True

theorem ownErrors_floored : Floored ownErrors := fun _ _ h => h

theorem ownErrors_polite : Polite ownErrors := fun _ _ _ h => h

theorem ownErrors_durable : Durable ownErrors where
  upsert _ _ h := nomatch h
  remove _ _ h := nomatch h

/--
In every run the allocator holds for each runtime in service exactly its
devices, and nothing for any other deployment that is settled or unknown; two
runtimes in service share no device.
-/
theorem run_devices (h : NodeRun s (host ownErrors) w) :
    (∀ d runtime, w.runtimes.get? d = some runtime → InService runtime →
      w.allocator.getAllocation d = (originalDevices runtime).toFinset) ∧
    (∀ d, (∀ runtime, w.runtimes.get? d = some runtime →
        runtime.status = .suspended ∨ runtime.status = .failed ∨
          runtime.status = .terminated) →
      w.allocator.getAllocation d = ∅) ∧
    (∀ d b runtime other, d ≠ b → w.runtimes.get? d = some runtime →
      w.runtimes.get? b = some other → InService runtime → InService other →
      Disjoint (originalDevices runtime).toFinset
        (originalDevices other).toFinset) := by
  have hsound := (run_sound ownErrors_durable h).1
  have hheld : ∀ d runtime, w.runtimes.get? d = some runtime →
      InService runtime →
      w.allocator.getAllocation d = (originalDevices runtime).toFinset :=
    fun d runtime hget =>
      ((hsound d).fits runtime hget).inService ownErrors_floored
  refine ⟨hheld, fun d hsettled => ?_,
    fun d b runtime other hne hget hother hin hotherIn => ?_⟩
  · cases hget : w.runtimes.get? d with
    | none => exact (hsound d).gone hget
    | some runtime =>
        have hfits := (hsound d).fits runtime hget
        rcases hsettled runtime hget with hstatus | hstatus | hstatus
        · exact hfits.suspended ownErrors_polite hstatus
        · exact hfits.stopped (.inl hstatus)
        · exact hfits.stopped (.inr hstatus)
  · rw [← hheld d runtime hget hin, ← hheld b other hother hotherIn]
    refine Finset.disjoint_left.mpr fun x hx => ?_
    exact ((hsound d).fits runtime hget).clean ownErrors_floored
      ownErrors_polite hin x hx b hne.symm ⟨other, hother, hotherIn⟩

/-! ## A node with one pod -/

theorem podHost_ownErrors (leases : List LeaseAssignment) :
    (podHost leases).Respects ownErrors := by
  intro w e
  cases e with
  | upsertRuntime runtime => exact (rfl : World.isOk (.ok ()) = true)
  | removeRuntime d => exact (rfl : World.isOk (.ok ()) = true)
  | getWorkload id => exact (by decide : 1 ≤ requestedGpus ubuntuPod)
  | _ => exact trivial

def onePodNode : World :=
  replayed (podHost [leaseOn "pod-1"]) (reconcileOnce {} "hotkey") (.init {})

theorem onePodNode_run : NodeRun {} (host ownErrors) onePodNode := by
  obtain ⟨r, hexec⟩ := replayed_exec (podHost_ownErrors [leaseOn "pod-1"])
    (p := reconcileOnce {} "hotkey") (w := .init {}) rfl
  exact .serve .boot (.reconcile "hotkey") hexec

def sshPod : WorkloadSpec :=
  { ubuntuPod with
    metadata := { template := some "ubuntu-ssh" } }

def sshHost (leases : List LeaseAssignment) : Environment :=
  cooperative leases (fun _ => some sshPod) fun _ => none

def cpuPodNode : World :=
  replayed (sshHost [leaseOn "pod-1"]) (reconcileOnce {} "hotkey") (.init {})

/-- A pod that is ready still holds its device after a restart. -/
theorem run_devices_onePodNode :
    ∃ runtime, (onePodNode.restart {}).runtimes.get? "pod-1" = some runtime ∧
      runtime.status = .ready ∧ originalDevices runtime = [0] ∧
      (onePodNode.restart {}).allocator.getAllocation "pod-1" =
        (originalDevices runtime).toFinset :=
  ⟨_, rfl, rfl, rfl,
    (run_devices (.restart onePodNode_run)).1 _ _ rfl (.inr rfl)⟩

/-! ## Reports -/

/-- The state file can be written; a report that is lost is an HTTP error. -/
def lossyReports : Permitted
  | .upsertRuntime _, r | .removeRuntime _, r => World.isOk r = true
  | .updateDeploymentStatus _, .error x => x.isControlPlaneHTTPError = true
  | _, _ => True

theorem lossyReports_reliable : Reliable lossyReports where
  upsert _ _ h := nomatch h
  remove _ _ h := nomatch h
  update _ _ h := h

/-- The last status that the control plane accepted from this node. -/
def Ledger.lastAccepted (v : Ledger) : Option DeploymentState :=
  (v.sent.filter Prod.snd).getLast?.map Prod.fst

theorem Ledger.lastAccepted_of_last {v : Ledger} {state : DeploymentState}
    (h : v.sent.getLast? = some (state, true)) :
    v.lastAccepted = some state := by
  obtain ⟨before, hsent⟩ := List.getLast?_eq_some_iff.mp h
  simp [lastAccepted, hsent, List.filter_append]

/--
A record that is ready, failed or suspended was reported as that and as nothing
else since; the control plane knows it unless that one report was lost.
-/
theorem run_reports (h : NodeRun s (host lossyReports) w) {d : String}
    {runtime : UnifiedRuntimeRecord} {state : DeploymentState}
    (hget : w.runtimes.get? d = some runtime)
    (hstate : reportedState runtime.status = some state) :
    ∃ accepted, (w.ledger d).sent.getLast? = some (state, accepted) ∧
      (accepted = true → (w.ledger d).lastAccepted = some state) := by
  have hsound := (run_sound lossyReports_reliable.toDurable h).1
  have hlast := ((hsound d).fits runtime hget).reported lossyReports_reliable
    state hstate
  unfold Ledger.lastSent at hlast
  obtain ⟨⟨state', accepted⟩, hsent, hfst⟩ := Option.map_eq_some_iff.mp hlast
  cases hfst
  refine ⟨accepted, hsent, fun haccepted => ?_⟩
  subst haccepted
  exact Ledger.lastAccepted_of_last hsent

def deafControlPlane (leases : List LeaseAssignment) : Environment := fun w e =>
  match e with
  | .updateDeploymentStatus _ => { result := .error .controlPlaneHTTPError }
  | e => podHost leases w e

def hearing : Permitted
  | .updateDeploymentStatus _, r => World.isOk r = true
  | .listLeases _, r => World.isOk r = true
  | .getDeployment _, r => World.isOk r = true
  | .getWorkload _, r => World.isOk r = true
  | e, r => lossyReports e r

theorem deafControlPlane_lossyReports (leases : List LeaseAssignment) :
    (deafControlPlane leases).Respects lossyReports := by
  intro w e
  cases e with
  | upsertRuntime runtime => exact (rfl : World.isOk (.ok ()) = true)
  | removeRuntime d => exact (rfl : World.isOk (.ok ()) = true)
  | updateDeploymentStatus update => exact rfl
  | _ => exact trivial

theorem podHost_hearing (leases : List LeaseAssignment) :
    (podHost leases).Respects hearing := by
  intro w e
  cases e with
  | upsertRuntime runtime => exact (rfl : World.isOk (.ok ()) = true)
  | removeRuntime d => exact (rfl : World.isOk (.ok ()) = true)
  | updateDeploymentStatus update => exact (rfl : World.isOk (.ok ()) = true)
  | listLeases hotkey => exact (rfl : World.isOk (.ok leases) = true)
  | getDeployment d => exact (rfl : World.isOk (.ok none) = true)
  | getWorkload id => exact (rfl : World.isOk (.ok (some ubuntuPod)) = true)
  | _ => exact trivial

/-- The pod was started while the control plane heard nothing. -/
def unheardNode : World :=
  replayed (deafControlPlane [leaseOn "pod-1"]) (reconcileOnce {} "hotkey")
    (.init {})

theorem unheardNode_run : NodeRun {} (host lossyReports) unheardNode := by
  obtain ⟨r, hexec⟩ :=
    replayed_exec (deafControlPlane_lossyReports [leaseOn "pod-1"])
      (p := reconcileOnce {} "hotkey") (w := .init {}) rfl
  exact .serve .boot (.reconcile "hotkey") hexec

theorem run_reports_unheardNode :
    ∃ accepted, (unheardNode.ledger "pod-1").sent.getLast? =
        some (.ready, accepted) ∧
      (accepted = true →
        (unheardNode.ledger "pod-1").lastAccepted = some .ready) :=
  run_reports unheardNode_run (d := "pod-1") rfl rfl

/-- A lost report of a ready pod is not made up for by a pass that is heard. -/
theorem lostReport_not_resent :
    NodeRun {} (host lossyReports) unheardNode ∧
    ∃ w, Exec (host hearing) (reconcileOnce {} "hotkey") unheardNode
        (.ok ()) w ∧
      (w.log.drop unheardNode.log.length)[1]? =
        some ⟨.listLeases "hotkey", .ok [leaseOn "pod-1"]⟩ ∧
      isMine {} (leaseOn "pod-1") = true ∧
      (w.runtimes.get? "pod-1").map (·.status) = some .ready ∧
      (w.ledger "pod-1").lastAccepted = none := by
  refine ⟨unheardNode_run, replayed (podHost [leaseOn "pod-1"])
    (reconcileOnce {} "hotkey") unheardNode, ?_, rfl, rfl, rfl, rfl⟩
  exact replay_exec (podHost_hearing [leaseOn "pod-1"]) rfl

end NodeAgent
