import NodeAgent.Application.Steady

/-!
# What a restart finds running

Whether the allocator that is rebuilt from the state file has the GPUs of the
containers that run, wherever in a request the agent dies.
-/

namespace NodeAgent

open Effectful Program Agent

variable {s : Settings} {permitted : Permitted} {w w' w₀ : World}
variable {d : String} {α : Type} {runtime : UnifiedRuntimeRecord}

/-- No release of what a container uses that stopping the record leaves running. -/
def Tenancy.Forgoes (s : Settings) (v : Tenancy) : Effect → Prop
  | .release _ => v.Releasable s
  | _ => True

/-- The host, while `d` releases only what it can stop using. -/
def prudentHost (s : Settings) (d : String) (permitted : Permitted) :
    Machine Effect Effect.Ret Exn World :=
  (host permitted).when fun w e => e.owner = some d → (w.tenancy d).Forgoes s e

def Tenancy.prudent (s : Settings) (permitted : Permitted) :
    Machine Effect Effect.Ret Exn Tenancy :=
  (machine s permitted).when (Forgoes s)

theorem prudentHost_refines : Refines (prudentHost s d permitted) :=
  fun _ _ _ _ h => h.2.2

theorem Tenancy.prudent_prudent :
    Prudent s permitted (prudent s permitted) where
  obeys _ _ _ _ h := h.2
  releases _ _ _ _ h := h.1

/-- Where `d` has what is steady. -/
abbrev Stable (s : Settings) (d : String) : World → Prop :=
  Tenants s d (Tenancy.Steady s)

/-! ## Handlers -/

theorem sat_stable (hworks : Works permitted) {p : Agent α}
    {post : Except Exn α → Tenancy → Prop}
    (hlocal : ∀ own, Owned w ≤ own →
      Within (Typed s own) (Local s own d) p fun _ => True)
    (h : Stable s d w)
    (hp : Sat (Tenancy.prudent s permitted) (Tenancy.Permits s) p post
      (w.tenancy d)) :
    Sat (prudentHost s d permitted) (fun w' _ => Stable s d w') p
      (fun _ w' => Stable s d w' ∧ Owned w ≤ Owned w') w := by
  have hsteady := hp.keeping (I := Tenancy.Steady s)
    (fun v e r v' hv hpermits hstep => hv.step hpermits hstep.2.2.2) h.2
  refine (sat_tenancy (N := Tenancy.prudent s permitted) prudentHost_refines
    (fun w e r w' htenanted hlocal hstep => ⟨?_, hstep.2.1,
      host_typed s hstep.2, host_tenancy hworks htenanted hlocal hstep.2⟩)
    hlocal h.1 hsteady).mono (fun _ _ h => ⟨h.1, h.2.2.2⟩)
    fun _ _ h => ⟨⟨h.1, h.2.2.2.2⟩, h.2.1⟩
  cases e with
  | release b =>
      obtain rfl : b = d := hlocal.owner_eq rfl
      exact hstep.1 rfl
  | _ => trivial

/-- A loop over records, of which that of `d` is what memory has till its turn. -/
def Awaiting (s : Settings) (d : String) (w₀ : World)
    (runtimes : List UnifiedRuntimeRecord) (w : World) : Prop :=
  (runtimes.map (·.deploymentId)).Nodup ∧ Owned w₀ ≤ Owned w ∧
    Tenants s d (fun v => v.Steady s ∧ ∀ runtime ∈ runtimes,
      runtime.deploymentId = d → v.record = some runtime) w

theorem Awaiting.stable {runtimes : List UnifiedRuntimeRecord}
    (h : Awaiting s d w₀ runtimes w) : Stable s d w :=
  ⟨h.2.2.1, h.2.2.2.1⟩

theorem sat_awaiting (hworks : Works permitted) {p : Agent α}
    {rest : List UnifiedRuntimeRecord}
    (hlocal : ∀ own, Owned w₀ ≤ own →
      Within (Typed s own) (Local s own runtime.deploymentId) p fun _ => True)
    (hp : ∀ v : Tenancy, v.Steady s → v.record = some runtime →
      Sat (Tenancy.prudent s permitted) (Tenancy.Permits s) p
        (fun _ _ => True) v)
    (h : Awaiting s d w₀ (runtime :: rest) w) :
    Sat (prudentHost s d permitted) (fun w' _ => Stable s d w') p
      (fun _ w' => Awaiting s d w₀ rest w') w := by
  obtain ⟨hnodup, hle, htenanted, hsteady, hrecord⟩ := h
  obtain ⟨hother, hnodup⟩ := List.nodup_cons.mp hnodup
  have hlocal' := fun own (hown : Owned w ≤ own) => hlocal own (hle.trans hown)
  by_cases hid : runtime.deploymentId = d
  · have hget := hrecord runtime (by simp) hid
    refine (sat_stable hworks (fun own hown => hid ▸ hlocal' own hown)
      ⟨htenanted, hsteady⟩ (hp _ hsteady hget)).weaken fun _ w' h' => ?_
    refine ⟨hnodup, hle.trans h'.2, h'.1.1, h'.1.2, ?_⟩
    intro other hmem hsame
    exact absurd (List.mem_map.mpr ⟨other, hmem, hsame.trans hid.symm⟩) hother
  · have henduring : Enduring fun v : Tenancy => v.Steady s ∧
        ∀ other ∈ rest, other.deploymentId = d → v.record = some other := by
      intro v v' hfades hv
      exact ⟨Tenancy.steady_enduring v v' hfades hv.1,
        fun other hmem hsame => hfades.record.trans (hv.2 other hmem hsame)⟩
    refine (sat_other prudentHost_refines
      (henduring.unaffected prudentHost_refines) hid hlocal'
      ⟨htenanted, hsteady, fun other hmem =>
        hrecord other (List.mem_cons_of_mem _ hmem)⟩).mono
      (fun _ _ h' => ⟨h'.1, h'.2.1⟩) fun _ w' h' => ?_
    exact ⟨hnodup, hle.trans h'.2, h'.1⟩

/-! ## Requests -/

section Requests

theorem stable_quiet (e : Effect) (he : Framing e) :
    Keeps (prudentHost s d permitted) (fun w _ => Stable s d w) (Stable s d)
      (perform e) :=
  keeps_perform (fun _ h => h) fun _ _ _ h hstep =>
    tenants_undisturbed prudentHost_refines e he.owner_eq_none _ _ _ h hstep

theorem snapshot_stable {f : List UnifiedRuntimeRecord → Agent α}
    (hf : ∀ w₀ (runtimes : List UnifiedRuntimeRecord),
      (∀ runtime ∈ runtimes,
        Belongs s (Owned w₀) runtime.deploymentId runtime) →
      ∀ w, Awaiting s d w₀ runtimes w →
        Sat (prudentHost s d permitted) (fun w' _ => Stable s d w')
          (f runtimes) (fun _ w' => Stable s d w') w) :
    Keeps (prudentHost s d permitted) (fun w _ => Stable s d w) (Stable s d)
      (snapshotRuntimeItems >>= f) := by
  intro w h
  refine sat_step_bind prudentHost_refines h fun a _ hstep => ?_
  have hafter := tenants_undisturbed prudentHost_refines _ rfl _ _ _ h hstep
  have hle := host_owned (prudentHost_refines.host hstep)
  refine hf w _ (fun runtime hmem => h.1.belonging _ _
    (Table.mem_snapshot_iff.mp hmem)) _ ⟨Table.snapshot_nodup _, hle,
      hafter.1, hafter.2, ?_⟩
  rintro runtime hmem rfl
  exact Table.mem_snapshot_iff.mp hmem

variable (hworks : Works permitted)
include hworks

theorem recoverRuntimeState_stable :
    Keeps (prudentHost s d permitted) (fun w _ => Stable s d w) (Stable s d)
      (recoverRuntimeState s) := by
  refine keeps_recovery stable_quiet
    (snapshot_stable fun w₀ runtimes hbelongs w h => ?_)
  have hloop : ∀ (m n : Nat) (w : World), Awaiting s d w₀ runtimes w →
      Sat (prudentHost s d permitted) (fun w' _ => Stable s d w')
        (recoverLoop s m n runtimes) (fun _ w' => Stable s d w') w := by
    clear h
    induction runtimes with
    | nil => exact fun _ _ _ h => h.stable
    | cons runtime rest ih =>
        intro m n w h
        have hrest := ih fun other hmem =>
          hbelongs other (List.mem_cons_of_mem _ hmem)
        unfold recoverLoop
        split
        · refine hrest m n w ⟨(List.nodup_cons.mp h.1).2, h.2.1, h.2.2.1,
            h.2.2.2.1, fun other hmem => ?_⟩
          exact h.2.2.2.2 other (List.mem_cons_of_mem _ hmem)
        · refine Sat.bind (sat_awaiting hworks (fun own hle => Within.weaken
            (recoverRuntime_local ((hbelongs runtime (by simp)).grow hle))
            fun _ _ => trivial) (fun v hsteady hget =>
              Tenancy.recoverRuntime_permits Tenancy.prudent_prudent hget
                (hsteady.pinned runtime (.inl hget))) h)
            (fun kept w₁ h₁ => ?_) fun x w₁ h₁ => h₁.stable
          split
          · exact hrest _ _ w₁ h₁
          · exact hrest _ _ w₁ h₁
  exact hloop 0 0 w h

theorem terminateDeployment_stable (b : String) :
    Keeps (prudentHost s d permitted) (fun w _ => Stable s d w) (Stable s d)
      (terminateDeployment s b) := by
  intro w h
  have hlocal : ∀ own, Owned w ≤ own → Within (Typed s own) (Local s own b)
      (terminateDeployment s b) fun _ => True :=
    fun own _ => terminateDeployment_local b rfl
  by_cases hid : b = d
  · subst hid
    exact (sat_stable hworks hlocal h (Tenancy.terminateDeployment_permits
      Tenancy.prudent_prudent b h.2)).weaken fun _ _ h' => h'.1
  · exact (sat_other prudentHost_refines
      (Tenancy.steady_enduring.unaffected prudentHost_refines) hid hlocal
      h).weaken fun _ _ h' => h'.1

variable (hfloor : Floored permitted)
include hfloor

theorem handleLease_stable (lease : LeaseAssignment) :
    Keeps (prudentHost s d permitted) (fun w _ => Stable s d w) (Stable s d)
      (handleLease s lease) := by
  intro w h
  by_cases hid : lease.deploymentId = d
  · exact (sat_stable hworks (fun _ _ => handleLease_local hid) h
      (Tenancy.handleLease_permits Tenancy.prudent_prudent hfloor lease
        h.2)).weaken fun _ _ h' => h'.1
  · exact (sat_other prudentHost_refines
      (Tenancy.steady_enduring.unaffected prudentHost_refines) hid
      (fun _ _ => handleLease_local rfl) h).weaken fun _ _ h' => h'.1

theorem reconcileOnce_stable (hotkey : String) :
    Keeps (prudentHost s d permitted) (fun w _ => Stable s d w) (Stable s d)
      (reconcileOnce s hotkey) := by
  refine keeps_pass (L := fun _ => True) stable_quiet (fun _ _ _ _ => trivial)
    (fun _ _ lease _ _ => handleLease_stable hworks hfloor lease)
    fun leases _ => snapshot_stable fun w₀ runtimes hbelongs w h => ?_
  refine sat_forEach_rest (K := fun rest w => Awaiting s d w₀ rest w ∧
    ∀ runtime ∈ rest, Belongs s (Owned w₀) runtime.deploymentId runtime)
    (fun runtime rest w h => ?_) (fun w h => h.1.stable) ⟨h, hbelongs⟩
  refine (sat_awaiting hworks (fun own hle => cleanUp_local
    ((h.2 runtime (by simp)).grow hle) _ _) (fun v hsteady hget =>
      Tenancy.cleanUp_permits Tenancy.prudent_prudent _ _ hget
        (hsteady.pinned runtime (.inl hget))) h.1).weaken fun r w' h' => ?_
  cases r with
  | ok => exact ⟨h', fun other hmem => h.2 other (List.mem_cons_of_mem _ hmem)⟩
  | error x => exact h'.stable

theorem request_stable (request : Request) :
    Keeps (prudentHost s d permitted) (fun w _ => Stable s d w) (Stable s d)
      (request.program s) := by
  cases request with
  | reconcile hotkey => exact reconcileOnce_stable hworks hfloor hotkey
  | recover =>
      exact keeps_bind (recoverRuntimeState_stable hworks)
        fun _ => keeps_pure _
  | terminate b =>
      exact keeps_bind (terminateDeployment_stable hworks b)
        fun _ => keeps_pure _

end Requests

/-! ## Runs -/

/-- As `CrashRun`, where the agent dies only in the given states. -/
inductive CutRun (s : Settings) (M : Machine Effect Effect.Ret Exn World)
    (dies : World → Prop) : World → Prop
  | boot : CutRun s M dies (.init s)
  | serve {w w' : World} {r : Except Exn Unit} (before : CutRun s M dies w)
      (request : Request) (exec : Exec M (request.program s) w r w') :
      CutRun s M dies w'
  | crash {w w' : World} {rest : Agent Unit} (before : CutRun s M dies w)
      (request : Request) (reached : Reaches M (request.program s) w rest w')
      (hdies : dies w') : CutRun s M dies (w'.restart s)

theorem init_stable : Stable s d (.init s) := by
  refine ⟨init_tenanted, fun c hc => ?_, fun c hc => ?_, ?_⟩
  · cases hc
  · cases hc
  · rintro runtime _ _ c hc
    cases hc

theorem restart_stable (h : Stable s d w)
    (hrevived : (w.tenancy d).revived = false) :
    Stable s d (w.restart s) := by
  have hfiled : ∀ c ∈ (w.tenancy d).containers, Tenancy.Uses s c →
      ∃ runtime, w.stateFile.get? d = some runtime ∧
        Tenancy.Secures s runtime c := by
    intro c hc huses
    rcases h.2.filed c hc huses with htrue | hfound
    · rw [hrevived] at htrue
      cases htrue
    · exact hfound
  refine ⟨h.1.restart, fun c hc huses => ?_, fun c hc huses => ?_, ?_⟩
  · obtain ⟨runtime, hget, hsecures⟩ := hfiled c hc huses
    exact ⟨runtime, hget, .inl hsecures⟩
  · exact .inr (hfiled c hc huses)
  · rintro runtime (hget | hget)
    · exact h.2.pinned runtime (.inr hget)
    · exact h.2.pinned runtime (.inr hget)

theorem reached_stable (hworks : Works permitted) (hfloor : Floored permitted)
    (h : Stable s d w) {request : Request} {rest : Agent Unit}
    (hreached : Reaches (prudentHost s d permitted) (request.program s) w rest
      w') : Stable s d w' :=
  (request_stable hworks hfloor request w h).cut (fun _ _ h => h)
    (fun _ _ h => h) hreached

theorem cutRun_stable (hworks : Works permitted) (hfloor : Floored permitted)
    (h : CutRun s (prudentHost s d permitted)
      (fun w => (w.tenancy d).revived = false) w) : Stable s d w := by
  induction h with
  | boot => exact init_stable
  | serve before request exec ih => exact reached_stable hworks hfloor ih exec
  | crash before request reached hdies ih =>
      exact restart_stable (reached_stable hworks hfloor ih reached) hdies

/-- Docker commands succeed, and a workload asks for at least one GPU. -/
def working : Permitted := fun e r => dockerWorks e r ∧ floored e r

/--
Wherever the agent dies, it finds the GPUs of a deployment's running containers
held by the deployment, if it never released GPUs that a container went on using
without being named by the record, and did not die between a `docker start` and
the write of the record after it.
-/
theorem restart_holds_running
    (hrun : CutRun s (prudentHost s d working)
      (fun w => (w.tenancy d).revived = false) w)
    (request : Request) {rest : Agent Unit}
    (hreached : Reaches (prudentHost s d working) (request.program s) w rest w')
    (hdies : (w'.tenancy d).revived = false) :
    ∀ c ∈ w'.containers, c.owner = d → c.running = true →
      c.devices s.gpuCount ⊆ (w'.restart s).allocator.getAllocation d := by
  have hworks : Works working := fun _ _ h => h.1
  have hfloor : Floored working := fun _ _ h => h.2
  have hstable := reached_stable hworks hfloor
    (cutRun_stable hworks hfloor hrun) hreached
  intro c hc howner hrunning
  by_cases hnone : c.devices s.gpuCount = ∅
  · rw [hnone]
    exact Finset.empty_subset _
  · have hmem : c ∈ (w'.tenancy d).containers :=
      List.mem_filter.mpr ⟨hc, by simpa using howner⟩
    rcases hstable.2.filed c hmem ⟨hrunning, hnone⟩ with htrue | hfiled
    · rw [hdies] at htrue
      cases htrue
    · obtain ⟨runtime, hget, hholds, hlists⟩ := hfiled
      have hget : w'.stateFile.get? d = some runtime := hget
      rw [getAllocation_restart, hget]
      simp only [hholds, if_true]
      exact hlists

/-! ## A pod that starts, and one that is resumed -/

theorem podHost_working (leases : List LeaseAssignment) :
    (podHost leases).Respects working := by
  intro w e
  cases e with
  | getWorkload id => exact ⟨trivial, (by decide : 1 ≤ requestedGpus ubuntuPod)⟩
  | dockerRun command => exact ⟨rfl, trivial⟩
  | dockerRm owner target => exact ⟨rfl, trivial⟩
  | dockerStop owner target => exact ⟨rfl, trivial⟩
  | dockerStart owner target => exact ⟨rfl, trivial⟩
  | _ => exact ⟨trivial, trivial⟩

def isNoRelease (_ : World) : Effect → Bool
  | .release _ => false
  | _ => true

theorem podHost_prudent (leases : List LeaseAssignment) :
    Follows (prudentHost s d working) (podHost leases) isNoRelease := by
  intro w e hcheck hallows
  refine ⟨fun _ => ?_, podHost_working leases w e, podHost leases w e, hallows,
    rfl⟩
  cases e with
  | release b => cases hcheck
  | _ => trivial

/-- A container runs, and its id is in no record yet. -/
def launchingPod : Agent Unit × World :=
  replayFor (podHost [leaseOn "pod-1"]) isNoRelease 16
    (reconcileOnce {} "hotkey") (.init {})

theorem restart_holds_running_launchingPod :
    ∃ c ∈ launchingPod.2.containers, c.owner = "pod-1" ∧ c.running = true ∧
      c.devices ({} : Settings).gpuCount ⊆
        (launchingPod.2.restart {}).allocator.getAllocation "pod-1" := by
  have hreached : Reaches (prudentHost {} "pod-1" working)
      (reconcileOnce {} "hotkey") (.init {}) launchingPod.1 launchingPod.2 :=
    replayFor_reaches (podHost_prudent [leaseOn "pod-1"]) 16 _ _
  have hdies : (launchingPod.2.tenancy "pod-1").revived = false := by
    decide +kernel
  have hholds := restart_holds_running .boot (.reconcile "hotkey") hreached
    hdies
  obtain ⟨c, hc, howner, hrunning⟩ : ∃ c ∈ launchingPod.2.containers,
      c.owner = "pod-1" ∧ c.running = true :=
    ⟨_, List.mem_singleton_self _, rfl, rfl⟩
  exact ⟨c, hc, howner, hrunning, hholds c hc howner hrunning⟩

def suspendedPod : World :=
  replayed (podHost [suspendedLease "pod-1"]) (reconcileOnce {} "hotkey")
    onePodNode

/-- The agent dies between `docker start` and writing that the pod is ready. -/
def revivedPod : Agent Unit × World :=
  replayFor (podHost [leaseOn "pod-1"]) (fun _ _ => true) 5
    (reconcileOnce {} "hotkey") suspendedPod

/-- The restarted agent holds nothing for a container that runs on GPU 0. -/
theorem revived_pod_unheld :
    CrashRun {} (host working) suspendedPod ∧
    Reaches (host working) (reconcileOnce {} "hotkey") suspendedPod
      revivedPod.1 revivedPod.2 ∧
    ∃ c ∈ revivedPod.2.containers, c.owner = "pod-1" ∧ c.running = true ∧
      c.devices 1 = {0} ∧
      ¬c.devices 1 ⊆
        (revivedPod.2.restart {}).allocator.getAllocation "pod-1" := by
  obtain ⟨r, hstart⟩ := replayed_exec (podHost_working [leaseOn "pod-1"])
    (p := reconcileOnce {} "hotkey") (w := .init {}) rfl
  obtain ⟨r', hsuspend⟩ := replayed_exec
    (podHost_working [suspendedLease "pod-1"])
    (p := reconcileOnce {} "hotkey") (w := onePodNode) rfl
  have hreached : Reaches (host working) (reconcileOnce {} "hotkey")
      suspendedPod revivedPod.1 revivedPod.2 :=
    replayFor_reaches (podHost_working [leaseOn "pod-1"]).follows 5 _ _
  have hheld : (revivedPod.2.restart {}).allocator.getAllocation "pod-1" = ∅ :=
    rfl
  have hcontainer : ∃ c ∈ revivedPod.2.containers, c.owner = "pod-1" ∧
      c.running = true ∧ c.gpus = .devices [0] :=
    ⟨_, List.mem_singleton_self _, rfl, rfl, rfl⟩
  obtain ⟨c, hc, howner, hrunning, hgpus⟩ := hcontainer
  refine ⟨.serve (.serve .boot (.reconcile "hotkey") hstart)
    (.reconcile "hotkey") hsuspend, hreached, c, hc, howner, hrunning, ?_⟩
  rw [hheld, Container.devices, hgpus]
  decide

end NodeAgent
