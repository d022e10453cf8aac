import NodeAgent.Application.Node
import NodeAgent.Foundation.Keeps

/-!
# Passes keep the node's books sound

A reconcile pass and a recovery pass are loops of handlers, one deployment at a
time, between steps that no books see.
-/

namespace NodeAgent

open Effectful Program Agent

variable {s : Settings} {permitted : Permitted} {w : World}

/-- The leases a pass goes by: none when the control plane cannot be reached. -/
def heard : Except Exn (List LeaseAssignment) → List LeaseAssignment
  | .ok leases => leases
  | .error _ => []

/-- The deployments that have a lease for this node. -/
def activeIds (s : Settings) (leases : List LeaseAssignment) : List String :=
  (leases.filter (isMine s)).map (·.deploymentId)

/-- The calls of a pass that no handler makes. -/
def Framing : Effect → Prop
  | .acquireReconcileLock | .releaseReconcileLock | .listLeases _
  | .snapshotRuntimeItems => True
  | _ => False

theorem Framing.owner_eq_none {e : Effect} (h : Framing e) :
    e.owner = none := by
  cases e <;> first | rfl | exact h.elim

section Shape

variable {M : Machine Effect Effect.Ret Exn World}
variable {guard : World → Effect → Prop} {inv : World → Prop}
variable (hquiet : ∀ e : Effect, Framing e → Keeps M guard inv (perform e))
include hquiet

/--
The shape of a pass: handlers of the leases it goes by, then of the runtimes in
a snapshot.  `L` is what is known of a lease list.
-/
theorem keeps_pass {L : List LeaseAssignment → Prop}
    {hotkey : String}
    (hlist : ∀ w r w', M.Step w (.listLeases hotkey) r w' → L (heard r))
    (hlease : ∀ leases, L leases → ∀ lease ∈ leases, isMine s lease = true →
      Keeps M guard inv (handleLease s lease))
    (hrest : ∀ leases, L leases → Keeps M guard inv (do
      let runtimes ← snapshotRuntimeItems
      forEach (cleanUp s (activeIds s leases)
        (leases.map (·.deploymentId))) runtimes)) :
    Keeps M guard inv (reconcileOnce s hotkey) := by
  have hsync : ∀ w, inv w → Sat M guard (syncLeases hotkey)
      (fun r w' => inv w' ∧ ∀ leases, r = .ok leases → L leases) w := by
    intro w h
    obtain ⟨hguard, hstep⟩ := hquiet (.listLeases hotkey) trivial w h
    refine sat_bind'.mpr (sat_attempt.mpr ⟨hguard, fun r w' hs => ?_⟩)
    have hinv := hstep r w' hs
    have hheard := hlist w r w' hs
    cases r with
    | ok leases =>
        refine ⟨hinv, fun leases' heq => ?_⟩
        cases heq
        exact hheard
    | error x =>
        rw [sat_done, andThen_ok]
        dsimp only
        split
        · refine ⟨hinv, fun leases' heq => ?_⟩
          cases heq
          exact hheard
        · exact ⟨hinv, fun _ heq => nomatch heq⟩
  have hpass : Keeps M guard inv (reconcileOnceLocked s hotkey) := by
    intro w h
    refine sat_bind'.mpr ((hsync w h).weaken fun r w' hr => ?_)
    cases r with
    | error x => exact hr.1
    | ok leases =>
        refine keeps_bind (keeps_forEach fun lease hmem => ?_)
          (fun _ => hrest leases (hr.2 leases rfl)) w' hr.1
        obtain ⟨hmem, hmine⟩ := List.mem_filter.mp hmem
        exact hlease leases (hr.2 leases rfl) lease hmem hmine
  unfold reconcileOnce underReconcileLock
  refine keeps_bind (hquiet .acquireReconcileLock trivial) fun acquired => ?_
  split
  · refine keeps_bind (keeps_attempt hpass) fun r => ?_
    refine keeps_bind (hquiet .releaseReconcileLock trivial) fun _ => ?_
    split
    · exact keeps_pure _
    · exact keeps_raise _
  · exact keeps_pure _

theorem keeps_reconcileOnce {L : List LeaseAssignment → Prop} (hM : Refines M)
    {hotkey : String}
    (hlist : ∀ w r w', M.Step w (.listLeases hotkey) r w' → L (heard r))
    (hlease : ∀ leases, L leases → ∀ lease ∈ leases, isMine s lease = true →
      Keeps M guard inv (handleLease s lease))
    (hclean : ∀ leases, L leases → ∀ w runtime, inv w →
      runtime ∈ w.runtimes.snapshot →
      Keeps M guard inv (cleanUp s (activeIds s leases)
        (leases.map (·.deploymentId)) runtime)) :
    Keeps M guard inv (reconcileOnce s hotkey) := by
  refine keeps_pass hquiet hlist hlease fun leases hleases w h => ?_
  obtain ⟨hguard, hstep⟩ := hquiet .snapshotRuntimeItems trivial w h
  refine sat_step_bind hM hguard fun a _ hs => ?_
  exact keeps_forEach (fun runtime hmem =>
    hclean leases hleases w runtime h hmem) _ (hstep _ _ hs)

theorem keeps_recovery
    (hlocked : Keeps M guard inv (recoverRuntimeStateLocked s)) :
    Keeps M guard inv (recoverRuntimeState s) := by
  unfold recoverRuntimeState underReconcileLock
  refine keeps_bind (hquiet .acquireReconcileLock trivial) fun acquired => ?_
  split
  · refine keeps_bind (keeps_attempt hlocked) fun r => ?_
    refine keeps_bind (hquiet .releaseReconcileLock trivial) fun _ => ?_
    split
    · exact keeps_pure _
    · exact keeps_raise _
  · exact keeps_pure _

theorem keeps_recoverRuntimeState
    (hrecover : ∀ runtime, Keeps M guard inv (recoverRuntime s runtime)) :
    Keeps M guard inv (recoverRuntimeState s) := by
  have hloop : ∀ (runtimes : List UnifiedRuntimeRecord) (m n : Nat),
      Keeps M guard inv (recoverLoop s m n runtimes) := by
    intro runtimes
    induction runtimes with
    | nil => exact fun _ _ => keeps_pure _
    | cons runtime rest ih =>
        intro m n
        unfold recoverLoop
        split
        · exact ih m n
        · refine keeps_bind (hrecover runtime) fun kept => ?_
          split
          · exact ih _ _
          · exact ih _ _
  refine keeps_recovery hquiet ?_
  exact keeps_bind (hquiet .snapshotRuntimeItems trivial)
    fun runtimes => hloop runtimes 0 0

end Shape

/-! ## Sound books -/

theorem writes_of_untouched {e : Effect}
    (he : World.touchesBooks e = false) : w.Writes permitted e := by
  cases e with
  | upsertRuntime runtime => simp [World.touchesBooks] at he
  | removeRuntime d => simp [World.touchesBooks] at he
  | _ => exact trivial

theorem quiet_sound (e : Effect) (he : Framing e) :
    Keeps (host permitted) (World.Writes permitted)
      (NodeSound permitted) (perform e) := by
  have htouches := World.untouched_of_owner he.owner_eq_none
  exact keeps_perform (fun _ _ => writes_of_untouched htouches)
    fun _ _ _ h hstep => h.congr fun d => host_untouched htouches hstep d

theorem reconcileOnce_sound (hotkey : String) :
    Keeps (host permitted) (World.Writes permitted)
      (NodeSound permitted) (reconcileOnce s hotkey) := by
  refine keeps_reconcileOnce (L := fun _ => True) quiet_sound host_refines
    (fun _ _ _ _ => trivial) (fun _ _ lease _ _ w h => ?_)
    (fun _ _ _ runtime _ _ w h => ?_)
  · exact sat_handler (handleLease_local rfl)
      (fun h => Ledger.handleLease_ends lease h) h
  · exact sat_handler (cleanUp_local (Ledger.belongs_any runtime) _ _)
      (fun h => Ledger.cleanUp_ends _ _ h) h

theorem recoverRuntimeState_sound :
    Keeps (host permitted) (World.Writes permitted)
      (NodeSound permitted) (recoverRuntimeState s) := by
  refine keeps_recoverRuntimeState quiet_sound fun runtime w h => ?_
  exact sat_handler (Within.weaken
    (recoverRuntime_local (Ledger.belongs_any runtime)) fun _ _ => trivial)
    (fun h => Ledger.recoverRuntime_ends h) h

theorem terminateDeployment_sound (d : String) :
    Keeps (host permitted) (World.Writes permitted)
      (NodeSound permitted) (terminateDeployment s d) :=
  fun _ h => sat_handler (terminateDeployment_local d rfl)
    (fun h => Ledger.terminateDeployment_ends d h) h

/-! ## Restarts -/

theorem getAllocation_foldl_of_not_mem {d : String} {g : GpuAllocator}
    {runtimes : List UnifiedRuntimeRecord}
    (h : ∀ runtime ∈ runtimes, runtime.deploymentId ≠ d) :
    (runtimes.foldl (fun g runtime => g.rehydrate runtime.deploymentId
      (originalDevices runtime)) g).getAllocation d = g.getAllocation d := by
  induction runtimes generalizing g with
  | nil => rfl
  | cons runtime rest ih =>
      rw [List.foldl_cons, ih fun r hr => h r (by simp [hr])]
      exact GpuAllocator.getAllocation_assign_of_ne g _ (h runtime (by simp))

theorem getAllocation_foldl_of_mem {g : GpuAllocator}
    {runtimes : List UnifiedRuntimeRecord} {runtime : UnifiedRuntimeRecord}
    (hnodup : (runtimes.map (·.deploymentId)).Nodup)
    (hmem : runtime ∈ runtimes) :
    (runtimes.foldl (fun g runtime => g.rehydrate runtime.deploymentId
      (originalDevices runtime)) g).getAllocation runtime.deploymentId =
      (originalDevices runtime).toFinset := by
  induction runtimes generalizing g with
  | nil => simp at hmem
  | cons first rest ih =>
      rw [List.map_cons, List.nodup_cons] at hnodup
      rw [List.foldl_cons]
      rcases List.mem_cons.mp hmem with rfl | hrest
      · rw [getAllocation_foldl_of_not_mem fun r hr heq =>
          hnodup.1 (List.mem_map.mpr ⟨r, hr, heq⟩)]
        exact GpuAllocator.getAllocation_assign_self g _ _
      · exact ih hnodup.2 hrest

theorem getAllocation_rehydrate (totalGpus : Nat) (table : RuntimeTable)
    (d : String) :
    (rehydrateGpuAllocator totalGpus table.snapshot).getAllocation d =
      match table.get? d with
      | some runtime =>
          if holdsGpusOnRestart runtime then
            (originalDevices runtime).toFinset
          else ∅
      | none => ∅ := by
  unfold rehydrateGpuAllocator
  have hnodup : ((table.snapshot.filter holdsGpusOnRestart).map
      (·.deploymentId)).Nodup :=
    table.snapshot_nodup.sublist (List.filter_sublist.map _)
  by_cases h : ∃ runtime, table.get? d = some runtime ∧
      holdsGpusOnRestart runtime
  · obtain ⟨runtime, hget, hholds⟩ := h
    obtain rfl : runtime.deploymentId = d := Table.key_of_get? hget
    rw [getAllocation_foldl_of_mem hnodup (List.mem_filter.mpr
      ⟨Table.mem_snapshot_iff.mpr hget, hholds⟩)]
    simp only [hget, hholds, if_true]
  · rw [getAllocation_foldl_of_not_mem]
    · cases hget : table.get? d with
      | none => rfl
      | some runtime =>
          have hholds : ¬holdsGpusOnRestart runtime = true :=
            fun hholds => h ⟨runtime, hget, hholds⟩
          simp [hholds]
    · rintro runtime hmem rfl
      obtain ⟨hsnapshot, hholds⟩ := List.mem_filter.mp hmem
      exact h ⟨runtime, Table.mem_snapshot_iff.mp hsnapshot, hholds⟩

theorem holdsGpusOnRestart_inService {runtime : UnifiedRuntimeRecord}
    (h : InService runtime) :
    (if holdsGpusOnRestart runtime then (originalDevices runtime).toFinset
      else ∅) = (originalDevices runtime).toFinset := by
  by_cases hempty : originalDevices runtime = []
  · simp [hempty]
  · rcases h with h | h <;> simp [holdsGpusOnRestart, h, hempty]

theorem holdsGpusOnRestart_stopped {runtime : UnifiedRuntimeRecord}
    (h : runtime.status = .failed ∨ runtime.status = .terminated ∨
      runtime.status = .suspended) :
    holdsGpusOnRestart runtime = false := by
  rcases h with h | h | h <;> simp [holdsGpusOnRestart, h]

theorem getAllocation_restart (w : World) (d : String) :
    (w.restart s).allocator.getAllocation d =
      match w.stateFile.get? d with
      | some runtime =>
          if holdsGpusOnRestart runtime then
            (originalDevices runtime).toFinset
          else ∅
      | none => ∅ :=
  getAllocation_rehydrate s.gpuCount w.stateFile d

theorem getAllocation_restart_inService {d : String}
    {runtime : UnifiedRuntimeRecord} (hget : w.stateFile.get? d = some runtime)
    (hin : InService runtime) :
    (w.restart s).allocator.getAllocation d =
      (originalDevices runtime).toFinset := by
  simp only [getAllocation_restart, hget]
  exact holdsGpusOnRestart_inService hin

theorem getAllocation_restart_stopped {d : String}
    {runtime : UnifiedRuntimeRecord} (hget : w.stateFile.get? d = some runtime)
    (hstopped : runtime.status = .failed ∨ runtime.status = .terminated ∨
      runtime.status = .suspended) :
    (w.restart s).allocator.getAllocation d = ∅ := by
  simp [getAllocation_restart, hget, holdsGpusOnRestart_stopped hstopped]

theorem restart_fits {d : String} {runtime : UnifiedRuntimeRecord}
    (hget : w.stateFile.get? d = some runtime)
    (hpinned : Floored permitted →
      InService runtime ∨ runtime.status = .suspended → Pinned runtime)
    (hclean : Floored permitted → Polite permitted → InService runtime →
      ∀ x ∈ (w.restart s).allocator.getAllocation d,
        FreeFor (w.restart s) d x)
    (hreported : Reliable permitted → ∀ state,
      reportedState runtime.status = some state →
        (w.ledger d).lastSent = some state) :
    Ledger.Fits permitted (FreeFor (w.restart s) d)
      ((w.restart s).ledger d) runtime where
  inService _ hin := getAllocation_restart_inService hget hin
  pinned := hpinned
  stopped hst := getAllocation_restart_stopped hget (by tauto)
  suspended _ hst := getAllocation_restart_stopped hget (by tauto)
  clean := hclean
  reported := hreported

theorem restart_gone {d : String} (hget : w.stateFile.get? d = none) :
    ((w.restart s).ledger d).held = ∅ := by
  change (w.restart s).allocator.getAllocation d = ∅
  simp only [getAllocation_restart, hget]

theorem restart_sound (h : NodeSound permitted w)
    (hfile : w.stateFile = w.runtimes) :
    NodeSound permitted (w.restart s) := by
  intro d
  refine ⟨restart_gone, fun runtime hsome => ?_⟩
  have hrecord : (w.ledger d).record = some runtime := by
    change w.runtimes.get? d = some runtime
    rw [← hfile]
    exact hsome
  have hfits := (h d).fits runtime hrecord
  refine restart_fits hsome hfits.pinned ?_ hfits.reported
  -- What is in service holds after the restart what it held before.
  rintro hfloor hpolite hin x hx b hb ⟨other, hother, hotherIn⟩
  rw [getAllocation_restart_inService hsome hin,
    ← hfits.inService hfloor hin] at hx
  have hrecord' : w.runtimes.get? b = some other := by
    rw [← hfile]
    exact hother
  rw [getAllocation_restart_inService hother hotherIn,
    ← ((h b).fits other hrecord').inService hfloor hotherIn]
  exact hfits.clean hfloor hpolite hin x hx b hb ⟨other, hrecord', hotherIn⟩

theorem restart_pinned (hpolite : ¬Polite permitted)
    (hreliable : ¬Reliable permitted)
    (hpinned : ∀ d runtime, w.stateFile.get? d = some runtime →
      InService runtime ∨ runtime.status = .suspended → Pinned runtime) :
    NodeSound permitted (w.restart s) :=
  fun d => ⟨restart_gone, fun runtime hsome =>
    restart_fits hsome (fun _ => hpinned d runtime hsome)
      (fun _ h => absurd h hpolite) fun h => absurd h hreliable⟩

end NodeAgent
