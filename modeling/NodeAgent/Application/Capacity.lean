import NodeAgent.Application.Runs

/-!
# Advertised capacity

`build_capacity_update` counts the GPUs of the records that are not settled,
and subtracts what a foreign process uses.  The allocator counts the same GPUs
in a book of its own.
-/

namespace NodeAgent

open Effectful Program Agent

/-- `rt.status in ("accepted", "preparing", "starting", "ready")`. -/
def reserves (runtime : UnifiedRuntimeRecord) : Bool :=
  match runtime.status with
  | .accepted | .preparing | .starting | .ready => true
  | _ => false

/-- `len(devices) or int(rt.metadata.get("gpu_count", 1) or 1)`. -/
def reservedFor (runtime : UnifiedRuntimeRecord) : Int :=
  if originalDevices runtime ≠ [] then (originalDevices runtime).length
  else match runtime.metadata.gpuCount with
    | none => 1
    | some n => if n = 0 then 1 else n

def reservedGpus (runtimes : List UnifiedRuntimeRecord) : Int :=
  ((runtimes.filter reserves).map reservedFor).sum

structure NodeCapability where
  nodeId : String
  gpuCount : Nat
  availableGpus : Int

structure CapacityUpdate where
  node : NodeCapability
  /-- The foreign devices that the warning names. -/
  excluded : Finset Nat

/-- What follows the snapshot of the records. -/
def advertise (s : Settings) (runtimes : List UnifiedRuntimeRecord) :
    Agent CapacityUpdate := do
  let foreign ← foreignBusyDevices
  pure {
    node := {
      nodeId := s.nodeId
      gpuCount := s.gpuCount
      availableGpus :=
        max 0 (s.gpuCount - reservedGpus runtimes - foreign.card) }
    excluded := foreign }

def buildCapacityUpdate (s : Settings) : Agent CapacityUpdate := do
  let runtimes ← snapshotRuntimeItems
  advertise s runtimes

variable {s : Settings} {permitted : Permitted} {w w' : World}
variable {M : Machine Effect Effect.Ret Exn World}
variable {runtime : UnifiedRuntimeRecord} {d : String}

/-! ## Runs between which no dispatch is cut short -/

/-- No record is accepted or starting. -/
def NoneCutShort (w : World) : Prop :=
  ∀ d runtime, w.runtimes.get? d = some runtime →
    runtime.status ≠ .accepted ∧ runtime.status ≠ .starting

/--
Requests one at a time; the agent restarts only when no dispatch is cut short
and the state file is up to date.
-/
inductive SerialRun (s : Settings) (M : Machine Effect Effect.Ret Exn World) :
    World → Prop
  | boot : SerialRun s M (.init s)
  | serve {w w' : World} {r : Except Exn Unit} (before : SerialRun s M w)
      (request : Request) (exec : Exec M (request.program s) w r w') :
      SerialRun s M w'
  | restart {w : World} (before : SerialRun s M w)
      (hfile : w.stateFile = w.runtimes) (hwhole : NoneCutShort w) :
      SerialRun s M (w.restart s)

def StatusKnown : World → Prop :=
  OnRecord fun runtime => runtime.status ≠ .preparing

theorem host_statusKnown {e : Effect} {r : Except Exn e.Ret}
    (h : StatusKnown w) (hwrite : w.Writes permitted e)
    (hstep : (host permitted).Step w e r w') : StatusKnown w' := by
  refine host_onRecord h (fun runtime heq => ?_) hstep
  subst heq
  exact hwrite.known

theorem host_partitioned {n : Nat} {e : Effect} {r : Except Exn e.Ret}
    (h : w.allocator.Partitioned n)
    (hstep : (host permitted).Step w e r w') : w'.allocator.Partitioned n := by
  obtain ⟨a, -, -, rfl⟩ := host_refines.performed hstep
  by_cases he : World.touchesBooks e = false
  · simp only [(World.perform_books he w a).2.2.1]
    exact h
  · cases e with
    | allocate d n avoid => exact h.allocate d n avoid
    | allocateSpecific d devices => exact h.allocateSpecific d devices
    | release d => exact h.release d
    | upsertRuntime runtime => exact h
    | removeRuntime d => exact h
    | updateDeploymentStatus update => exact h
    | _ => exact absurd rfl he

theorem rehydrate_totalGpus (n : Nat) (runtimes : List UnifiedRuntimeRecord) :
    (rehydrateGpuAllocator n runtimes).totalGpus = n := by
  unfold rehydrateGpuAllocator
  generalize runtimes.filter holdsGpusOnRestart = held
  suffices h : ∀ g : GpuAllocator, (held.foldl (fun g runtime =>
      g.rehydrate runtime.deploymentId (originalDevices runtime))
        g).totalGpus = g.totalGpus from h _
  induction held with
  | nil => exact fun _ => rfl
  | cons first rest ih => exact fun g => ih _

/-- What a serial run keeps between its requests. -/
structure InOrder (s : Settings) (permitted : Permitted) (w : World) :
    Prop where
  sound : NodeSound permitted w
  known : StatusKnown w
  partitioned : w.allocator.Partitioned s.gpuCount

theorem InOrder.request (h : InOrder s permitted w) (request : Request)
    {r : Except Exn Unit}
    (hexec : Exec (host permitted) (request.program s) w r w') :
    InOrder s permitted w' := by
  have hkept := ((request_sound request w h.sound).keeping
    (I := fun w => StatusKnown w ∧ w.allocator.Partitioned s.gpuCount)
    (fun _ _ _ _ h hwrite hstep => ⟨host_statusKnown h.1 hwrite hstep,
      host_partitioned h.2 hstep⟩) ⟨h.known, h.partitioned⟩).exec hexec
  exact ⟨hkept.1, hkept.2.1, hkept.2.2⟩

theorem InOrder.ready_of_reserves (h : InOrder s permitted w)
    (hwhole : NoneCutShort w) (hget : w.runtimes.get? d = some runtime)
    (hreserves : reserves runtime = true) : runtime.status = .ready := by
  obtain ⟨haccepted, hstarting⟩ := hwhole d runtime hget
  have hpreparing := h.known d runtime (.inl hget)
  cases hstatus : runtime.status with
  | ready => rfl
  | accepted => exact absurd hstatus haccepted
  | starting => exact absurd hstatus hstarting
  | preparing => exact absurd hstatus hpreparing
  | _ => simp [reserves, hstatus] at hreserves

theorem InOrder.restart (hfloor : Floored permitted)
    (h : InOrder s permitted w) (hfile : w.stateFile = w.runtimes)
    (hwhole : NoneCutShort w) : InOrder s permitted (w.restart s) where
  sound := restart_sound h.sound hfile
  known := OnRecord.restart h.known
  partitioned := by
    refine h.partitioned.mono (rehydrate_totalGpus _ _) fun d => ?_
    rw [getAllocation_restart, hfile]
    cases hget : w.runtimes.get? d with
    | none => simp
    | some runtime =>
        dsimp only
        split
        · rename_i hholds
          have hreserves : reserves runtime = true := by
            cases hstatus : runtime.status <;>
              simp [holdsGpusOnRestart, reserves, hstatus] at hholds ⊢
          have hready := h.ready_of_reserves hwhole hget hreserves
          have hheld := ((h.sound d).fits runtime hget).inService hfloor
            (.inr hready)
          exact hheld.symm.subset
        · exact Finset.empty_subset _

theorem serialRun_inOrder (hfloor : Floored permitted)
    (h : SerialRun s (host permitted) w) : InOrder s permitted w := by
  induction h with
  | boot => exact ⟨init_sound, init_onRecord, GpuAllocator.partitioned_init⟩
  | serve before request exec ih => exact ih.request request exec
  | restart before hfile hwhole ih => exact ih.restart hfloor hfile hwhole

/-! ## The two counts -/

def strayDevices (w : World) : Finset Nat :=
  w.allocator.allocatedDevices.filter fun x =>
    ¬∃ runtime ∈ w.runtimes.snapshot,
      runtime.status = .ready ∧ x ∈ originalDevices runtime

def bareRuntimes (w : World) : Nat :=
  (w.runtimes.snapshot.filter fun runtime =>
    runtime.status = .ready ∧ originalDevices runtime = []).length

/-- What an answer of the probe says of devices that the agent did not assign. -/
def foreignIn (w : World) : Except Exn (Finset Nat) → Finset Nat
  | .ok busy => busy \ w.allocator.allocatedDevices
  | .error _ => ∅

def outsideDevices (s : Settings) (foreign : Finset Nat) : Finset Nat :=
  foreign.filter (s.gpuCount ≤ ·)

theorem GpuAllocator.Partitioned.card_free {g : GpuAllocator} {n : Nat}
    (h : g.Partitioned n) {foreign : Finset Nat}
    (hforeign : Disjoint g.allocatedDevices foreign) :
    (g.freeDevices \ foreign).card + g.allocatedDevices.card +
      foreign.card = n + (foreign.filter (n ≤ ·)).card := by
  have hrange : g.allocatedDevices ⊆ Finset.range n := by
    intro x hx
    obtain ⟨d, hd⟩ := GpuAllocator.mem_allocatedDevices.mp hx
    exact Finset.mem_range.mpr (h.inRange d x hd)
  have hfree : g.freeDevices \ foreign =
      Finset.range n \ (g.allocatedDevices ∪ foreign) := by
    rw [GpuAllocator.freeDevices, GpuAllocator.deviceIds, h.total,
      sdiff_sdiff_left]
    rfl
  have hall := Finset.card_sdiff_add_card (Finset.range n)
    (g.allocatedDevices ∪ foreign)
  have hunion : Finset.range n ∪ (g.allocatedDevices ∪ foreign) =
      Finset.range n ∪ foreign.filter (n ≤ ·) := by
    ext x
    simp only [Finset.mem_union, Finset.mem_range, Finset.mem_filter]
    have := @hrange x
    simp only [Finset.mem_range] at this
    constructor
    · rintro (hx | hx | hx)
      · exact .inl hx
      · exact .inl (this hx)
      · by_cases hlt : x < n
        · exact .inl hlt
        · exact .inr ⟨hx, by omega⟩
    · rintro (hx | ⟨hx, -⟩)
      · exact .inl hx
      · exact .inr (.inr hx)
  have houtside : Disjoint (Finset.range n) (foreign.filter (n ≤ ·)) := by
    refine Finset.disjoint_left.mpr fun x hx hx' => ?_
    simp only [Finset.mem_range] at hx
    simp only [Finset.mem_filter] at hx'
    omega
  rw [hunion, Finset.card_union_of_disjoint hforeign,
    Finset.card_union_of_disjoint houtside, Finset.card_range, ← hfree] at hall
  omega

theorem reservedFor_of_pinned (h : Pinned runtime) :
    reservedFor runtime = ((originalDevices runtime).toFinset.card : Int) +
      if originalDevices runtime = [] then 1 else 0 := by
  obtain ⟨devices, hdevices, hascending, hcount⟩ := h
  have horiginal : originalDevices runtime = devices := by
    unfold originalDevices
    rw [hdevices]
    rfl
  have hnodup : devices.Nodup := hascending.imp fun hlt => hlt.ne
  unfold reservedFor
  rw [horiginal, List.toFinset_card_of_nodup hnodup, hcount]
  cases devices with
  | nil => rfl
  | cons x xs => simp

def listedDevices (runtime : UnifiedRuntimeRecord) : Finset Nat :=
  (originalDevices runtime).toFinset

theorem sum_reservedFor {runtimes : List UnifiedRuntimeRecord}
    (hpinned : ∀ runtime ∈ runtimes, Pinned runtime) :
    (runtimes.map reservedFor).sum =
      ((runtimes.map fun runtime => (listedDevices runtime).card).sum : Int) +
        (runtimes.filter fun runtime => originalDevices runtime = []).length := by
  induction runtimes with
  | nil => simp
  | cons first rest ih =>
      have hrest := ih fun runtime hmem =>
        hpinned runtime (List.mem_cons_of_mem _ hmem)
      have hfirst := reservedFor_of_pinned (hpinned first (by simp))
      rw [List.map_cons, List.sum_cons, hrest, hfirst, List.map_cons,
        List.sum_cons, List.filter_cons]
      by_cases hbare : originalDevices first = []
      · simp only [listedDevices, hbare, decide_true, if_true,
          List.length_cons]
        push_cast
        omega
      · simp only [listedDevices, hbare, decide_false, if_false,
          Bool.false_eq_true]
        push_cast
        omega

/-- The records that reserve GPUs between passes, which are those of ready runtimes. -/
def readyRuntimes (w : World) : List UnifiedRuntimeRecord :=
  w.runtimes.snapshot.filter fun runtime => runtime.status = .ready

theorem InOrder.snapshot_reserves (h : InOrder s permitted w)
    (hwhole : NoneCutShort w) :
    w.runtimes.snapshot.filter reserves = readyRuntimes w := by
  refine List.filter_congr fun runtime hmem => ?_
  rw [Bool.eq_iff_iff, decide_eq_true_eq]
  constructor
  · exact h.ready_of_reserves hwhole (Table.mem_snapshot_iff.mp hmem)
  · intro hready
    simp [reserves, hready]

section InOrder

variable (hfloor : Floored permitted) (h : InOrder s permitted w)
include hfloor h

theorem InOrder.holds (hmem : runtime ∈ readyRuntimes w) :
    w.allocator.getAllocation runtime.deploymentId = listedDevices runtime ∧
      Pinned runtime := by
  obtain ⟨hsnapshot, hready⟩ := List.mem_filter.mp hmem
  have hstatus : runtime.status = .ready := by simpa using hready
  have hfits := (h.sound runtime.deploymentId).fits runtime
    (Table.mem_snapshot_iff.mp hsnapshot)
  exact ⟨hfits.inService hfloor (.inr hstatus),
    hfits.pinned hfloor (.inl (.inr hstatus))⟩

theorem InOrder.listed_disjoint :
    ((readyRuntimes w).map listedDevices).Pairwise Disjoint := by
  have hids : (readyRuntimes w).Pairwise fun runtime other =>
      runtime.deploymentId ≠ other.deploymentId :=
    (List.pairwise_map.mp w.runtimes.snapshot_nodup).filter _
  refine List.pairwise_map.mpr (hids.imp_of_mem ?_)
  intro runtime other hmem hother hne
  rw [← (h.holds hfloor hmem).1, ← (h.holds hfloor hother).1]
  exact Finset.disjoint_left.mpr fun x hx hx' =>
    hne (h.partitioned.unique x _ _ hx hx')

theorem InOrder.card_stray : (strayDevices w).card +
    ((readyRuntimes w).map fun runtime => (listedDevices runtime).card).sum =
      w.allocator.allocatedDevices.card := by
  have hlisted := GpuAllocator.card_foldr_union (h.listed_disjoint hfloor)
  rw [List.map_map] at hlisted
  have hsub : ((readyRuntimes w).map listedDevices).foldr (· ∪ ·) ∅ ⊆
      w.allocator.allocatedDevices := by
    intro x hx
    obtain ⟨set, hset, hx⟩ := GpuAllocator.mem_foldr_union.mp hx
    obtain ⟨runtime, hmem, rfl⟩ := List.mem_map.mp hset
    rw [← (h.holds hfloor hmem).1] at hx
    exact GpuAllocator.mem_allocatedDevices.mpr ⟨_, hx⟩
  have hstray : strayDevices w = w.allocator.allocatedDevices \
      ((readyRuntimes w).map listedDevices).foldr (· ∪ ·) ∅ := by
    ext x
    simp only [strayDevices, Finset.mem_filter, Finset.mem_sdiff,
      GpuAllocator.mem_foldr_union, List.mem_map, readyRuntimes,
      List.mem_filter, decide_eq_true_eq, listedDevices]
    refine and_congr_right fun _ => not_congr ⟨?_, ?_⟩
    · rintro ⟨runtime, hmem, hready, hx⟩
      exact ⟨_, ⟨runtime, ⟨hmem, hready⟩, rfl⟩, by simpa using hx⟩
    · rintro ⟨_, ⟨runtime, ⟨hmem, hready⟩, rfl⟩, hx⟩
      exact ⟨runtime, hmem, hready, by simpa using hx⟩
  have hcard := Finset.card_sdiff_add_card_eq_card hsub
  rw [← hstray, hlisted] at hcard
  exact hcard

theorem InOrder.reservedGpus_eq (hwhole : NoneCutShort w) :
    reservedGpus w.runtimes.snapshot + (strayDevices w).card =
      w.allocator.allocatedDevices.card + bareRuntimes w := by
  have hpinned : ∀ runtime ∈ readyRuntimes w, Pinned runtime :=
    fun runtime hmem => (h.holds hfloor hmem).2
  have hsum := sum_reservedFor hpinned
  have hstray := h.card_stray hfloor
  have hbare : (readyRuntimes w).filter
      (fun runtime => originalDevices runtime = []) =
        w.runtimes.snapshot.filter fun runtime =>
          runtime.status = .ready ∧ originalDevices runtime = [] := by
    rw [readyRuntimes, List.filter_filter]
    refine List.filter_congr fun runtime _ => ?_
    simp [Bool.and_comm]
  rw [hbare] at hsum
  rw [reservedGpus, h.snapshot_reserves hwhole, hsum, bareRuntimes]
  omega

end InOrder

/-! ## What is advertised -/

theorem foreignBusyDevices_probed (hM : Refines M) (w : World) :
    Sat M (fun _ _ => True) foreignBusyDevices (fun r w' => ∃ probed,
      r = .ok (foreignIn w probed) ∧
        Added w w' fun events =>
          ⟨.probe .busyGpuDevices, probed⟩ ∈ events) w := by
  unfold foreignBusyDevices
  refine sat_bind'.mpr (sat_attempt.mpr (sat_step_bind hM trivial
    fun a _ _ => ?_))
  simp only [World.perform]
  cases hprobed : a.result with
  | error x =>
      refine ⟨.error x, rfl, [_], log_answer a, ?_⟩
      simp [World.perform, hprobed]
  | ok busy =>
      rw [andThen_ok]
      refine sat_step_bind hM trivial fun b _ _ => ?_
      have hfirst : Added w (w.answer (.probe .busyGpuDevices) a).2
          fun events => ⟨.probe .busyGpuDevices, .ok busy⟩ ∈ events :=
        ⟨_, log_answer a, by simp [World.perform, hprobed]⟩
      have hsecond : Added (w.answer (.probe .busyGpuDevices) a).2
          ((w.answer (.probe .busyGpuDevices) a).2.answer
            .allocatedDevices b).2 fun _ => True :=
        ⟨_, log_answer b, trivial⟩
      refine ⟨.ok busy, rfl, hfirst.append hsecond ?_⟩
      exact fun _ _ hmem _ => List.mem_append_left _ hmem

theorem buildCapacityUpdate_any (hM : Refines M) (w : World) :
    Sat M (fun _ _ => True) (buildCapacityUpdate s) (fun r w' =>
      ∃ probed update, r = .ok update ∧
        ⟨.probe .busyGpuDevices, probed⟩ ∈ issued w w' ∧
        update.node.availableGpus = max 0 (s.gpuCount -
          reservedGpus w.runtimes.snapshot - (foreignIn w probed).card)) w := by
  unfold buildCapacityUpdate advertise
  refine sat_step_bind hM trivial fun a _ _ => ?_
  simp only [World.perform, andThen_ok]
  refine (foreignBusyDevices_probed hM _).bind ?_ ?_
  · rintro foreign w' ⟨probed, heq, hadded⟩
    cases heq
    refine ⟨probed, _, rfl, ?_, rfl⟩
    have hfirst : Added w (w.answer .snapshotRuntimeItems a).2 fun _ => True :=
      ⟨_, log_answer a, trivial⟩
    have hall : Added w w' fun events =>
        ⟨.probe .busyGpuDevices, probed⟩ ∈ events :=
      hfirst.append hadded fun _ _ _ hmem => List.mem_append_right _ hmem
    exact hall.issued
  · rintro x w' ⟨probed, heq, -⟩
    cases heq

/--
Between requests the advertised count is the number of free devices that no
foreign process uses exactly when the devices that are held for no ready runtime
are as many as the ready runtimes without devices and the foreign devices beyond
the node's count together, or when there is no such device and they are fewer.
-/
theorem capacity_exact_iff (hfloor : Floored permitted)
    (hrun : SerialRun s (host permitted) w) (hwhole : NoneCutShort w)
    {r : Except Exn CapacityUpdate}
    (hexec : Exec (host permitted) (buildCapacityUpdate s) w r w') :
    ∃ probed update, r = .ok update ∧
      ⟨.probe .busyGpuDevices, probed⟩ ∈ issued w w' ∧
      let foreign := foreignIn w probed
      let surplus := bareRuntimes w + (outsideDevices s foreign).card
      (update.node.availableGpus =
          ((w.allocator.freeDevices \ foreign).card : Int) ↔
        (strayDevices w).card = surplus ∨
          (w.allocator.freeDevices ⊆ foreign ∧
            (strayDevices w).card ≤ surplus)) := by
  obtain ⟨probed, update, hr, hissued, havailable⟩ :=
    (buildCapacityUpdate_any host_refines w).exec hexec
  refine ⟨probed, update, hr, hissued, ?_⟩
  have hinOrder := serialRun_inOrder hfloor hrun
  have hreserved := hinOrder.reservedGpus_eq hfloor hwhole
  have hdisjoint : Disjoint w.allocator.allocatedDevices
      (foreignIn w probed) := by
    cases probed with
    | ok busy => exact Finset.disjoint_sdiff
    | error x => exact Finset.disjoint_empty_right _
  have hcard := hinOrder.partitioned.card_free hdisjoint
  have hnone : w.allocator.freeDevices ⊆ foreignIn w probed ↔
      (w.allocator.freeDevices \ foreignIn w probed).card = 0 := by
    rw [Finset.card_eq_zero, Finset.sdiff_eq_empty_iff_subset]
  dsimp only
  rw [havailable, hnone]
  unfold outsideDevices
  omega

theorem noneCutShort_of_snapshot (h : ∀ runtime ∈ w.runtimes.snapshot,
    runtime.status ≠ .accepted ∧ runtime.status ≠ .starting) :
    NoneCutShort w := by
  intro d runtime hget
  have hkey : runtime.deploymentId = d := Table.key_of_get? hget
  exact h runtime (Table.mem_snapshot_iff.mpr (hkey ▸ hget))

theorem cpuPodHost_floored : (sshHost [leaseOn "pod-1"]).Respects floored :=
  cooperative_floored _ _ (by decide : 1 ≤ requestedGpus sshPod)

theorem cpuPodNode_serialRun : SerialRun {} (host floored) cpuPodNode := by
  obtain ⟨r, hexec⟩ := replayed_exec cpuPodHost_floored
    (p := reconcileOnce {} "hotkey") (w := .init {}) rfl
  exact .serve .boot (.reconcile "hotkey") hexec

theorem cpuPodNode_noneCutShort : NoneCutShort cpuPodNode :=
  noneCutShort_of_snapshot (by decide)

theorem capacity_exact_iff_cpuPodNode : ∃ r w',
    Exec (host floored) (buildCapacityUpdate {}) cpuPodNode r w' ∧
    ∃ probed update, r = .ok update ∧
      ⟨.probe .busyGpuDevices, probed⟩ ∈ issued cpuPodNode w' ∧
      let foreign := foreignIn cpuPodNode probed
      let surplus := bareRuntimes cpuPodNode + (outsideDevices {} foreign).card
      (update.node.availableGpus =
          ((cpuPodNode.allocator.freeDevices \ foreign).card : Int) ↔
        (strayDevices cpuPodNode).card = surplus ∨
          (cpuPodNode.allocator.freeDevices ⊆ foreign ∧
            (strayDevices cpuPodNode).card ≤ surplus)) := by
  obtain ⟨r, hexec⟩ := replayed_exec cpuPodHost_floored
    (p := buildCapacityUpdate {}) (w := cpuPodNode) rfl
  exact ⟨r, _, hexec, capacity_exact_iff floored_floored
    cpuPodNode_serialRun cpuPodNode_noneCutShort hexec⟩

/-- A ready pod without GPUs takes the node's only GPU off the market. -/
theorem cpuPod_hides_gpu : SerialRun {} (host floored) cpuPodNode ∧
    NoneCutShort cpuPodNode ∧
    ∃ w' update, Exec (host floored) (buildCapacityUpdate {}) cpuPodNode
        (.ok update) w' ∧
      update.node.availableGpus = 0 ∧
      (cpuPodNode.allocator.freeDevices \ update.excluded).card = 1 :=
  ⟨cpuPodNode_serialRun, cpuPodNode_noneCutShort, _, _,
    replayFor_exec cpuPodHost_floored.follows 3 rfl, by decide, by decide⟩

end NodeAgent
