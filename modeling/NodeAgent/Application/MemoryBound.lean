import NodeAgent.Application.Capacity
import NodeAgent.Application.MemoryShare
import Mathlib.Algebra.Order.BigOperators.Group.List
import Mathlib.Algebra.Order.Group.Nat

/-!
# The memory of all ready pods

Pods with GPUs fit into the host's memory because the allocator keeps their
devices apart.  A pod without GPUs has the memory of one, which nothing reserves
for it: such pods fit as long as they find GPUs that no ready pod holds.
-/

namespace NodeAgent

open Effectful Program Agent

def ReadyPod (runtime : UnifiedRuntimeRecord) : Prop :=
  runtime.workloadKind = .pod ∧ runtime.status = .ready

instance (runtime : UnifiedRuntimeRecord) : Decidable (ReadyPod runtime) :=
  inferInstanceAs (Decidable (_ ∧ _))

/-- The sum of `memory_gb_allocated` over the ready pods. -/
def memoryAllotted (runtimes : List UnifiedRuntimeRecord) : Int :=
  ((runtimes.filter fun runtime => ReadyPod runtime).filterMap
    (·.memoryGbAllocated)).sum

def slotsOf (runtime : UnifiedRuntimeRecord) : Nat :=
  if ReadyPod runtime then max 1 (originalDevices runtime).length else 0

def slots (runtimes : List UnifiedRuntimeRecord) : Nat :=
  (runtimes.map slotsOf).sum

def withDevices (runtimes : List UnifiedRuntimeRecord) :
    List UnifiedRuntimeRecord :=
  runtimes.filter fun runtime => originalDevices runtime ≠ []

/--
Passes one at a time.  Either anything may fail, and the agent restarts only
when no dispatch is cut short and the state file is up to date; or it restarts
at any time, where the state file is written and backends fail with their own
errors.
-/
def PassesRun (s : Settings) (w : World) : Prop :=
  SerialRun s (host floored) w ∨ NodeRun s (host ownErrors) w

variable {s : Settings} {permitted : Permitted} {w w' : World}
variable {e : Effect} {r : Except Exn e.Ret} {runtime : UnifiedRuntimeRecord}
variable {runtimes : List UnifiedRuntimeRecord}

/-! ## Sized records along a run -/

def AllSized (s : Settings) (w : World) : Prop :=
  OnRecord (Sized s) w ∧ w.allocator.totalGpus = s.gpuCount

theorem host_measured (hfloor : Floored permitted) (h : AllSized s w)
    (hstep : (host permitted).Step w e r w') : Measured s e r := by
  refine ⟨host_typed s hstep, ?_⟩
  have hr := hstep.1
  obtain ⟨a, -, rfl, -⟩ := host_refines.performed hstep
  cases e with
  | getRuntime d =>
      cases hget : w.runtimes.get? d with
      | none => simp [World.perform, hget, AnswersSized]
      | some runtime =>
          simp only [World.perform, hget, AnswersSized]
          exact h.1 d runtime (.inl hget)
  | snapshotRuntimeItems =>
      exact fun runtime hmem =>
        h.1 _ runtime (.inl (Table.mem_snapshot_iff.mp hmem))
  | getWorkload id =>
      simp only [World.perform] at hr ⊢
      cases hresult : a.result with
      | error x => exact trivial
      | ok found =>
          cases found with
          | none => exact trivial
          | some workload => exact hfloor id workload (hresult ▸ hr)
  | allocate d n avoid =>
      rcases w.allocator.allocate_cases d n avoid with
        ⟨hn, heq⟩ | ⟨-, message, heq⟩ | ⟨hn, hfree, heq⟩
      · simp only [World.perform, heq, AnswersSized]
        exact ⟨by simp; omega, by simp [GpuAllocator.Ascending], by simp⟩
      · simp only [World.perform, heq, AnswersSized]
      · simp only [World.perform, heq, AnswersSized]
        refine ⟨by rw [List.length_take]; omega,
          (GpuAllocator.usable_sorted _ _).take, fun x hx => ?_⟩
        have husable := List.mem_of_mem_take hx
        rw [← h.2]
        exact (GpuAllocator.mem_freeDevices.mp
          (GpuAllocator.mem_usable.mp husable).1).1
  | allocateSpecific d devices =>
      rcases w.allocator.allocateSpecific_cases d devices with
        ⟨rfl, heq⟩ | ⟨-, ⟨message, heq⟩, -⟩ | ⟨-, -, heq⟩
      · simp only [World.perform, heq, AnswersSized]
        rfl
      · simp only [World.perform, heq, AnswersSized]
      · simp only [World.perform, heq, AnswersSized]
  | _ => exact trivial

theorem host_allSized (h : AllSized s w) (he : WritesSized s e)
    (hstep : (host permitted).Step w e r w') : AllSized s w' := by
  refine ⟨host_onRecord h.1 (fun runtime heq => ?_) hstep,
    (host_totalGpus hstep).trans h.2⟩
  subst heq
  exact he

abbrev KeepsSized (s : Settings) (permitted : Permitted) {α : Type}
    (p : Agent α) : Prop :=
  Keeps (host permitted) (fun _ _ => True) (AllSized s) p

theorem Sizes.keeps (hfloor : Floored permitted) {α : Type} {p : Agent α}
    (h : Sizes s p) : KeepsSized s permitted p :=
  keeps_of_always h (fun _ _ _ _ => trivial) fun _ _ _ _ h he hstep =>
    ⟨host_measured hfloor h hstep, host_allSized h he hstep⟩

theorem AllSized.request (h : AllSized s w) (hfloor : Floored permitted)
    {request : Request} {r : Except Exn Unit}
    (hexec : Exec (host permitted) (request.program s) w r w') :
    AllSized s w' :=
  (((request_sizes request).keeps hfloor) _ h).exec hexec

theorem AllSized.restart (h : AllSized s w) : AllSized s (w.restart s) :=
  ⟨OnRecord.restart h.1, rehydrate_totalGpus _ _⟩

theorem init_allSized : AllSized s (.init s) := ⟨init_onRecord, rfl⟩

theorem PassesRun.allSized (h : PassesRun s w) : AllSized s w := by
  rcases h with h | h
  · induction h with
    | boot => exact init_allSized
    | serve before request exec ih => exact ih.request floored_floored exec
    | restart before hfile hwhole ih => exact ih.restart
  · induction h with
    | boot => exact init_allSized
    | serve before request exec ih => exact ih.request ownErrors_floored exec
    | restart before ih => exact ih.restart

theorem PassesRun.apart (h : PassesRun s w) {first second : UnifiedRuntimeRecord}
    (hfirst : first ∈ w.runtimes.snapshot) (hsecond : second ∈ w.runtimes.snapshot)
    (hne : first.deploymentId ≠ second.deploymentId)
    (hready : first.status = .ready) (hready' : second.status = .ready) :
    Disjoint (originalDevices first).toFinset
      (originalDevices second).toFinset := by
  have hget := Table.mem_snapshot_iff.mp hfirst
  have hget' := Table.mem_snapshot_iff.mp hsecond
  rcases h with h | h
  · have horder := serialRun_inOrder floored_floored h
    have hheld := ((horder.sound _).fits first hget).inService floored_floored
      (.inr hready)
    have hheld' := ((horder.sound _).fits second hget').inService
      floored_floored (.inr hready')
    rw [← hheld, ← hheld']
    exact Finset.disjoint_left.mpr fun x hx hx' =>
      hne (horder.partitioned.unique x _ _ hx hx')
  · exact (run_devices h).2.2 _ _ first second hne hget hget' (.inr hready)
      (.inr hready')

/-! ## The sum -/

theorem memoryShare_le (hgpus : 1 ≤ s.gpuCount) (hmemory : s.gpuCount ≤ s.memoryGb)
    (units : Nat) :
    s.gpuCount * memoryShare s units ≤ (s.memoryGb * max 1 units : Nat) := by
  have hcast : ∀ n : Nat, max 1 (n : Int) = ((max 1 n : Nat) : Int) := by omega
  have hshare : memoryShare s units =
      ((max 1 (s.memoryGb * max 1 units / s.gpuCount) : Nat) : Int) := by
    have hmax : max (s.gpuCount : Int) 1 = (s.gpuCount : Int) := by omega
    rw [memoryShare, hmax,
      Int.tdiv_eq_ediv_of_nonneg (by exact_mod_cast Nat.zero_le _),
      ← hcast (s.memoryGb * max 1 units / s.gpuCount)]
    norm_cast
  have hquotient : 1 ≤ s.memoryGb * max 1 units / s.gpuCount := by
    rw [Nat.one_le_div_iff (by omega)]
    exact hmemory.trans (Nat.le_mul_of_pos_right _ (by omega))
  rw [hshare, max_eq_right hquotient]
  exact_mod_cast Nat.mul_div_le _ _

def Limited (runtime : UnifiedRuntimeRecord) : Prop :=
  ReadyPod runtime ∧ runtime.memoryGbAllocated.isSome

instance (runtime : UnifiedRuntimeRecord) : Decidable (Limited runtime) :=
  inferInstanceAs (Decidable (_ ∧ _))

theorem Limited.devices (h : Limited runtime) (hsized : Sized s runtime) :
    Fitted s (originalDevices runtime) ∧ ∃ m,
      runtime.memoryGbAllocated = some m ∧
      m ≤ memoryShare s (originalDevices runtime).length := by
  obtain ⟨⟨hkind, -⟩, hsome⟩ := h
  obtain ⟨m, hm⟩ := Option.isSome_iff_exists.mp hsome
  obtain ⟨devices, hdevices, hfitted, -, hle⟩ := hsized hkind m hm
  rw [originalDevices, hdevices]
  exact ⟨hfitted, m, hm, hle⟩

theorem memoryAllotted_cons_of_limited (h : Limited runtime) :
    memoryAllotted (runtime :: runtimes) =
      runtime.memoryGbAllocated.getD 0 + memoryAllotted runtimes := by
  obtain ⟨hready, hsome⟩ := h
  obtain ⟨m, hm⟩ := Option.isSome_iff_exists.mp hsome
  simp [memoryAllotted, hready, hm]

theorem memoryAllotted_cons_of_not_limited (h : ¬Limited runtime) :
    memoryAllotted (runtime :: runtimes) = memoryAllotted runtimes := by
  by_cases hready : ReadyPod runtime
  · have hnone : runtime.memoryGbAllocated = none := by
      by_contra hsome
      exact h ⟨hready, Option.isSome_iff_ne_none.mpr hsome⟩
    simp [memoryAllotted, hready, hnone]
  · simp [memoryAllotted, hready]

theorem memoryAllotted_filter_limited :
    memoryAllotted (runtimes.filter fun runtime => Limited runtime) =
      memoryAllotted runtimes := by
  induction runtimes with
  | nil => rfl
  | cons runtime rest ih =>
      by_cases h : Limited runtime
      · rw [List.filter_cons_of_pos (by simpa using h),
          memoryAllotted_cons_of_limited h, memoryAllotted_cons_of_limited h, ih]
      · rw [List.filter_cons_of_neg (by simpa using h), ih,
          memoryAllotted_cons_of_not_limited h]

theorem memoryAllotted_le (hgpus : 1 ≤ s.gpuCount)
    (hmemory : s.gpuCount ≤ s.memoryGb)
    (hsized : ∀ runtime ∈ runtimes, Sized s runtime) :
    s.gpuCount * memoryAllotted runtimes ≤
      (s.memoryGb * slots runtimes : Nat) := by
  induction runtimes with
  | nil => simp [memoryAllotted, slots]
  | cons runtime rest ih =>
      obtain ⟨hfirst, hrest⟩ := List.forall_mem_cons.mp hsized
      have ih := ih hrest
      have hslots : slots (runtime :: rest) =
          slotsOf runtime + slots rest := rfl
      rw [hslots, Nat.mul_add, Nat.cast_add]
      by_cases hlimited : Limited runtime
      · obtain ⟨-, m, hm, hle⟩ := hlimited.devices hfirst
        have hshare := memoryShare_le hgpus hmemory
          (originalDevices runtime).length
        have hm' : (s.gpuCount : Int) * m ≤
            s.gpuCount * memoryShare s (originalDevices runtime).length :=
          Int.mul_le_mul_of_nonneg_left hle (Int.natCast_nonneg _)
        rw [memoryAllotted_cons_of_limited hlimited, hm, Option.getD_some,
          mul_add, slotsOf, if_pos hlimited.1]
        exact add_le_add (hm'.trans hshare) ih
      · rw [memoryAllotted_cons_of_not_limited hlimited]
        exact ih.trans (by exact_mod_cast Nat.le_add_left _ _)

theorem memoryAllotted_fits (hgpus : 1 ≤ s.gpuCount)
    (hmemory : s.gpuCount ≤ s.memoryGb)
    (hsized : ∀ runtime ∈ runtimes, Sized s runtime)
    (hslots : slots runtimes ≤ s.gpuCount) :
    memoryAllotted runtimes ≤ s.memoryGb := by
  have hbound : (s.gpuCount : Int) * memoryAllotted runtimes ≤
      s.gpuCount * s.memoryGb := by
    refine (memoryAllotted_le hgpus hmemory hsized).trans ?_
    rw [mul_comm (s.gpuCount : Int)]
    exact_mod_cast Nat.mul_le_mul_left _ hslots
  exact Int.le_of_mul_le_mul_left hbound (by exact_mod_cast hgpus)

/-! ## Pods with GPUs -/

theorem sum_card_le {n : Nat} {sets : List (Finset Nat)}
    (hapart : sets.Pairwise Disjoint)
    (hrange : ∀ set ∈ sets, ∀ x ∈ set, x < n) :
    (sets.map Finset.card).sum ≤ n := by
  have hsubset : sets.foldr (· ∪ ·) ∅ ⊆ Finset.range n := by
    intro x hx
    obtain ⟨set, hset, hxset⟩ := GpuAllocator.mem_foldr_union.mp hx
    exact Finset.mem_range.mpr (hrange set hset x hxset)
  rw [← GpuAllocator.card_foldr_union hapart]
  simpa using Finset.card_le_card hsubset

def gpuPods (runtimes : List UnifiedRuntimeRecord) :
    List UnifiedRuntimeRecord :=
  (withDevices runtimes).filter fun runtime => Limited runtime

theorem PassesRun.mem_gpuPods (h : PassesRun s w)
    (hmem : runtime ∈ gpuPods w.runtimes.snapshot) :
    runtime ∈ w.runtimes.snapshot ∧ originalDevices runtime ≠ [] ∧
      ReadyPod runtime ∧ Fitted s (originalDevices runtime) := by
  simp only [gpuPods, withDevices, List.mem_filter, decide_eq_true_eq] at hmem
  obtain ⟨⟨hmem, hne⟩, hlimited⟩ := hmem
  have hsized := h.allSized.1 _ runtime (.inl (Table.mem_snapshot_iff.mp hmem))
  exact ⟨hmem, hne, hlimited.1, (hlimited.devices hsized).1⟩

theorem PassesRun.gpuPods_apart (h : PassesRun s w) :
    ((gpuPods w.runtimes.snapshot).map fun runtime =>
      (originalDevices runtime).toFinset).Pairwise Disjoint := by
  have hids : (gpuPods w.runtimes.snapshot).Pairwise fun first second =>
      first.deploymentId ≠ second.deploymentId :=
    ((List.pairwise_map.mp w.runtimes.snapshot_nodup).filter _).filter _
  refine List.pairwise_map.mpr (hids.imp_of_mem ?_)
  intro first second hfirst hsecond hne
  obtain ⟨hmem, -, hready, -⟩ := h.mem_gpuPods hfirst
  obtain ⟨hmem', -, hready', -⟩ := h.mem_gpuPods hsecond
  exact h.apart hmem hmem' hne hready.2 hready'.2

theorem PassesRun.slots_gpuPods (h : PassesRun s w) :
    slots (gpuPods w.runtimes.snapshot) =
      (((gpuPods w.runtimes.snapshot).map fun runtime =>
        (originalDevices runtime).toFinset).map Finset.card).sum := by
  rw [slots, List.map_map]
  refine congrArg List.sum (List.map_congr_left fun runtime hmem => ?_)
  obtain ⟨-, hne, hready, hfitted⟩ := h.mem_gpuPods hmem
  have hpos := List.length_pos_iff.mpr hne
  rw [slotsOf, if_pos hready, Function.comp_apply,
    List.toFinset_card_of_nodup (hfitted.ascending.imp fun hlt => hlt.ne)]
  omega

theorem PassesRun.slots_le (h : PassesRun s w) :
    slots (gpuPods w.runtimes.snapshot) ≤ s.gpuCount := by
  rw [h.slots_gpuPods]
  refine sum_card_le h.gpuPods_apart fun set hset x hx => ?_
  obtain ⟨runtime, hmem, rfl⟩ := List.mem_map.mp hset
  obtain ⟨-, -, -, hfitted⟩ := h.mem_gpuPods hmem
  exact hfitted.inRange x (List.mem_toFinset.mp hx)

/--
The ready pods with GPUs fit into the host's memory, and so do all ready pods
while those without GPUs find slots besides them.
-/
theorem ready_pods_fit_memory (hgpus : 1 ≤ s.gpuCount)
    (hmemory : s.gpuCount ≤ s.memoryGb) (h : PassesRun s w) :
    memoryAllotted (withDevices w.runtimes.snapshot) ≤ s.memoryGb ∧
      (slots w.runtimes.snapshot ≤ s.gpuCount →
        memoryAllotted w.runtimes.snapshot ≤ s.memoryGb) := by
  have hsized : ∀ runtime ∈ w.runtimes.snapshot, Sized s runtime :=
    fun runtime hmem =>
      h.allSized.1 _ runtime (.inl (Table.mem_snapshot_iff.mp hmem))
  refine ⟨?_, memoryAllotted_fits hgpus hmemory hsized⟩
  rw [← memoryAllotted_filter_limited]
  refine memoryAllotted_fits hgpus hmemory (fun runtime hmem => ?_) h.slots_le
  simp only [withDevices, List.mem_filter] at hmem
  exact hsized runtime hmem.1.1

/-! ## Pods without GPUs on a host with one -/

/-- One pod without GPUs and one with a GPU. -/
def mixedHost : Environment :=
  cooperative [{ leaseOn "pod-1" with workloadId := "ssh" }, leaseOn "pod-2"]
    (fun id => some (if id = "ssh" then sshPod else ubuntuPod)) fun _ => none

theorem mixedHost_floored : mixedHost.Respects floored := by
  intro w e
  cases e with
  | getWorkload id =>
      show 1 ≤ requestedGpus (if id = "ssh" then sshPod else ubuntuPod)
      split <;> decide
  | _ => exact trivial

def mixedNode : World :=
  replayed mixedHost (reconcileOnce { gpuCount := 2 } "hotkey")
    (.init { gpuCount := 2 })

theorem mixedNode_passesRun : PassesRun { gpuCount := 2 } mixedNode := by
  obtain ⟨r, hexec⟩ := replayed_exec mixedHost_floored
    (p := reconcileOnce { gpuCount := 2 } "hotkey")
    (w := .init { gpuCount := 2 }) rfl
  exact .inl (.serve .boot (.reconcile "hotkey") hexec)

/-- There is a slot for each of the two pods. -/
theorem ready_pods_fit_memory_mixedNode :
    mixedNode.runtimes.snapshot.map originalDevices = [[], [0]] ∧
      memoryAllotted (withDevices mixedNode.runtimes.snapshot) ≤
        (({ gpuCount := 2 } : Settings).memoryGb : Int) ∧
      memoryAllotted mixedNode.runtimes.snapshot ≤
        (({ gpuCount := 2 } : Settings).memoryGb : Int) := by
  obtain ⟨hdevices, hall⟩ := ready_pods_fit_memory (s := { gpuCount := 2 })
    (by decide) (by decide) mixedNode_passesRun
  exact ⟨rfl, hdevices, hall (by decide)⟩

def twoCpuPodsNode : World :=
  replayed (sshHost [leaseOn "pod-1", leaseOn "pod-2"])
    (reconcileOnce {} "hotkey") (.init {})

/-- Two pods without GPUs have the memory of the whole host each. -/
theorem cpu_pods_exceed_memory :
    1 ≤ ({} : Settings).gpuCount ∧
      ({} : Settings).gpuCount ≤ ({} : Settings).memoryGb ∧
      PassesRun {} twoCpuPodsNode ∧
      ¬memoryAllotted twoCpuPodsNode.runtimes.snapshot ≤
        (({} : Settings).memoryGb : Int) := by
  refine ⟨by decide, by decide, ?_, by decide⟩
  have hfloored : (sshHost [leaseOn "pod-1", leaseOn "pod-2"]).Respects
      floored := cooperative_floored _ _ (by decide : 1 ≤ requestedGpus sshPod)
  obtain ⟨r, hexec⟩ := replayed_exec hfloored
    (p := reconcileOnce {} "hotkey") (w := .init {}) rfl
  exact .inl (.serve .boot (.reconcile "hotkey") hexec)

end NodeAgent
