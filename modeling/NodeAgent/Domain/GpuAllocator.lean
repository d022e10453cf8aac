import NodeAgent.Protocol
import NodeAgent.Foundation.Dict
import Mathlib.Algebra.Ring.Int.Defs
import Mathlib.Algebra.Ring.Nat
import Mathlib.Data.Finset.Lattice.Fold
import Mathlib.Data.List.Sort
import Mathlib.Data.List.Dedup

/-!
# Which deployment holds which GPU

The allocator of one node.  Sets of device indices are finite sets of numbers;
`sorted(...)` of such a set is the ascending list of its members.  Every method
is one step, since the source takes its lock around it.
-/

namespace NodeAgent

open Effectful

structure GpuAllocator where
  totalGpus : Nat
  allocations : Dict String (Finset Nat)

namespace GpuAllocator

def init (totalGpus : Nat) : GpuAllocator := ⟨totalGpus, .empty⟩

def deviceIds (g : GpuAllocator) : Finset Nat := Finset.range g.totalGpus

def allocatedDevices (g : GpuAllocator) : Finset Nat :=
  g.allocations.values.foldr (· ∪ ·) ∅

def freeDevices (g : GpuAllocator) : Finset Nat :=
  g.deviceIds \ g.allocatedDevices

/-- `self._allocations.get(deployment_id, set())`. -/
def getAllocation (g : GpuAllocator) (deploymentId : String) : Finset Nat :=
  (g.allocations.get? deploymentId).getD ∅

/-- `sorted(self.free_devices - avoid)`. -/
def usable (g : GpuAllocator) (avoid : Finset Nat) : List Nat :=
  (List.range g.totalGpus).filter fun device =>
    device ∈ g.freeDevices \ avoid

def sortedDevices (devices : List Nat) : List Nat :=
  devices.dedup.insertionSort (· ≤ ·)

def assign (g : GpuAllocator) (deploymentId : String) (devices : Finset Nat) :
    GpuAllocator :=
  { g with allocations := g.allocations.insert deploymentId devices }

def allocate (g : GpuAllocator) (deploymentId : String) (gpuCount : Int)
    (avoid : Finset Nat) : Except Exn (List Nat) × GpuAllocator :=
  if gpuCount ≤ 0 then (.ok [], g)
  else if gpuCount > g.totalGpus then
    (.error (.gpuAllocationError
      s!"requested {gpuCount} GPUs but node only has {g.totalGpus}"), g)
  else
    let free := g.usable avoid
    if free.length < gpuCount then
      let extra := if avoid = ∅ then ""
        else s!", {avoid.card} in use by non-GreenCompute processes"
      (.error (.gpuAllocationError
        s!"requested {gpuCount} GPUs but only {free.length} usable free (total={g.totalGpus}, used by {g.allocations.entries.length} workloads{extra})"), g)
    else
      let allocated := free.take gpuCount.toNat
      (.ok allocated, g.assign deploymentId allocated.toFinset)

def allocateSpecific (g : GpuAllocator) (deploymentId : String)
    (devices : List Nat) : Except Exn (List Nat) × GpuAllocator :=
  let want := sortedDevices devices
  if want = [] then (.ok [], g)
  else
    let available := g.freeDevices ∪ g.getAllocation deploymentId
    if want.toFinset ⊆ available then
      (.ok want, g.assign deploymentId want.toFinset)
    else
      let taken := want.filter fun device => device ∉ available
      (.error (.gpuAllocationError
        s!"cannot reserve devices {want} for {deploymentId}: {taken} already in use by another workload"), g)

/-- The freed devices; the source returns them as a sorted list. -/
def release (g : GpuAllocator) (deploymentId : String) :
    Finset Nat × GpuAllocator :=
  (g.getAllocation deploymentId,
    { g with allocations := g.allocations.erase deploymentId })

/-- Record a persisted allocation, whether or not it overlaps another one. -/
def rehydrate (g : GpuAllocator) (deploymentId : String)
    (devices : List Nat) : GpuAllocator :=
  g.assign deploymentId devices.toFinset

/-! ## What each method does to the allocations -/

@[simp] theorem getAllocation_init (totalGpus : Nat) (d : String) :
    (init totalGpus).getAllocation d = ∅ := rfl

@[simp] theorem getAllocation_assign_self (g : GpuAllocator) (d : String)
    (devices : Finset Nat) : (g.assign d devices).getAllocation d = devices := by
  simp [assign, getAllocation]

@[simp] theorem getAllocation_assign_of_ne (g : GpuAllocator) {d d' : String}
    (devices : Finset Nat) (h : d ≠ d') :
    (g.assign d devices).getAllocation d' = g.getAllocation d' := by
  simp [assign, getAllocation, h]

@[simp] theorem totalGpus_assign (g : GpuAllocator) (d : String)
    (devices : Finset Nat) : (g.assign d devices).totalGpus = g.totalGpus := rfl

@[simp] theorem getAllocation_release_self (g : GpuAllocator) (d : String) :
    (g.release d).2.getAllocation d = ∅ := by
  simp [release, getAllocation]

@[simp] theorem getAllocation_release_of_ne (g : GpuAllocator)
    {d d' : String} (h : d ≠ d') :
    (g.release d).2.getAllocation d' = g.getAllocation d' := by
  simp [release, getAllocation, h]

@[simp] theorem totalGpus_release (g : GpuAllocator) (d : String) :
    (g.release d).2.totalGpus = g.totalGpus := rfl

theorem release_assign (g : GpuAllocator) {d : String} (devices : Finset Nat)
    (h : g.allocations.get? d = none) :
    ((g.assign d devices).release d).2 = g := by
  simp only [release, assign, Dict.erase_insert_of_none devices h]

theorem mem_foldr_union {sets : List (Finset Nat)} {x : Nat} :
    x ∈ sets.foldr (· ∪ ·) ∅ ↔ ∃ set ∈ sets, x ∈ set := by
  induction sets with
  | nil => simp
  | cons set sets ih => simp [ih]

theorem mem_allocatedDevices {g : GpuAllocator} {x : Nat} :
    x ∈ g.allocatedDevices ↔ ∃ d, x ∈ g.getAllocation d := by
  simp only [allocatedDevices, mem_foldr_union, Dict.mem_values_iff]
  constructor
  · rintro ⟨set, ⟨d, hd⟩, hx⟩
    exact ⟨d, by simpa [getAllocation, hd] using hx⟩
  · rintro ⟨d, hx⟩
    cases hd : g.allocations.get? d with
    | none => simp [getAllocation, hd] at hx
    | some set =>
        exact ⟨set, ⟨d, hd⟩, by simpa [getAllocation, hd] using hx⟩

theorem mem_freeDevices {g : GpuAllocator} {x : Nat} :
    x ∈ g.freeDevices ↔ x < g.totalGpus ∧ ∀ d, x ∉ g.getAllocation d := by
  simp [freeDevices, deviceIds, mem_allocatedDevices]

theorem mem_usable {g : GpuAllocator} {avoid : Finset Nat} {x : Nat} :
    x ∈ g.usable avoid ↔ x ∈ g.freeDevices ∧ x ∉ avoid := by
  simp only [usable, List.mem_filter, List.mem_range, Finset.mem_sdiff,
    decide_eq_true_eq, and_iff_right_iff_imp]
  exact fun h => (mem_freeDevices.mp h.1).1

theorem usable_sorted (g : GpuAllocator) (avoid : Finset Nat) :
    (g.usable avoid).Pairwise (· < ·) :=
  List.pairwise_lt_range.filter _

def Ascending (devices : List Nat) : Prop := devices.Pairwise (· < ·)

@[simp] theorem mem_sortedDevices {devices : List Nat} {x : Nat} :
    x ∈ sortedDevices devices ↔ x ∈ devices := by
  simp [sortedDevices]

@[simp] theorem toFinset_sortedDevices (devices : List Nat) :
    (sortedDevices devices).toFinset = devices.toFinset := by
  ext x
  simp

theorem sortedDevices_of_ascending {devices : List Nat}
    (h : Ascending devices) : sortedDevices devices = devices := by
  have hnodup : devices.Nodup := h.imp fun hlt => hlt.ne
  rw [sortedDevices, hnodup.dedup]
  exact List.Pairwise.insertionSort_eq (h.imp fun hlt => hlt.le)

@[simp] theorem sortedDevices_eq_nil {devices : List Nat} :
    sortedDevices devices = [] ↔ devices = [] := by
  constructor
  · intro h
    refine List.eq_nil_iff_forall_not_mem.mpr fun x hx => ?_
    have hx' : x ∈ sortedDevices devices := mem_sortedDevices.mpr hx
    simp [h] at hx'
  · rintro rfl
    rfl

/--
Everything `allocate` can do: nothing for a count that is not positive, the
first usable devices, or an allocation error that changes nothing.
-/
theorem allocate_cases (g : GpuAllocator) (d : String) (n : Int)
    (avoid : Finset Nat) :
    (n ≤ 0 ∧ g.allocate d n avoid = (.ok [], g)) ∨
    (0 < n ∧ ∃ message,
      g.allocate d n avoid = (.error (.gpuAllocationError message), g)) ∨
    (0 < n ∧ n ≤ (g.usable avoid).length ∧
      g.allocate d n avoid = (.ok ((g.usable avoid).take n.toNat),
        g.assign d ((g.usable avoid).take n.toNat).toFinset)) := by
  unfold allocate
  by_cases hn : n ≤ 0
  · exact .inl ⟨hn, by simp [hn]⟩
  · have hpos : 0 < n := by omega
    refine .inr ?_
    by_cases htotal : n > g.totalGpus
    · exact .inl ⟨hpos, _, by rw [if_neg hn, if_pos htotal]⟩
    · by_cases hfree : ((g.usable avoid).length : Int) < n
      · refine .inl ⟨hpos, ?_⟩
        simp only [if_neg hn, if_neg htotal, if_pos hfree]
        exact ⟨_, rfl⟩
      · refine .inr ⟨hpos, by omega, ?_⟩
        simp only [if_neg hn, if_neg htotal, if_neg hfree]

theorem allocateSpecific_cases (g : GpuAllocator) (d : String)
    (devices : List Nat) :
    (devices = [] ∧ g.allocateSpecific d devices = (.ok [], g)) ∨
    (devices ≠ [] ∧ (∃ message, g.allocateSpecific d devices =
        (.error (.gpuAllocationError message), g)) ∧
      ∃ x ∈ devices, ¬(x ∈ g.freeDevices ∨ x ∈ g.getAllocation d)) ∨
    (devices ≠ [] ∧ (∀ x ∈ devices, x ∈ g.freeDevices ∨ x ∈ g.getAllocation d) ∧
      g.allocateSpecific d devices =
        (.ok (sortedDevices devices), g.assign d devices.toFinset)) := by
  by_cases hempty : devices = []
  · subst hempty
    exact .inl ⟨rfl, rfl⟩
  · refine .inr ?_
    simp only [allocateSpecific, sortedDevices_eq_nil, if_neg hempty,
      toFinset_sortedDevices]
    by_cases hsub : devices.toFinset ⊆ g.freeDevices ∪ g.getAllocation d
    · refine .inr ⟨hempty, fun x hx => ?_, by rw [if_pos hsub]⟩
      simpa using hsub (by simpa using hx)
    · refine .inl ⟨hempty, ⟨_, by rw [if_neg hsub]⟩, ?_⟩
      simpa [Finset.subset_iff] using hsub

/-! ## Devices of the node, each with one deployment at most -/

structure Partitioned (g : GpuAllocator) (totalGpus : Nat) : Prop where
  total : g.totalGpus = totalGpus
  inRange : ∀ d, ∀ x ∈ g.getAllocation d, x < totalGpus
  unique : ∀ x d b, x ∈ g.getAllocation d → x ∈ g.getAllocation b → d = b

variable {g g' : GpuAllocator} {totalGpus : Nat} {d : String}

theorem partitioned_init : (init totalGpus).Partitioned totalGpus where
  total := rfl
  inRange d x hx := by simp at hx
  unique x d b hx := by simp at hx

theorem Partitioned.mono (h : g.Partitioned totalGpus)
    (htotal : g'.totalGpus = totalGpus)
    (hless : ∀ d, g'.getAllocation d ⊆ g.getAllocation d) :
    g'.Partitioned totalGpus where
  total := htotal
  inRange d x hx := h.inRange d x (hless d hx)
  unique x d b hx hx' := h.unique x d b (hless d hx) (hless b hx')

theorem Partitioned.release (h : g.Partitioned totalGpus) (d : String) :
    (g.release d).2.Partitioned totalGpus := by
  refine h.mono h.total fun b => ?_
  by_cases hb : d = b
  · subst hb
    simp
  · rw [getAllocation_release_of_ne g hb]

theorem Partitioned.assign (h : g.Partitioned totalGpus)
    {devices : Finset Nat} (hdevices : ∀ x ∈ devices,
      x ∈ g.freeDevices ∨ x ∈ g.getAllocation d) :
    (g.assign d devices).Partitioned totalGpus := by
  -- Nobody but `d` holds what `d` is given.
  have hown : ∀ x ∈ devices, ∀ b, x ∈ g.getAllocation b → b = d := by
    intro x hx b hb
    rcases hdevices x hx with hfree | hheld
    · exact absurd hb ((mem_freeDevices.mp hfree).2 b)
    · exact h.unique x b d hb hheld
  refine ⟨h.total, fun b x hx => ?_, fun x b c hb hc => ?_⟩
  · by_cases hbd : d = b
    · subst hbd
      rw [getAllocation_assign_self] at hx
      rcases hdevices x hx with hfree | hheld
      · exact h.total ▸ (mem_freeDevices.mp hfree).1
      · exact h.inRange d x hheld
    · rw [getAllocation_assign_of_ne g devices hbd] at hx
      exact h.inRange b x hx
  · by_cases hbd : d = b
    · subst hbd
      rw [getAllocation_assign_self] at hb
      by_cases hcd : d = c
      · exact hcd
      · rw [getAllocation_assign_of_ne g devices hcd] at hc
        exact (hown x hb c hc).symm
    · rw [getAllocation_assign_of_ne g devices hbd] at hb
      by_cases hcd : d = c
      · subst hcd
        rw [getAllocation_assign_self] at hc
        exact hown x hc b hb
      · rw [getAllocation_assign_of_ne g devices hcd] at hc
        exact h.unique x b c hb hc

theorem Partitioned.allocate (h : g.Partitioned totalGpus) (d : String)
    (n : Int) (avoid : Finset Nat) :
    (g.allocate d n avoid).2.Partitioned totalGpus := by
  rcases g.allocate_cases d n avoid with
    ⟨-, heq⟩ | ⟨-, message, heq⟩ | ⟨-, -, heq⟩
  · rwa [heq]
  · rwa [heq]
  · rw [heq]
    refine h.assign fun x hx => .inl ?_
    have husable := List.mem_of_mem_take (List.mem_toFinset.mp hx)
    exact (mem_usable.mp husable).1

theorem Partitioned.allocateSpecific (h : g.Partitioned totalGpus)
    (d : String) (devices : List Nat) :
    (g.allocateSpecific d devices).2.Partitioned totalGpus := by
  rcases g.allocateSpecific_cases d devices with
    ⟨-, heq⟩ | ⟨-, ⟨message, heq⟩, -⟩ | ⟨-, havailable, heq⟩
  · rwa [heq]
  · rwa [heq]
  · rw [heq]
    exact h.assign fun x hx => havailable x (List.mem_toFinset.mp hx)

theorem card_foldr_union_le (sets : List (Finset Nat)) :
    (sets.foldr (· ∪ ·) ∅).card ≤ (sets.map Finset.card).sum := by
  induction sets with
  | nil => simp
  | cons set sets ih =>
      have := Finset.card_union_le set (sets.foldr (· ∪ ·) ∅)
      simp only [List.foldr_cons, List.map_cons, List.sum_cons]
      omega

theorem card_foldr_union {sets : List (Finset Nat)}
    (h : sets.Pairwise Disjoint) :
    (sets.foldr (· ∪ ·) ∅).card = (sets.map Finset.card).sum := by
  induction h with
  | nil => simp
  | cons hset _ ih =>
      rw [List.foldr_cons, List.map_cons, List.sum_cons, ← ih,
        Finset.card_union_of_disjoint]
      refine Finset.disjoint_left.mpr fun x hx hmem => ?_
      obtain ⟨other, hother, hx'⟩ := mem_foldr_union.mp hmem
      exact Finset.disjoint_left.mp (hset other hother) hx hx'

end GpuAllocator

end NodeAgent
