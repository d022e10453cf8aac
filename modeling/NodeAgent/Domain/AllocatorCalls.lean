import NodeAgent.Domain.GpuAllocator
import Mathlib.Data.Finset.Sort

/-!
# Sequences of calls on the GPU allocator

Callers mix the four methods in any order.  What a call answers and what it
leaves are read off one method each; the sets of distinct deployments stay
apart unless a rehydrated set already overlaps one of them.
-/

namespace NodeAgent.GpuAllocator

open Effectful

inductive Call where
  | allocate (deploymentId : String) (gpuCount : Int) (avoid : Finset Nat)
  | allocateSpecific (deploymentId : String) (devices : List Nat)
  | release (deploymentId : String)
  | rehydrate (deploymentId : String) (devices : List Nat)

namespace Call

def deploymentId : Call → String
  | .allocate deploymentId .. => deploymentId
  | .allocateSpecific deploymentId _ => deploymentId
  | .release deploymentId => deploymentId
  | .rehydrate deploymentId _ => deploymentId

/-- The devices returned, or what was raised; `rehydrate` returns nothing. -/
def answer : Call → GpuAllocator → Except Exn (List Nat)
  | .allocate d gpuCount avoid, g => (g.allocate d gpuCount avoid).1
  | .allocateSpecific d devices, g => (g.allocateSpecific d devices).1
  | .release d, g => .ok ((g.release d).1.sort)
  | .rehydrate _ _, _ => .ok []

def apply : Call → GpuAllocator → GpuAllocator
  | .allocate d gpuCount avoid, g => (g.allocate d gpuCount avoid).2
  | .allocateSpecific d devices, g => (g.allocateSpecific d devices).2
  | .release d, g => (g.release d).2
  | .rehydrate d devices, g => g.rehydrate d devices

/-- The call rehydrates no device that another deployment holds. -/
def Apart (g : GpuAllocator) : Call → Prop
  | .rehydrate d devices =>
      ∀ b, d ≠ b → Disjoint devices.toFinset (g.getAllocation b)
  | _ => True

end Call

def freeCount (g : GpuAllocator) : Nat := g.freeDevices.card

def usedCount (g : GpuAllocator) : Int := g.totalGpus - g.freeCount

def afterCalls (g : GpuAllocator) : List Call → GpuAllocator
  | [] => g
  | call :: calls => (call.apply g).afterCalls calls

/-- No call of the sequence rehydrates over another deployment. -/
def AllApart (g : GpuAllocator) : List Call → Prop
  | [] => True
  | call :: calls => call.Apart g ∧ (call.apply g).AllApart calls

def PairwiseDisjoint (g : GpuAllocator) : Prop :=
  ∀ d b, d ≠ b → Disjoint (g.getAllocation d) (g.getAllocation b)

variable {g : GpuAllocator} {d : String} {devices : Finset Nat}

theorem Call.apply_cases (call : Call) (g : GpuAllocator) :
    call.apply g = g ∨
    call.apply g = (g.release call.deploymentId).2 ∨
    (∃ devices : Finset Nat,
      (∀ x ∈ devices, x ∈ g.freeDevices ∨
        x ∈ g.getAllocation call.deploymentId) ∧
      call.apply g = g.assign call.deploymentId devices) ∨
    ∃ d devices, call = .rehydrate d devices := by
  cases call with
  | allocate d n avoid =>
      rcases g.allocate_cases d n avoid with
        ⟨-, heq⟩ | ⟨-, message, heq⟩ | ⟨-, -, heq⟩
      · simp [apply, heq]
      · simp [apply, heq]
      · right; right; left
        refine ⟨((g.usable avoid).take n.toNat).toFinset, fun x hx => ?_,
          by simp only [apply, heq, deploymentId]⟩
        have husable := List.mem_of_mem_take (List.mem_toFinset.mp hx)
        exact .inl (mem_usable.mp husable).1
  | allocateSpecific d devices =>
      rcases g.allocateSpecific_cases d devices with
        ⟨-, heq⟩ | ⟨-, ⟨message, heq⟩, -⟩ | ⟨-, havailable, heq⟩
      · simp [apply, heq]
      · simp [apply, heq]
      · right; right; left
        refine ⟨devices.toFinset, fun x hx => ?_,
          by simp only [apply, heq, deploymentId]⟩
        exact havailable x (List.mem_toFinset.mp hx)
  | release d => simp [apply, deploymentId]
  | rehydrate d devices => simp

@[simp] theorem Call.totalGpus_apply (call : Call) (g : GpuAllocator) :
    (call.apply g).totalGpus = g.totalGpus := by
  rcases call.apply_cases g with heq | heq | ⟨devices, -, heq⟩ | ⟨d, devices, rfl⟩
  · rw [heq]
  · rw [heq, totalGpus_release]
  · rw [heq, totalGpus_assign]
  · rfl

@[simp] theorem totalGpus_afterCalls (g : GpuAllocator) (calls : List Call) :
    (g.afterCalls calls).totalGpus = g.totalGpus := by
  induction calls generalizing g with
  | nil => rfl
  | cons call calls ih => simp [afterCalls, ih]

theorem Call.getAllocation_apply (call : Call) (g : GpuAllocator)
    (hd : call.deploymentId ≠ d) :
    (call.apply g).getAllocation d = g.getAllocation d := by
  rcases call.apply_cases g with heq | heq | ⟨devices, -, heq⟩ | ⟨b, devices, rfl⟩
  · rw [heq]
  · rw [heq, getAllocation_release_of_ne g hd]
  · rw [heq, getAllocation_assign_of_ne g devices hd]
  · exact getAllocation_assign_of_ne g _ hd

theorem Call.apply_of_raises (call : Call) (g : GpuAllocator) {e : Exn}
    (h : call.answer g = .error e) : call.apply g = g := by
  cases call with
  | allocate d n avoid =>
      rcases g.allocate_cases d n avoid with
        ⟨-, heq⟩ | ⟨-, message, heq⟩ | ⟨-, -, heq⟩
      · simp [apply, heq]
      · simp [apply, heq]
      · simp [answer, heq] at h
  | allocateSpecific d devices =>
      rcases g.allocateSpecific_cases d devices with
        ⟨-, heq⟩ | ⟨-, ⟨message, heq⟩, -⟩ | ⟨-, -, heq⟩
      · simp [apply, heq]
      · simp [apply, heq]
      · simp [answer, heq] at h
  | release d => simp [answer] at h
  | rehydrate d devices => simp [answer] at h

/-! ## What `allocate` answers -/

theorem usable_card (g : GpuAllocator) (avoid : Finset Nat) :
    (g.usable avoid).length = (g.freeDevices \ avoid).card := by
  have hnodup : (g.usable avoid).Nodup :=
    (usable_sorted g avoid).imp fun hlt => hlt.ne
  rw [← List.toFinset_card_of_nodup hnodup]
  congr 1
  ext x
  simp [mem_usable]

theorem allocate_raises_iff (g : GpuAllocator) (d : String) {n : Int}
    (avoid : Finset Nat) (hn : 0 < n) :
    (∃ e, (g.allocate d n avoid).1 = .error e) ↔
      g.totalGpus < n ∨ (g.freeDevices \ avoid).card < n := by
  rw [← usable_card]
  unfold allocate
  by_cases htotal : n > g.totalGpus
  · simp [not_le.mpr hn, htotal]
  · by_cases hfree : ((g.usable avoid).length : Int) < n
    · simp [not_le.mpr hn, htotal, hfree]
    · simp [not_le.mpr hn, htotal, hfree]

theorem mem_take_of_lt {devices : List Nat} {n x y : Nat}
    (hsorted : Ascending devices) (hx : x ∈ devices.take n)
    (hy : y ∈ devices) (hlt : y < x) : y ∈ devices.take n := by
  have hsplit : y ∈ devices.take n ++ devices.drop n := by
    rwa [List.take_append_drop]
  rcases List.mem_append.mp hsplit with htake | hdrop
  · exact htake
  · have happend : Ascending (devices.take n ++ devices.drop n) := by
      rwa [List.take_append_drop]
    have := (List.pairwise_append.mp happend).2.2 x hx y hdrop
    omega

/--
`devices` are the `n` smallest members of `candidates`, in ascending order.
-/
structure Smallest (candidates : Finset Nat) (n : Int) (devices : List Nat) :
    Prop where
  length : devices.length = n
  ascending : Ascending devices
  subset : ∀ x ∈ devices, x ∈ candidates
  least : ∀ x ∈ devices, ∀ y ∈ candidates, y < x → y ∈ devices

theorem allocate_smallest (g : GpuAllocator) (d : String) {n : Int}
    (avoid : Finset Nat) (hn : 0 < n) {devices : List Nat}
    (h : (g.allocate d n avoid).1 = .ok devices) :
    Smallest (g.freeDevices \ avoid) n devices ∧
      (g.allocate d n avoid).2.getAllocation d = devices.toFinset := by
  rcases g.allocate_cases d n avoid with
    ⟨hle, heq⟩ | ⟨-, message, heq⟩ | ⟨-, henough, heq⟩
  · omega
  · simp [heq] at h
  · have htaken : (g.usable avoid).take n.toNat = devices := by simpa [heq] using h
    subst htaken
    refine ⟨⟨?_, ?_, fun x hx => ?_, fun x hx y hy hlt => ?_⟩, by simp [heq]⟩
    · rw [List.length_take]
      omega
    · exact (usable_sorted g avoid).sublist (List.take_sublist _ _)
    · simpa [mem_usable] using mem_usable.mp (List.mem_of_mem_take hx)
    · refine mem_take_of_lt (usable_sorted g avoid) hx ?_ hlt
      simpa [mem_usable] using hy

/-! ## Disjointness over a sequence -/

theorem PairwiseDisjoint.release (h : g.PairwiseDisjoint) (d : String) :
    (g.release d).2.PairwiseDisjoint := by
  intro a b hab
  by_cases ha : d = a
  · subst ha
    simp
  · by_cases hb : d = b
    · subst hb
      simp
    · rw [getAllocation_release_of_ne g ha, getAllocation_release_of_ne g hb]
      exact h a b hab

theorem PairwiseDisjoint.assign (h : g.PairwiseDisjoint)
    (hdevices : ∀ b, d ≠ b → Disjoint devices (g.getAllocation b)) :
    (g.assign d devices).PairwiseDisjoint := by
  intro a b hab
  by_cases ha : d = a
  · subst ha
    rw [getAllocation_assign_self, getAllocation_assign_of_ne g devices hab]
    exact hdevices b hab
  · rw [getAllocation_assign_of_ne g devices ha]
    by_cases hb : d = b
    · subst hb
      rw [getAllocation_assign_self]
      exact (hdevices a ha).symm
    · rw [getAllocation_assign_of_ne g devices hb]
      exact h a b hab

theorem PairwiseDisjoint.apply (h : g.PairwiseDisjoint) {call : Call}
    (hcall : call.Apart g) : (call.apply g).PairwiseDisjoint := by
  rcases call.apply_cases g with
    heq | heq | ⟨devices, havailable, heq⟩ | ⟨d, devices, rfl⟩
  · rwa [heq]
  · rw [heq]
    exact h.release _
  · rw [heq]
    refine h.assign fun b hb => Finset.disjoint_left.mpr fun x hx hheld => ?_
    rcases havailable x hx with hfree | hown
    · exact (mem_freeDevices.mp hfree).2 b hheld
    · exact Finset.disjoint_left.mp (h _ b hb) hown hheld
  · exact h.assign hcall

theorem PairwiseDisjoint.afterCalls {calls : List Call}
    (h : g.PairwiseDisjoint) (hcalls : g.AllApart calls) :
    (g.afterCalls calls).PairwiseDisjoint := by
  induction calls generalizing g with
  | nil => exact h
  | cons call calls ih => exact ih (h.apply hcalls.1) hcalls.2

theorem pairwiseDisjoint_init (totalGpus : Nat) :
    (init totalGpus).PairwiseDisjoint := by
  intro d b _
  simp

theorem afterCalls_consistent (totalGpus : Nat) (calls : List Call) :
    let g := (init totalGpus).afterCalls calls
    (∀ x, x ∈ g.freeDevices ↔ x < totalGpus ∧ ∀ d, x ∉ g.getAllocation d) ∧
    g.usedCount + g.freeCount = totalGpus ∧
    (∀ d n avoid, 0 < n →
      ((∃ e, (g.allocate d n avoid).1 = .error e) ↔
        totalGpus < n ∨ (g.freeDevices \ avoid).card < n) ∧
      ∀ devices, (g.allocate d n avoid).1 = .ok devices →
        Smallest (g.freeDevices \ avoid) n devices ∧
        (g.allocate d n avoid).2.getAllocation d = devices.toFinset) ∧
    (∀ (call : Call) e, call.answer g = .error e → call.apply g = g) ∧
    (∀ (call : Call) d, call.deploymentId ≠ d →
      (call.apply g).getAllocation d = g.getAllocation d) ∧
    ((init totalGpus).AllApart calls → g.PairwiseDisjoint) := by
  intro g
  have htotal : g.totalGpus = totalGpus := totalGpus_afterCalls _ calls
  refine ⟨fun x => ?_, ?_, fun d n avoid hn => ⟨?_, ?_⟩, ?_, ?_, ?_⟩
  · rw [mem_freeDevices, htotal]
  · simp [usedCount, htotal]
  · rw [← htotal]
    exact g.allocate_raises_iff d avoid hn
  · exact fun devices h => g.allocate_smallest d avoid hn h
  · exact fun call e h => call.apply_of_raises g h
  · exact fun call d hd => call.getAllocation_apply g hd
  · exact (pairwiseDisjoint_init totalGpus).afterCalls

def twoTenants : List Call :=
  [.rehydrate "pod-1" [2], .allocate "pod-2" 2 {0}]

theorem afterCalls_consistent_twoTenants :
    let g := (init 4).afterCalls twoTenants
    g.PairwiseDisjoint ∧ ∃ e, (g.allocate "pod-3" 2 ∅).1 = .error e := by
  have h := afterCalls_consistent 4 twoTenants
  refine ⟨h.2.2.2.2.2 ⟨fun b _ => by simp, trivial, trivial⟩, ?_⟩
  exact (h.2.2.1 "pod-3" 2 ∅ (by decide)).1.mpr (.inr (by decide))

end NodeAgent.GpuAllocator
