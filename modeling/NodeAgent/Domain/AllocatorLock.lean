import NodeAgent.Domain.AllocatorCalls
import NodeAgent.Foundation.Always
import NodeAgent.Foundation.SharedDict

/-!
# The GPU allocator as several threads use it

The methods of the allocator down to the single steps they make on the
dictionary `_allocations`, with the reentrant lock taken where the source takes
it.  What a method does by itself is what the allocator of one step does.
-/

namespace NodeAgent.GpuAllocator

open Effectful Program

/-- `_allocations`: deployment id to the devices it holds. -/
abbrev Allocations := Dict String (Finset Nat)

/-- Code that uses `_allocations` and its lock. -/
abbrev Shared (α : Type) :=
  Locked (DictCall String (Finset Nat)) DictCall.Ret Exn α

/-- The `RuntimeError` of a walk over a dictionary that has changed its size. -/
def changedSize : Exn :=
  .unexpected "dictionary changed size during iteration"

def onAllocations :
    (e : DictCall String (Finset Nat)) → Allocations →
      Except Exn e.Ret × Allocations :=
  DictCall.perform changedSize

namespace Shared

def get (deploymentId : String) : Shared (Option (Finset Nat)) :=
  onObject (DictCall.get deploymentId)

def set (deploymentId : String) (devices : Finset Nat) : Shared Unit :=
  onObject (DictCall.set deploymentId devices)

def pop (deploymentId : String) : Shared (Option (Finset Nat)) :=
  onObject (DictCall.pop deploymentId)

def length : Shared Nat := onObject DictCall.length

def next (size index : Nat) : Shared (Option (String × Finset Nat)) :=
  onObject (DictCall.next size index)

def items : Shared (List (String × Finset Nat)) := walk length next

/-- `for devices in self._allocations.values(): used |= devices` -/
def usedDevices : Shared (Finset Nat) :=
  items.bind fun found =>
    .done (.ok ((found.map Prod.snd).foldr (· ∪ ·) ∅))

def allocatedDevices : Shared (Finset Nat) := locked usedDevices

variable (totalGpus : Nat)

def freeDevices : Shared (Finset Nat) :=
  locked (usedDevices.bind fun used =>
    .done (.ok (Finset.range totalGpus \ used)))

def freeCount : Shared Nat :=
  (freeDevices totalGpus).bind fun free => .done (.ok free.card)

def usedCount : Shared Int :=
  (freeCount totalGpus).bind fun free => .done (.ok (totalGpus - free))

/-- The block of `allocate` that has to be one step. -/
def allocate (deploymentId : String) (gpuCount : Int) (avoid : Finset Nat) :
    Shared (List Nat) :=
  locked ((freeDevices totalGpus).bind fun devices =>
    let free := (List.range totalGpus).filter fun device =>
      device ∈ devices \ avoid
    if free.length < gpuCount then
      length.bind fun workloads =>
        let extra := if avoid = ∅ then ""
          else s!", {avoid.card} in use by non-GreenCompute processes"
        .done (.error (.gpuAllocationError
          s!"requested {gpuCount} GPUs but only {free.length} usable free (total={totalGpus}, used by {workloads} workloads{extra})"))
    else
      let allocated := free.take gpuCount.toNat
      (set deploymentId allocated.toFinset).bind fun _ =>
        -- for the log
        (usedCount totalGpus).bind fun _ => .done (.ok allocated))

def allocateSpecific (deploymentId : String) (want : List Nat) :
    Shared (List Nat) :=
  locked ((freeDevices totalGpus).bind fun devices =>
    (get deploymentId).bind fun own =>
      let available := devices ∪ own.getD ∅
      if want.toFinset ⊆ available then
        (set deploymentId want.toFinset).bind fun _ =>
          (usedCount totalGpus).bind fun _ => .done (.ok want)
      else
        let taken := want.filter fun device => device ∉ available
        .done (.error (.gpuAllocationError
          s!"cannot reserve devices {want} for {deploymentId}: {taken} already in use by another workload")))

def release (deploymentId : String) : Shared (List Nat) :=
  locked ((pop deploymentId).bind fun popped =>
    let devices := popped.getD ∅
    (if devices = ∅ then .done (.ok 0) else usedCount totalGpus).bind fun _ =>
      .done (.ok devices.sort))

def getAllocation (deploymentId : String) : Shared (List Nat) :=
  locked ((get deploymentId).bind fun own =>
    .done (.ok (own.getD ∅).sort))

/-- The overlap with the other deployments is found for the warning only. -/
def rehydrate (deploymentId : String) (devices : List Nat) : Shared Unit :=
  locked (items.bind fun _ => set deploymentId devices.toFinset)

end Shared

/-- The dictionary that `status` returns. -/
structure Status where
  totalGpus : Nat
  freeGpus : Nat
  usedGpus : Int
  allocations : List (String × List Nat)

def Shared.status (totalGpus : Nat) : Shared Status :=
  locked ((Shared.freeCount totalGpus).bind fun free =>
    (Shared.usedCount totalGpus).bind fun used =>
      Shared.items.bind fun held => .done (.ok {
        totalGpus := totalGpus
        freeGpus := free
        usedGpus := used
        allocations := held.map fun item => (item.1, item.2.sort) }))

/-! ## The methods, as far as they take the lock -/

/-- `allocate` and `allocate_specific` answer some calls without the lock. -/
inductive Method (totalGpus : Nat) where
  | freeDevices
  | allocatedDevices
  | allocate (deploymentId : String) (gpuCount : Int) (avoid : Finset Nat)
      (asked : 0 < gpuCount ∧ gpuCount ≤ totalGpus)
  | allocateSpecific (deploymentId : String) (devices : List Nat)
      (asked : sortedDevices devices ≠ [])
  | release (deploymentId : String)
  | getAllocation (deploymentId : String)
  | rehydrate (deploymentId : String) (devices : List Nat)
  | status

variable {totalGpus : Nat}

namespace Method

abbrev Ret : Method totalGpus → Type
  | .freeDevices | .allocatedDevices => Finset Nat
  | .allocate .. | .allocateSpecific .. | .release _ | .getAllocation _ =>
      List Nat
  | .rehydrate .. => Unit
  | .status => Status

def body : (o : Method totalGpus) → Shared o.Ret
  | .freeDevices => Shared.freeDevices totalGpus
  | .allocatedDevices => Shared.allocatedDevices
  | .allocate d n avoid _ => Shared.allocate totalGpus d n avoid
  | .allocateSpecific d devices _ =>
      Shared.allocateSpecific totalGpus d (sortedDevices devices)
  | .release d => Shared.release totalGpus d
  | .getAllocation d => Shared.getAllocation d
  | .rehydrate d devices => Shared.rehydrate d devices
  | .status => Shared.status totalGpus

/-- The method as one step of the allocator. -/
def perform (g : GpuAllocator) : (o : Method totalGpus) →
    Except Exn o.Ret × GpuAllocator
  | .freeDevices => (.ok g.freeDevices, g)
  | .allocatedDevices => (.ok g.allocatedDevices, g)
  | .allocate d n avoid _ => g.allocate d n avoid
  | .allocateSpecific d devices _ => g.allocateSpecific d devices
  | .release d => (.ok (g.release d).1.sort, (g.release d).2)
  | .getAllocation d => (.ok (g.getAllocation d).sort, g)
  | .rehydrate d devices => (.ok (), g.rehydrate d devices)
  | .status => (.ok {
      totalGpus := g.totalGpus
      freeGpus := g.freeCount
      usedGpus := g.usedCount
      allocations := g.allocations.entries.map fun item =>
        (item.1, item.2.sort) }, g)

end Method

/-! ## One method by itself -/

section Run

variable (a : Allocations)

theorem run_items :
    Shared.items.run onAllocations a = (.ok a.entries, a) :=
  run_walk (run_onObject ..) fun index => by
    rw [Shared.next, run_onObject]
    simp [onAllocations, DictCall.perform]

theorem run_usedDevices : Shared.usedDevices.run onAllocations a =
    (.ok (allocatedDevices ⟨totalGpus, a⟩), a) := by
  rw [Shared.usedDevices, run_bind, run_items]
  rfl

theorem run_freeDevices :
    (Shared.freeDevices totalGpus).run onAllocations a =
      (.ok (freeDevices ⟨totalGpus, a⟩), a) := by
  rw [Shared.freeDevices, run_locked, run_bind, run_usedDevices]
  rfl

theorem run_freeCount :
    (Shared.freeCount totalGpus).run onAllocations a =
      (.ok (freeCount ⟨totalGpus, a⟩), a) := by
  rw [Shared.freeCount, run_bind, run_freeDevices]
  rfl

theorem run_usedCount :
    (Shared.usedCount totalGpus).run onAllocations a =
      (.ok (usedCount ⟨totalGpus, a⟩), a) := by
  rw [Shared.usedCount, run_bind, run_freeCount]
  rfl

theorem run_get (d : String) :
    (Shared.get d).run onAllocations a = (.ok (a.get? d), a) :=
  run_onObject ..

theorem run_set (d : String) (devices : Finset Nat) :
    (Shared.set d devices).run onAllocations a =
      (.ok (), a.insert d devices) :=
  run_onObject ..

theorem run_pop (d : String) :
    (Shared.pop d).run onAllocations a = (.ok (a.get? d), a.erase d) :=
  run_onObject ..

theorem run_length :
    Shared.length.run onAllocations a = (.ok a.entries.length, a) :=
  run_onObject ..

theorem run_allocate (d : String) {n : Int} (avoid : Finset Nat)
    (hasked : 0 < n ∧ n ≤ totalGpus) :
    (Shared.allocate totalGpus d n avoid).run onAllocations a =
      ((allocate ⟨totalGpus, a⟩ d n avoid).1,
        (allocate ⟨totalGpus, a⟩ d n avoid).2.allocations) := by
  have hpos : ¬n ≤ 0 := by omega
  have hfits : ¬n > (totalGpus : Int) := by omega
  have hfree : ((List.range totalGpus).filter fun device =>
      device ∈ freeDevices ⟨totalGpus, a⟩ \ avoid) =
      usable ⟨totalGpus, a⟩ avoid := rfl
  rw [Shared.allocate, run_locked, run_bind, run_freeDevices, allocate,
    if_neg hpos, if_neg hfits]
  simp only [hfree]
  by_cases hfew : ((usable ⟨totalGpus, a⟩ avoid).length : Int) < n
  · rw [if_pos hfew, if_pos hfew, run_bind, run_length]
    rfl
  · rw [if_neg hfew, if_neg hfew, run_bind, run_set]
    simp only
    rw [run_bind, run_usedCount]
    rfl

theorem run_allocateSpecific (d : String) {devices : List Nat}
    (hasked : sortedDevices devices ≠ []) :
    (Shared.allocateSpecific totalGpus d (sortedDevices devices)).run
        onAllocations a =
      ((allocateSpecific ⟨totalGpus, a⟩ d devices).1,
        (allocateSpecific ⟨totalGpus, a⟩ d devices).2.allocations) := by
  rw [Shared.allocateSpecific, run_locked, run_bind, run_freeDevices,
    allocateSpecific]
  simp only
  rw [run_bind, run_get, if_neg hasked]
  have hown : (a.get? d).getD ∅ = getAllocation ⟨totalGpus, a⟩ d := rfl
  simp only [hown]
  by_cases havailable : (sortedDevices devices).toFinset ⊆
      freeDevices ⟨totalGpus, a⟩ ∪ getAllocation ⟨totalGpus, a⟩ d
  · rw [if_pos havailable, if_pos havailable, run_bind, run_set]
    simp only
    rw [run_bind, run_usedCount]
    rfl
  · rw [if_neg havailable, if_neg havailable]
    rfl

theorem run_release (d : String) :
    (Shared.release totalGpus d).run onAllocations a =
      (.ok (release ⟨totalGpus, a⟩ d).1.sort,
        (release ⟨totalGpus, a⟩ d).2.allocations) := by
  rw [Shared.release, run_locked, run_bind, run_pop]
  simp only
  by_cases hnone : (a.get? d).getD ∅ = ∅
  · rw [if_pos hnone, run_bind, run_done]
    rfl
  · rw [if_neg hnone, run_bind, run_usedCount]
    rfl

theorem run_status : (Shared.status totalGpus).run onAllocations a =
    (((Method.status : Method totalGpus).perform ⟨totalGpus, a⟩).1, a) := by
  rw [Shared.status, run_locked, run_bind, run_freeCount]
  simp only
  rw [run_bind, run_usedCount]
  simp only
  rw [run_bind, run_items]
  rfl

theorem Method.run_body (o : Method totalGpus) :
    o.body.run onAllocations a =
      ((o.perform ⟨totalGpus, a⟩).1, (o.perform ⟨totalGpus, a⟩).2.allocations) := by
  cases o with
  | freeDevices => exact run_freeDevices a
  | allocatedDevices =>
      rw [Method.body, Shared.allocatedDevices, run_locked, run_usedDevices]
      rfl
  | allocate d n avoid hasked => exact run_allocate a d avoid hasked
  | allocateSpecific d devices hasked =>
      exact run_allocateSpecific a d hasked
  | release d => exact run_release a d
  | getAllocation d =>
      rw [Method.body, Shared.getAllocation, run_locked, run_bind, run_get]
      rfl
  | rehydrate d devices =>
      rw [Method.body, Shared.rehydrate, run_locked, run_bind, run_items]
      exact run_set a d _
  | status => exact run_status a

end Run

/-! ## Every method keeps to the lock -/

theorem balanced_items : Balanced Shared.items :=
  balanced_walk (balanced_onObject _) fun _ _ => balanced_onObject _

theorem balanced_usedDevices : Balanced Shared.usedDevices :=
  balanced_items.bind fun _ => balanced_done _

theorem balanced_freeDevices : Balanced (Shared.freeDevices totalGpus) :=
  (balanced_usedDevices.bind fun _ => balanced_done _).locked

theorem balanced_freeCount : Balanced (Shared.freeCount totalGpus) :=
  balanced_freeDevices.bind fun _ => balanced_done _

theorem balanced_usedCount : Balanced (Shared.usedCount totalGpus) :=
  balanced_freeCount.bind fun _ => balanced_done _

theorem isMethod_allocate (d : String) (n : Int) (avoid : Finset Nat) :
    IsMethod (Shared.allocate totalGpus d n avoid) := by
  refine (balanced_freeDevices.bind fun devices => ?_).isMethod
  dsimp only
  split
  · exact (balanced_onObject _).bind fun _ => balanced_done _
  · exact (balanced_onObject _).bind fun _ =>
      balanced_usedCount.bind fun _ => balanced_done _

theorem isMethod_allocateSpecific (d : String) (want : List Nat) :
    IsMethod (Shared.allocateSpecific totalGpus d want) := by
  refine (balanced_freeDevices.bind fun devices =>
    (balanced_onObject _).bind fun own => ?_).isMethod
  dsimp only
  split
  · exact (balanced_onObject _).bind fun _ =>
      balanced_usedCount.bind fun _ => balanced_done _
  · exact balanced_done _

theorem isMethod_release (d : String) :
    IsMethod (Shared.release totalGpus d) := by
  refine ((balanced_onObject _).bind fun popped =>
    Balanced.bind ?_ fun _ => balanced_done _).isMethod
  split
  · exact balanced_done _
  · exact balanced_usedCount

theorem Method.isMethod_body (o : Method totalGpus) : IsMethod o.body := by
  cases o with
  | freeDevices =>
      exact (balanced_usedDevices.bind fun _ => balanced_done _).isMethod
  | allocatedDevices => exact balanced_usedDevices.isMethod
  | allocate d n avoid _ => exact isMethod_allocate d n avoid
  | allocateSpecific d devices _ => exact isMethod_allocateSpecific d _
  | release d => exact isMethod_release d
  | getAllocation d =>
      exact ((balanced_onObject _).bind fun _ => balanced_done _).isMethod
  | rehydrate d devices =>
      exact (balanced_items.bind fun _ => balanced_onObject _).isMethod
  | status =>
      exact (balanced_freeCount.bind fun _ => balanced_usedCount.bind fun _ =>
        balanced_items.bind fun _ => balanced_done _).isMethod

/-! ## Any number of threads -/

variable {ι α : Type} [DecidableEq ι]

/-- What a thread runs that goes to the allocator through its methods. -/
abbrev Client (totalGpus : Nat) (α : Type) :=
  Program (Method totalGpus) Method.Ret Exn α

/-- The allocator of one step a method. -/
def stepwise (totalGpus : Nat) :
    Machine (Method totalGpus) Method.Ret Exn GpuAllocator where
  Step g o r g' := o.perform g = (r, g')

/-- `allocate`: what it can answer without the lock it does. -/
def Client.allocate (deploymentId : String) (gpuCount : Int)
    (avoid : Finset Nat) : Client totalGpus (List Nat) :=
  if hsome : gpuCount ≤ 0 then .done (.ok [])
  else if hfits : gpuCount > totalGpus then
    raise (.gpuAllocationError
      s!"requested {gpuCount} GPUs but node only has {totalGpus}")
  else perform (Method.allocate deploymentId gpuCount avoid
    ⟨by omega, by omega⟩ : Method totalGpus)

def Client.allocateSpecific (deploymentId : String) (devices : List Nat) :
    Client totalGpus (List Nat) :=
  if hnone : sortedDevices devices = [] then .done (.ok [])
  else perform (Method.allocateSpecific deploymentId devices hnone :
    Method totalGpus)

/-- The threads on the allocator as it is. -/
abbrev threads (clients : ι → Client totalGpus α) : ι → Shared α :=
  fun i => compile Method.body (clients i)

def taker : Client 2 Status :=
  (Client.allocate "pod-1" 1 ∅).bind fun _ => perform Method.status

def takerAndWatcher : Bool → Client 2 Status
  | true => taker
  | false => perform Method.status

/-- The status is asked for between the allocation and the other status. -/
def takenThenWatched : List Bool :=
  List.replicate 12 true ++ List.replicate 15 false ++ List.replicate 15 true

theorem takenThenWatched_interleaves : ∃ pool m r,
    Interleaves (reentrant (answering onAllocations)) (threads takerAndWatcher)
      ⟨none, .empty⟩ pool m ∧ pool false = .done r ∧ m.owner = none := by
  obtain ⟨pool, m, r, hfollow, hdone, hfree⟩ : ∃ pool m r,
      follow onAllocations takenThenWatched (threads takerAndWatcher)
        ⟨none, .empty⟩ = some (pool, m) ∧ pool false = .done r ∧
        m.owner = none := ⟨_, _, _, rfl, rfl, rfl⟩
  exact ⟨pool, m, r, interleaves_follow hfollow, hdone, hfree⟩

@[simp] theorem Method.totalGpus_perform (o : Method totalGpus)
    (g : GpuAllocator) : (o.perform g).2.totalGpus = g.totalGpus := by
  cases o with
  | allocate d n avoid _ => exact Call.totalGpus_apply (.allocate d n avoid) g
  | allocateSpecific d devices _ =>
      exact Call.totalGpus_apply (.allocateSpecific d devices) g
  | release d => exact Call.totalGpus_apply (.release d) g
  | rehydrate d devices => exact Call.totalGpus_apply (.rehydrate d devices) g
  | _ => rfl

omit [DecidableEq ι] in
theorem stepwise_of_atomic {i : ι} {o : Method totalGpus} {a a' : Allocations}
    {r : Except Exn o.Ret}
    (h : (atomic (answering onAllocations) Method.body i).Step a o r a') :
    (stepwise totalGpus).Step ⟨totalGpus, a⟩ o r ⟨totalGpus, a'⟩ := by
  have hrun := (o.run_body a).symm.trans (atomic_answering h)
  obtain ⟨hr, ha'⟩ := Prod.mk.inj hrun
  have htotal : (o.perform ⟨totalGpus, a⟩).2.totalGpus = totalGpus :=
    Method.totalGpus_perform o _
  refine Prod.ext hr ?_
  cases hg : (o.perform ⟨totalGpus, a⟩).2 with
  | mk n held =>
      rw [hg] at htotal ha'
      exact congrArg₂ GpuAllocator.mk htotal ha'

/--
However many threads call the allocator, each that has returned has returned
what it returns when every method is one step; the allocations are the ones
this leaves, no walk is overtaken, and the threads never block one another.
-/
theorem threads_stepwise {clients : ι → Client totalGpus α} {a : Allocations}
    {pool : ι → Shared α} {m : Monitored ι Allocations}
    (h : Interleaves (reentrant (answering onAllocations)) (threads clients)
      ⟨none, a⟩ pool m) :
    (∃ clients' g, Interleaves (fun _ => stepwise totalGpus) clients
        ⟨totalGpus, a⟩ clients' g ∧
      (m.owner = none → g = ⟨totalGpus, m.object⟩) ∧
      ∀ i r, pool i = .done r → clients' i = .done r) ∧
    ((∀ i, ∃ r, pool i = .done r) ∨
      ∃ i e next r m', pool i = .call e next ∧
        (reentrant (answering onAllocations) i).Step m e r m') := by
  obtain ⟨clients', a', hrun, hmatch⟩ :=
    interleaves_atomic Method.isMethod_body h
  refine ⟨⟨clients', ⟨totalGpus, a'⟩, ?_, fun hfree => ?_, fun i r hi => ?_⟩, ?_⟩
  · exact hrun.simulate (f := fun a => (⟨totalGpus, a⟩ : GpuAllocator))
      fun i s o r s' hstep => stepwise_of_atomic hstep
  · rw [hmatch.free hfree]
  · exact hmatch.client_done Method.isMethod_body hi
  · by_cases hall : ∀ i, ∃ r, pool i = .done r
    · exact .inl hall
    · right
      obtain ⟨i, hi⟩ := not_forall.mp hall
      cases hpool : pool i with
      | done r => exact absurd ⟨r, hpool⟩ hi
      | call e next =>
          exact hmatch.progress Method.isMethod_body
            (fun a e => ⟨_, _, rfl⟩) hpool

theorem threads_stepwise_watched : ∃ clients' g r,
    Interleaves (fun _ => stepwise 2) takerAndWatcher ⟨2, .empty⟩ clients' g ∧
    clients' false = .done r := by
  obtain ⟨pool, m, r, hrun, hdone, -⟩ := takenThenWatched_interleaves
  obtain ⟨⟨clients', g, hstepwise, -, hreturned⟩, -⟩ := threads_stepwise hrun
  exact ⟨clients', g, r, hstepwise, hreturned false r hdone⟩

/-! ## What a thread may rely on -/

/-- An answer of an allocator whose deployments hold distinct devices. -/
def Consistent : (o : Method totalGpus) → Except Exn o.Ret → Prop
  | .status, r => ∃ st : Status, r = .ok st ∧ st.totalGpus = totalGpus ∧
      st.usedGpus + st.freeGpus = totalGpus ∧
      (st.allocations.flatMap Prod.snd).Nodup ∧
      ∀ x ∈ st.allocations.flatMap Prod.snd, x < totalGpus
  | .allocate _ n avoid _, r =>
      (∃ message, r = .error (.gpuAllocationError message)) ∨
        ∃ devices : List Nat, r = .ok devices ∧ devices.length = n ∧
          Ascending devices ∧ ∀ x ∈ devices, x < totalGpus ∧ x ∉ avoid
  | .allocateSpecific _ devices _, r =>
      (∃ message, r = .error (.gpuAllocationError message)) ∨
        r = .ok (sortedDevices devices) ∧ ∀ x ∈ devices, x < totalGpus
  | _, r => ∃ answer, r = .ok answer

def NoRehydrate : Method totalGpus → Prop
  | .rehydrate _ _ => False
  | _ => True

variable {g : GpuAllocator}

theorem Partitioned.status (h : g.Partitioned totalGpus) :
    (g.allocations.entries.map fun item =>
      (item.1, item.2.sort)).flatMap Prod.snd |>.Nodup := by
  rw [List.flatMap_map]
  refine List.nodup_flatMap.mpr ⟨fun item _ => item.2.sort_nodup _, ?_⟩
  have hkeys := g.allocations.nodup
  rw [List.nodup_iff_pairwise_ne, List.pairwise_map] at hkeys
  refine hkeys.imp_of_mem fun {item other} hitem hother hne x hx hx' => ?_
  have hget : ∀ entry ∈ g.allocations.entries,
      g.getAllocation entry.1 = entry.2 := fun entry hentry => by
    rw [getAllocation, Dict.mem_entries_iff.mp hentry]
    rfl
  refine hne (h.unique x _ _ ?_ ?_)
  · rw [hget item hitem]
    simpa using hx
  · rw [hget other hother]
    simpa using hx'

theorem Partitioned.status_lt (h : g.Partitioned totalGpus) {x : Nat}
    (hx : x ∈ (g.allocations.entries.map fun item =>
      (item.1, item.2.sort)).flatMap Prod.snd) : x < totalGpus := by
  rw [List.flatMap_map, List.mem_flatMap] at hx
  obtain ⟨item, hitem, hx⟩ := hx
  refine h.inRange item.1 x ?_
  rw [getAllocation, Dict.mem_entries_iff.mp hitem]
  simpa using hx

theorem Partitioned.perform (h : g.Partitioned totalGpus)
    (o : Method totalGpus) (ho : NoRehydrate o) :
    (o.perform g).2.Partitioned totalGpus ∧ Consistent o (o.perform g).1 := by
  cases o with
  | freeDevices => exact ⟨h, _, rfl⟩
  | allocatedDevices => exact ⟨h, _, rfl⟩
  | allocate d n avoid hasked =>
      refine ⟨h.allocate d n avoid, ?_⟩
      rcases g.allocate_cases d n avoid with
        ⟨hle, heq⟩ | ⟨-, message, heq⟩ | ⟨-, henough, heq⟩
      · omega
      · exact .inl ⟨message, by rw [Method.perform, heq]⟩
      · have hanswer : (g.allocate d n avoid).1 =
            .ok ((g.usable avoid).take n.toNat) := by rw [heq]
        obtain ⟨hsmallest, -⟩ := g.allocate_smallest d avoid hasked.1 hanswer
        refine .inr ⟨_, by rw [Method.perform, heq], hsmallest.length,
          hsmallest.ascending, fun x hx => ?_⟩
        obtain ⟨hfree, hx⟩ := Finset.mem_sdiff.mp (hsmallest.subset x hx)
        exact ⟨h.total ▸ (mem_freeDevices.mp hfree).1, hx⟩
  | allocateSpecific d devices hasked =>
      refine ⟨h.allocateSpecific d devices, ?_⟩
      rcases g.allocateSpecific_cases d devices with
        ⟨hempty, -⟩ | ⟨-, ⟨message, heq⟩, -⟩ | ⟨-, havailable, heq⟩
      · exact absurd (sortedDevices_eq_nil.mpr hempty) hasked
      · exact .inl ⟨message, by rw [Method.perform, heq]⟩
      · refine .inr ⟨by rw [Method.perform, heq], fun x hx => ?_⟩
        rcases havailable x hx with hfree | hheld
        · exact h.total ▸ (mem_freeDevices.mp hfree).1
        · exact h.inRange d x hheld
  | release d => exact ⟨h.release d, _, rfl⟩
  | getAllocation d => exact ⟨h, _, rfl⟩
  | rehydrate d devices => exact ho.elim
  | status =>
      refine ⟨h, _, rfl, h.total, ?_, h.status, fun x => h.status_lt⟩
      simp [usedCount, h.total]

/--
Whatever a thread can tell from consistent answers is so, however many other
threads allocate and release meanwhile.
-/
theorem threads_consistent {clients : ι → Client totalGpus α}
    {pool : ι → Shared α} {m : Monitored ι Allocations}
    {ends : Except Exn α → Prop} {i : ι} {r : Except Exn α}
    (hclients : ∀ i, Always (fun _ _ => True) NoRehydrate (clients i)
      fun _ => True)
    (hi : Always Consistent (fun _ => True) (clients i) ends)
    (h : Interleaves (reentrant (answering onAllocations)) (threads clients)
      ⟨none, .empty⟩ pool m)
    (hdone : pool i = .done r) : ends r := by
  obtain ⟨clients', a, hrun, hmatch⟩ :=
    interleaves_atomic Method.isMethod_body h
  have hstepwise := hrun.simulate (N := fun _ => stepwise totalGpus)
    (f := fun a => (⟨totalGpus, a⟩ : GpuAllocator))
    fun i s o r s' hstep => stepwise_of_atomic hstep
  have hclient := hmatch.client_done Method.isMethod_body hdone
  refine hstepwise.always (I := fun g => g.Partitioned totalGpus)
    partitioned_init (fun j g o a g' hg ho hstep => ?_) hclients hi hclient
  have hperform := hg.perform o ho
  rw [show o.perform g = (a, g') from hstep] at hperform
  exact hperform

theorem takerAndWatcher_noRehydrate (i : Bool) :
    Always (fun _ _ => True) NoRehydrate (takerAndWatcher i)
      fun _ => True := by
  cases i with
  | false => exact ⟨trivial, fun _ _ _ => trivial⟩
  | true =>
      refine ⟨trivial, fun r _ _ => ?_⟩
      cases r with
      | ok devices => exact ⟨trivial, fun _ _ _ => trivial⟩
      | error x => trivial

/-- The watcher's status adds up although it was taken in the middle of it all. -/
theorem threads_consistent_watched : ∃ pool m st,
    Interleaves (reentrant (answering onAllocations)) (threads takerAndWatcher)
      ⟨none, .empty⟩ pool m ∧
    pool false = .done (.ok st) ∧ st.usedGpus + st.freeGpus = 2 := by
  obtain ⟨pool, m, r, hrun, hdone, -⟩ := takenThenWatched_interleaves
  have hwatcher : Always Consistent (fun _ => True) (takerAndWatcher false)
      fun r => ∃ st, r = .ok st ∧ st.usedGpus + st.freeGpus = 2 := by
    refine ⟨trivial, fun r _ hr => ?_⟩
    obtain ⟨st, rfl, -, hsum, -⟩ := hr
    exact ⟨st, rfl, by simpa using hsum⟩
  obtain ⟨st, rfl, hst⟩ :=
    threads_consistent takerAndWatcher_noRehydrate hwatcher hrun hdone
  exact ⟨pool, m, st, hrun, hdone, hst⟩

end NodeAgent.GpuAllocator
