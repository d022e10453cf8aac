import NodeAgent.Domain.GpuAllocator

/-!
# Reserving given devices

The allocator once more, with device indices as the integers that callers pass:
a list to reserve may name devices that no node has.  The allocator of natural
numbers is the part of it that never holds such a device.
-/

namespace NodeAgent

open Effectful

structure DeviceTable where
  totalGpus : Nat
  allocations : Dict String (Finset Int)

namespace DeviceTable

def init (totalGpus : Nat) : DeviceTable := ⟨totalGpus, .empty⟩

def deviceIds (t : DeviceTable) : Finset Int :=
  (Finset.range t.totalGpus).image Int.ofNat

def getAllocation (t : DeviceTable) (deploymentId : String) : Finset Int :=
  (t.allocations.get? deploymentId).getD ∅

def freeDevices (t : DeviceTable) : Finset Int :=
  t.deviceIds \ t.allocations.values.foldr (· ∪ ·) ∅

def sortedDevices (devices : List Int) : List Int :=
  devices.dedup.insertionSort (· ≤ ·)

def assign (t : DeviceTable) (deploymentId : String) (devices : Finset Int) :
    DeviceTable :=
  { t with allocations := t.allocations.insert deploymentId devices }

/-- `sorted(self.free_devices - avoid)`. -/
def usable (t : DeviceTable) (avoid : Finset Int) : List Int :=
  ((List.range t.totalGpus).map Int.ofNat).filter fun device =>
    device ∈ t.freeDevices \ avoid

def allocate (t : DeviceTable) (deploymentId : String) (gpuCount : Int)
    (avoid : Finset Int) : Except Exn (List Int) × DeviceTable :=
  if gpuCount ≤ 0 then (.ok [], t)
  else if gpuCount > t.totalGpus then
    (.error (.gpuAllocationError
      s!"requested {gpuCount} GPUs but node only has {t.totalGpus}"), t)
  else
    let free := t.usable avoid
    if free.length < gpuCount then
      let extra := if avoid = ∅ then ""
        else s!", {avoid.card} in use by non-GreenCompute processes"
      (.error (.gpuAllocationError
        s!"requested {gpuCount} GPUs but only {free.length} usable free (total={t.totalGpus}, used by {t.allocations.entries.length} workloads{extra})"), t)
    else
      let allocated := free.take gpuCount.toNat
      (.ok allocated, t.assign deploymentId allocated.toFinset)

def allocateSpecific (t : DeviceTable) (deploymentId : String)
    (devices : List Int) : Except Exn (List Int) × DeviceTable :=
  let want := sortedDevices devices
  if want = [] then (.ok [], t)
  else
    let available := t.freeDevices ∪ t.getAllocation deploymentId
    if want.toFinset ⊆ available then
      (.ok want, t.assign deploymentId want.toFinset)
    else
      let taken := want.filter fun device => device ∉ available
      (.error (.gpuAllocationError
        s!"cannot reserve devices {want} for {deploymentId}: {taken} already in use by another workload"), t)

/-- Record a persisted allocation, whether or not it overlaps another one. -/
def rehydrate (t : DeviceTable) (deploymentId : String)
    (devices : List Int) : DeviceTable :=
  t.assign deploymentId devices.toFinset

def release (t : DeviceTable) (deploymentId : String) : DeviceTable :=
  { t with allocations := t.allocations.erase deploymentId }

inductive Call where
  | allocate (deploymentId : String) (gpuCount : Int) (avoid : Finset Int)
  | allocateSpecific (deploymentId : String) (devices : List Int)
  | release (deploymentId : String)
  | rehydrate (deploymentId : String) (devices : List Int)

def Call.apply : Call → DeviceTable → DeviceTable
  | .allocate d gpuCount avoid, t => (t.allocate d gpuCount avoid).2
  | .allocateSpecific d devices, t => (t.allocateSpecific d devices).2
  | .release d, t => t.release d
  | .rehydrate d devices, t => t.rehydrate d devices

def afterCalls (t : DeviceTable) : List Call → DeviceTable
  | [] => t
  | call :: calls => (call.apply t).afterCalls calls

/-! ## Who may have which device -/

/-- The device is one of the node and no other deployment holds it. -/
def Grantable (t : DeviceTable) (deploymentId : String) (device : Int) : Prop :=
  (0 ≤ device ∧ device < t.totalGpus) ∧
    ∀ b, b ≠ deploymentId → device ∉ t.getAllocation b

def Reserved (t : DeviceTable) (deploymentId : String) (devices : List Int) :
    Prop :=
  ∃ answer, (t.allocateSpecific deploymentId devices).1 = .ok answer

/--
A reservation succeeds exactly on devices that may be had.  It then holds what
was asked for and can be repeated, and a failed one changes nothing.
-/
structure GrantsByHolding (t : DeviceTable) (deploymentId : String)
    (devices : List Int) : Prop where
  reserved_iff : t.Reserved deploymentId devices ↔
    ∀ device ∈ devices, t.Grantable deploymentId device
  holds : t.Reserved deploymentId devices →
    (t.allocateSpecific deploymentId devices).2.getAllocation deploymentId =
      devices.toFinset
  repeats : t.Reserved deploymentId devices →
    (t.allocateSpecific deploymentId devices).2.allocateSpecific deploymentId
        devices = t.allocateSpecific deploymentId devices
  unchanged : ¬t.Reserved deploymentId devices →
    (t.allocateSpecific deploymentId devices).2 = t

/--
What a deployment holds of the devices may be had by it, or else one of the
devices that it does not hold may not be had.
-/
def OwnMayBeHad (t : DeviceTable) (deploymentId : String)
    (devices : List Int) : Prop :=
  (∀ device ∈ devices, device ∈ t.getAllocation deploymentId →
      t.Grantable deploymentId device) ∨
    ∃ device ∈ devices, device ∉ t.getAllocation deploymentId ∧
      ¬t.Grantable deploymentId device

/-- The call rehydrates only devices that its deployment may have. -/
def Call.Had (t : DeviceTable) : Call → Prop
  | .rehydrate d devices => ∀ device ∈ devices, t.Grantable d device
  | _ => True

def AllHad (t : DeviceTable) : List Call → Prop
  | [] => True
  | call :: calls => call.Had t ∧ (call.apply t).AllHad calls

/-- Every device that is held may be had. -/
def Apart (t : DeviceTable) : Prop :=
  ∀ d, ∀ device ∈ t.getAllocation d, t.Grantable d device

variable {t : DeviceTable} {d : String} {devices : List Int}

theorem mem_foldr_union {sets : List (Finset Int)} {x : Int} :
    x ∈ sets.foldr (· ∪ ·) ∅ ↔ ∃ set ∈ sets, x ∈ set := by
  induction sets with
  | nil => simp
  | cons set sets ih => simp [ih]

theorem mem_deviceIds {x : Int} :
    x ∈ t.deviceIds ↔ 0 ≤ x ∧ x < t.totalGpus := by
  simp only [deviceIds, Finset.mem_image, Finset.mem_range]
  constructor
  · rintro ⟨n, hn, rfl⟩
    exact ⟨Int.natCast_nonneg n, Int.ofNat_lt.mpr hn⟩
  · rintro ⟨hx, hlt⟩
    exact ⟨x.toNat, by omega, Int.toNat_of_nonneg hx⟩

theorem mem_freeDevices {x : Int} :
    x ∈ t.freeDevices ↔
      (0 ≤ x ∧ x < t.totalGpus) ∧ ∀ b, x ∉ t.getAllocation b := by
  rw [freeDevices, Finset.mem_sdiff, mem_deviceIds, mem_foldr_union]
  refine and_congr_right fun _ => ?_
  simp only [Dict.mem_values_iff, getAllocation]
  constructor
  · intro h b hb
    cases hget : t.allocations.get? b with
    | none => simp [hget] at hb
    | some set => exact h ⟨set, ⟨b, hget⟩, by simpa [hget] using hb⟩
  · rintro h ⟨set, ⟨b, hget⟩, hx⟩
    exact h b (by simpa [hget] using hx)

theorem free_or_own_iff {x : Int} :
    x ∈ t.freeDevices ∨ x ∈ t.getAllocation d ↔
      t.Grantable d x ∨ x ∈ t.getAllocation d := by
  by_cases hown : x ∈ t.getAllocation d
  · simp [hown]
  · simp only [hown, or_false, mem_freeDevices, Grantable]
    refine and_congr_right fun _ => ⟨fun h b _ => h b, fun h b => ?_⟩
    by_cases hb : b = d
    · rwa [hb]
    · exact h b hb

@[simp] theorem mem_sortedDevices {x : Int} :
    x ∈ sortedDevices devices ↔ x ∈ devices := by
  simp [sortedDevices]

@[simp] theorem toFinset_sortedDevices :
    (sortedDevices devices).toFinset = devices.toFinset := by
  ext x
  simp

theorem sortedDevices_ne_nil (h : devices ≠ []) : sortedDevices devices ≠ [] := by
  obtain ⟨x, hx⟩ := List.exists_mem_of_ne_nil devices h
  exact List.ne_nil_of_mem (mem_sortedDevices.mpr hx)

@[simp] theorem getAllocation_assign_self (t : DeviceTable) (d : String)
    (devices : Finset Int) : (t.assign d devices).getAllocation d = devices := by
  simp [assign, getAllocation]

theorem allocateSpecific_cases (t : DeviceTable) (d : String)
    (hne : devices ≠ []) :
    ((∀ x ∈ devices, t.Grantable d x ∨ x ∈ t.getAllocation d) ∧
      t.allocateSpecific d devices =
        (.ok (sortedDevices devices), t.assign d devices.toFinset)) ∨
    ((∃ x ∈ devices, ¬t.Grantable d x ∧ x ∉ t.getAllocation d) ∧
      ∃ message, t.allocateSpecific d devices =
        (.error (.gpuAllocationError message), t)) := by
  have havailable : devices.toFinset ⊆ t.freeDevices ∪ t.getAllocation d ↔
      ∀ x ∈ devices, t.Grantable d x ∨ x ∈ t.getAllocation d := by
    simp only [Finset.subset_iff, List.mem_toFinset, Finset.mem_union,
      free_or_own_iff]
  simp only [allocateSpecific, if_neg (sortedDevices_ne_nil hne),
    toFinset_sortedDevices]
  by_cases hall : ∀ x ∈ devices, t.Grantable d x ∨ x ∈ t.getAllocation d
  · exact .inl ⟨hall, by rw [if_pos (havailable.mpr hall)]⟩
  · refine .inr ⟨?_, _, by rw [if_neg (mt havailable.mp hall)]⟩
    simpa only [not_forall, not_or, exists_prop] using hall

theorem reserved_iff (hne : devices ≠ []) :
    t.Reserved d devices ↔
      ∀ x ∈ devices, t.Grantable d x ∨ x ∈ t.getAllocation d := by
  rcases t.allocateSpecific_cases d hne with
    ⟨hall, heq⟩ | ⟨⟨x, hx, hnot, hown⟩, message, heq⟩
  · exact iff_of_true ⟨_, by rw [heq]⟩ hall
  · refine iff_of_false ?_ fun hall => ?_
    · rintro ⟨answer, hanswer⟩
      rw [heq] at hanswer
      cases hanswer
    · exact (hall x hx).elim hnot hown

theorem allocateSpecific_of_reserved (hne : devices ≠ [])
    (h : t.Reserved d devices) :
    t.allocateSpecific d devices =
      (.ok (sortedDevices devices), t.assign d devices.toFinset) := by
  rcases t.allocateSpecific_cases d hne with ⟨-, heq⟩ | ⟨-, message, heq⟩
  · exact heq
  · obtain ⟨answer, hanswer⟩ := h
    rw [heq] at hanswer
    cases hanswer

theorem allocateSpecific_repeats (hne : devices ≠ []) (t : DeviceTable) :
    (t.assign d devices.toFinset).allocateSpecific d devices =
      (.ok (sortedDevices devices), t.assign d devices.toFinset) := by
  have hreserved : (t.assign d devices.toFinset).Reserved d devices := by
    rw [reserved_iff hne]
    exact fun x hx => .inr (by simpa using hx)
  rw [allocateSpecific_of_reserved hne hreserved]
  simp only [assign, Dict.insert_insert]

/--
A reservation goes by who holds the devices, unless the deployment itself holds
one that it may not have: one that another deployment holds as well, or one that
the node does not have.
-/
theorem grantsByHolding_iff (t : DeviceTable) (d : String)
    {devices : List Int} (hne : devices ≠ []) :
    t.GrantsByHolding d devices ↔ t.OwnMayBeHad d devices := by
  constructor
  · intro h
    by_cases hreserved : t.Reserved d devices
    · exact .inl fun x hx _ => h.reserved_iff.mp hreserved x hx
    · rw [reserved_iff hne] at hreserved
      simp only [not_forall, not_or] at hreserved
      obtain ⟨x, hx, hnot, hown⟩ := hreserved
      exact .inr ⟨x, hx, hown, hnot⟩
  · intro h
    refine ⟨?_, fun hreserved => ?_, fun hreserved => ?_, fun hraised => ?_⟩
    · rw [reserved_iff hne]
      constructor
      · intro hall x hx
        rcases h with hhad | ⟨y, hy, hown, hnot⟩
        · exact (hall x hx).elim id (hhad x hx)
        · exact absurd (hall y hy) (by simp [hown, hnot])
      · exact fun hall x hx => .inl (hall x hx)
    · rw [allocateSpecific_of_reserved hne hreserved, getAllocation_assign_self]
    · rw [allocateSpecific_of_reserved hne hreserved]
      exact allocateSpecific_repeats hne t
    · rcases t.allocateSpecific_cases d hne with ⟨-, heq⟩ | ⟨-, message, heq⟩
      · exact absurd ⟨_, by rw [heq]⟩ hraised
      · rw [heq]

/-! ## Sequences of calls -/

@[simp] theorem getAllocation_assign_of_ne (t : DeviceTable) {d d' : String}
    (devices : Finset Int) (h : d ≠ d') :
    (t.assign d devices).getAllocation d' = t.getAllocation d' := by
  simp [assign, getAllocation, h]

theorem getAllocation_release_subset (t : DeviceTable) (d b : String) :
    (t.release d).getAllocation b ⊆ t.getAllocation b := by
  by_cases hb : d = b
  · subst hb
    simp [release, getAllocation]
  · simp [release, getAllocation, hb]

theorem apart_init (totalGpus : Nat) : (init totalGpus).Apart := by
  intro d x hx
  simp [init, getAllocation] at hx

theorem Apart.release (h : t.Apart) (d : String) : (t.release d).Apart := by
  intro b x hx
  obtain ⟨hrange, hothers⟩ := h b x (t.getAllocation_release_subset d b hx)
  exact ⟨hrange, fun c hc hheld =>
    hothers c hc (t.getAllocation_release_subset d c hheld)⟩

theorem Apart.assign (h : t.Apart) {held : Finset Int}
    (hheld : ∀ x ∈ held, t.Grantable d x) : (t.assign d held).Apart := by
  intro b x hx
  by_cases hb : d = b
  · subst hb
    rw [getAllocation_assign_self] at hx
    refine ⟨(hheld x hx).1, fun c hc => ?_⟩
    rw [t.getAllocation_assign_of_ne held (Ne.symm hc)]
    exact (hheld x hx).2 c hc
  · rw [t.getAllocation_assign_of_ne held hb] at hx
    refine ⟨(h b x hx).1, fun c hc => ?_⟩
    by_cases hdc : d = c
    · subst hdc
      rw [getAllocation_assign_self]
      exact fun hmem => (hheld x hmem).2 b (Ne.symm hb) hx
    · rw [t.getAllocation_assign_of_ne held hdc]
      exact (h b x hx).2 c hc

theorem grantable_of_usable {avoid : Finset Int} {x : Int}
    (hx : x ∈ t.usable avoid) : t.Grantable d x := by
  simp only [usable, List.mem_filter, Finset.mem_sdiff,
    decide_eq_true_eq] at hx
  obtain ⟨hrange, hnobody⟩ := mem_freeDevices.mp hx.2.1
  exact ⟨hrange, fun b _ => hnobody b⟩

theorem Apart.allocate (h : t.Apart) (d : String) (n : Int)
    (avoid : Finset Int) : (t.allocate d n avoid).2.Apart := by
  unfold DeviceTable.allocate
  by_cases hn : n ≤ 0
  · rwa [if_pos hn]
  · by_cases htotal : n > t.totalGpus
    · rwa [if_neg hn, if_pos htotal]
    · by_cases hfree : ((t.usable avoid).length : Int) < n
      · simpa only [if_neg hn, if_neg htotal, if_pos hfree] using h
      · simp only [if_neg hn, if_neg htotal, if_neg hfree]
        exact h.assign fun x hx => grantable_of_usable
          (List.mem_of_mem_take (List.mem_toFinset.mp hx))

theorem Apart.allocateSpecific (h : t.Apart) (d : String)
    (devices : List Int) : (t.allocateSpecific d devices).2.Apart := by
  by_cases hne : devices = []
  · subst hne
    exact h
  · rcases t.allocateSpecific_cases d hne with ⟨hall, heq⟩ | ⟨-, message, heq⟩
    · rw [heq]
      exact h.assign fun x hx =>
        (hall x (List.mem_toFinset.mp hx)).elim id (h d x)
    · rwa [heq]

theorem Apart.apply (h : t.Apart) {call : Call} (hcall : call.Had t) :
    (call.apply t).Apart := by
  cases call with
  | allocate d n avoid => exact h.allocate d n avoid
  | allocateSpecific d devices => exact h.allocateSpecific d devices
  | release d => exact h.release d
  | rehydrate d devices =>
      exact h.assign fun x hx => hcall x (List.mem_toFinset.mp hx)

theorem Apart.afterCalls {calls : List Call} (h : t.Apart)
    (hcalls : t.AllHad calls) : (t.afterCalls calls).Apart := by
  induction calls generalizing t with
  | nil => exact h
  | cons call calls ih => exact ih (h.apply hcalls.1) hcalls.2

/--
In every state that calls lead to, a reservation goes by who holds the devices
unless the deployment itself holds one that it may not have.  It always does
when each rehydrated device was one of the node that no other deployment held.
-/
theorem grantsByHolding_afterCalls (totalGpus : Nat) (calls : List Call)
    (d : String) {devices : List Int} (hne : devices ≠ []) :
    let t := (init totalGpus).afterCalls calls
    (t.GrantsByHolding d devices ↔ t.OwnMayBeHad d devices) ∧
      ((init totalGpus).AllHad calls → t.GrantsByHolding d devices) := by
  intro t
  refine ⟨t.grantsByHolding_iff d hne, fun hcalls => ?_⟩
  have hapart := (apart_init totalGpus).afterCalls hcalls
  exact (t.grantsByHolding_iff d hne).mpr (.inl fun x _ hown => hapart d x hown)

/-- Both deployments were recovered on card 1. -/
def overlapping : List Call :=
  [.rehydrate "dep-a" [0, 1], .rehydrate "dep-b" [1, 2]]

/-- A recovered pod takes the free card next to its own. -/
theorem grantsByHolding_afterCalls_recovered :
    let t := (init 4).afterCalls [.rehydrate "dep-b" [2]]
    t.GrantsByHolding "dep-b" [2, 3] := by
  refine (@grantsByHolding_afterCalls 4 [.rehydrate "dep-b" [2]] "dep-b" [2, 3]
    (by decide)).2 ⟨fun x hx => ?_, trivial⟩
  obtain rfl : x = 2 := by simpa using hx
  exact ⟨by decide, fun b _ => by simp [init, getAllocation]⟩

theorem grantsByHolding_overlapping :
    ¬((init 4).afterCalls overlapping).GrantsByHolding "dep-b" [1, 2] := by
  intro h
  have hreserved : ((init 4).afterCalls overlapping).Reserved "dep-b" [1, 2] :=
    ⟨[1, 2], by decide⟩
  have hgrantable := h.reserved_iff.mp hreserved 1 (by decide)
  exact hgrantable.2 "dep-a" (by decide) (by decide)

/-! ## The allocator of natural numbers -/

def ofAllocator (g : GpuAllocator) : DeviceTable where
  totalGpus := g.totalGpus
  allocations := g.allocations.mapValues fun held => held.image Int.ofNat

theorem getAllocation_ofAllocator (g : GpuAllocator) (d : String) :
    (ofAllocator g).getAllocation d = (g.getAllocation d).image Int.ofNat := by
  simp only [ofAllocator, getAllocation, GpuAllocator.getAllocation,
    Dict.get?_mapValues]
  cases g.allocations.get? d <;> simp

theorem mem_getAllocation_ofAllocator {g : GpuAllocator} {d : String} {n : Nat} :
    Int.ofNat n ∈ (ofAllocator g).getAllocation d ↔ n ∈ g.getAllocation d := by
  rw [getAllocation_ofAllocator]
  simp

theorem assign_ofAllocator (g : GpuAllocator) (d : String)
    (held : Finset Nat) :
    (ofAllocator g).assign d (held.image Int.ofNat) =
      ofAllocator (g.assign d held) := by
  simp only [ofAllocator, assign, GpuAllocator.assign, Dict.insert_mapValues]

theorem toFinset_map_ofNat (devices : List Nat) :
    (devices.map Int.ofNat).toFinset = devices.toFinset.image Int.ofNat := by
  ext x
  simp

theorem rehydrate_ofAllocator (g : GpuAllocator) (d : String)
    (devices : List Nat) :
    (ofAllocator g).rehydrate d (devices.map Int.ofNat) =
      ofAllocator (g.rehydrate d devices) := by
  rw [rehydrate, toFinset_map_ofNat, assign_ofAllocator]
  rfl

theorem free_ofAllocator {g : GpuAllocator} {n : Nat} :
    Int.ofNat n ∈ (ofAllocator g).freeDevices ↔ n ∈ g.freeDevices := by
  rw [mem_freeDevices, GpuAllocator.mem_freeDevices]
  simp only [mem_getAllocation_ofAllocator]
  refine and_congr_left fun _ => ?_
  simp [ofAllocator]

theorem release_ofAllocator (g : GpuAllocator) (d : String) :
    (ofAllocator g).release d = ofAllocator (g.release d).2 := by
  simp only [ofAllocator, release, GpuAllocator.release, Dict.erase_mapValues]

theorem usable_ofAllocator (g : GpuAllocator) (avoid : Finset Nat) :
    (ofAllocator g).usable (avoid.image Int.ofNat) =
      (g.usable avoid).map Int.ofNat := by
  rw [usable, GpuAllocator.usable, List.filter_map]
  refine congrArg (List.map Int.ofNat) (List.filter_congr fun n _ => ?_)
  simp only [Function.comp_apply, Finset.mem_sdiff, free_ofAllocator]
  simp

theorem allocate_ofAllocator (g : GpuAllocator) (d : String) (n : Int)
    (avoid : Finset Nat) :
    (ofAllocator g).allocate d n (avoid.image Int.ofNat) =
      ((g.allocate d n avoid).1.map (List.map Int.ofNat),
        ofAllocator (g.allocate d n avoid).2) := by
  have hcard : (avoid.image Int.ofNat).card = avoid.card :=
    Finset.card_image_of_injective avoid fun _ _ => Int.ofNat.inj
  have hentries : (ofAllocator g).allocations.entries.length =
      g.allocations.entries.length := List.length_map ..
  have htotal : (ofAllocator g).totalGpus = g.totalGpus := rfl
  unfold allocate GpuAllocator.allocate
  simp only [usable_ofAllocator, List.length_map, hcard, hentries, htotal,
    Finset.image_eq_empty, ← List.map_take, toFinset_map_ofNat,
    assign_ofAllocator]
  by_cases hn : n ≤ 0
  · simp only [if_pos hn]
    rfl
  · by_cases hmany : n > g.totalGpus
    · simp only [if_neg hn, if_pos hmany]
      rfl
    · by_cases hfree : ((g.usable avoid).length : Int) < n
      · simp only [if_neg hn, if_neg hmany, if_pos hfree]
        rfl
      · simp only [if_neg hn, if_neg hmany, if_neg hfree]
        rfl

theorem allocateSpecific_ofAllocator (g : GpuAllocator) (d : String)
    {devices : List Nat} (hne : devices ≠ []) :
    ((ofAllocator g).Reserved d (devices.map Int.ofNat) ↔
        ∃ answer, (g.allocateSpecific d devices).1 = .ok answer) ∧
      ((ofAllocator g).allocateSpecific d (devices.map Int.ofNat)).2 =
        ofAllocator (g.allocateSpecific d devices).2 := by
  have hne' : devices.map Int.ofNat ≠ [] := by simpa using hne
  have hiff : (ofAllocator g).Reserved d (devices.map Int.ofNat) ↔
      ∀ n ∈ devices, n ∈ g.freeDevices ∨ n ∈ g.getAllocation d := by
    rw [reserved_iff hne']
    simp only [← free_or_own_iff, List.forall_mem_map, free_ofAllocator,
      mem_getAllocation_ofAllocator]
  rcases g.allocateSpecific_cases d devices with
    ⟨hnil, -⟩ | ⟨-, ⟨message, heq⟩, n, hn, hnot⟩ | ⟨-, hall, heq⟩
  · exact absurd hnil hne
  · have hraised : ¬(ofAllocator g).Reserved d (devices.map Int.ofNat) := by
      rw [hiff]
      exact fun hall => hnot (hall n hn)
    refine ⟨iff_of_false hraised ?_, ?_⟩
    · rintro ⟨answer, hanswer⟩
      rw [heq] at hanswer
      cases hanswer
    · rw [heq]
      rcases (ofAllocator g).allocateSpecific_cases d hne' with
        ⟨-, heq'⟩ | ⟨-, message', heq'⟩
      · exact absurd ⟨_, by rw [heq']⟩ hraised
      · rw [heq']
  · refine ⟨iff_of_true (hiff.mpr hall) ⟨_, by rw [heq]⟩, ?_⟩
    rw [heq, allocateSpecific_of_reserved hne' (hiff.mpr hall),
      toFinset_map_ofNat]
    exact assign_ofAllocator g d devices.toFinset

end DeviceTable

end NodeAgent
