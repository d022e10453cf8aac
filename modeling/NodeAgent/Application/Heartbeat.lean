import NodeAgent.Application.Capacity
import NodeAgent.Foundation.Interleave
import Mathlib.Algebra.BigOperators.Ring.Finset
import Mathlib.Algebra.Order.BigOperators.Group.List

/-!
# Advertised capacity beside a request

The heartbeat reads the records and the allocator while a request is at work.
GPUs are allocated before a record counts them.
-/

namespace NodeAgent

open Effectful Program Agent

def countedFor (w : World) (d : String) : Int :=
  match w.runtimes.get? d with
  | some runtime => if reserves runtime then reservedFor runtime else 0
  | none => 0

def Counted (w : World) (d : String) : Prop :=
  ((w.allocator.getAllocation d).card : Int) ≤ countedFor w d

/-- An allocation opens the window of a deployment; what closes it answers `false`. -/
def Event.opens (d : String) : Event → Option Bool
  | ⟨.allocate b _ _, r⟩ => if b = d ∧ World.isOk r then some true else none
  | ⟨.allocateSpecific b _, r⟩ =>
      if b = d ∧ World.isOk r then some true else none
  | ⟨.release b, _⟩ | ⟨.removeRuntime b, _⟩ =>
      if b = d then some false else none
  | ⟨.upsertRuntime runtime, _⟩ =>
      if runtime.deploymentId = d then some false else none
  | _ => none

/-- Between an allocation and the next record or release of the deployment. -/
def Pending (w : World) (d : String) : Prop :=
  (w.log.filterMap (Event.opens d)).getLast? = some true

variable {s : Settings} {permitted : Permitted} {w w' : World} {d : String}
variable {runtime : UnifiedRuntimeRecord}

theorem pending_append {event : Event} (hlog : w'.log = w.log ++ [event]) :
    Pending w' d ↔
      match event.opens d with
      | some opened => opened = true
      | none => Pending w d := by
  unfold Pending
  rw [hlog, List.filterMap_append]
  cases hevent : event.opens d <;> simp [hevent]

/-! ## What a record is counted for -/

theorem Accounts.reservedFor_nonneg {v : Ledger}
    (hfloor : Floored permitted) (h : Accounts permitted v runtime)
    (hreserves : reserves runtime = true) : 0 ≤ reservedFor runtime := by
  have hpinned : InService runtime → 0 ≤ reservedFor runtime := by
    intro hin
    rw [reservedFor_of_pinned (h.pinned hfloor (.inl hin))]
    split <;> omega
  cases hstatus : runtime.status with
  | accepted =>
      have hcount := h.accepted hfloor hstatus
      unfold reservedFor
      split
      · omega
      · cases hn : runtime.metadata.gpuCount with
        | none => simp
        | some n =>
            have := hcount n hn
            dsimp only
            split <;> omega
  | starting => exact hpinned (.inl hstatus)
  | ready => exact hpinned (.inr hstatus)
  | preparing => exact absurd hstatus h.known
  | _ => simp [reserves, hstatus] at hreserves

theorem Accounts.counted {v : Ledger} (hfloor : Floored permitted)
    (h : Accounts permitted v runtime) :
    (v.held.card : Int) ≤
      if reserves runtime then reservedFor runtime else 0 := by
  by_cases hin : InService runtime
  · have hreserves : reserves runtime = true := by
      rcases hin with hstatus | hstatus <;> simp [reserves, hstatus]
    rw [h.inService hfloor hin, if_pos hreserves,
      reservedFor_of_pinned (h.pinned hfloor (.inl hin))]
    split <;> omega
  · rw [h.released hin]
    split
    · rename_i hreserves
      simpa using h.reservedFor_nonneg hfloor hreserves
    · simp

/-! ## Every deployment is counted outside its window -/

structure Tallied (w : World) : Prop where
  nonneg : OnRecord (fun runtime =>
    reserves runtime = true → 0 ≤ reservedFor runtime) w
  counted : ∀ d, Pending w d ∨ Counted w d

theorem countedFor_nonneg (h : OnRecord (fun runtime =>
      reserves runtime = true → 0 ≤ reservedFor runtime) w) (d : String) :
    0 ≤ countedFor w d := by
  unfold countedFor
  cases hget : w.runtimes.get? d with
  | none => simp
  | some runtime =>
      dsimp only
      split
      · rename_i hreserves
        exact h d runtime (.inl hget) hreserves
      · simp

theorem counted_of_released (h : OnRecord (fun runtime =>
      reserves runtime = true → 0 ≤ reservedFor runtime) w)
    (hheld : w.allocator.getAllocation d = ∅) : Counted w d := by
  unfold Counted
  rw [hheld]
  simpa using countedFor_nonneg h d

theorem counted_of_same {event : Event} (h : Pending w d ∨ Counted w d)
    (hlog : w'.log = w.log ++ [event]) (hopens : event.opens d = none)
    (hheld : w'.allocator.getAllocation d = w.allocator.getAllocation d)
    (hget : w'.runtimes.get? d = w.runtimes.get? d) :
    Pending w' d ∨ Counted w' d := by
  rw [pending_append hlog, hopens]
  unfold Counted countedFor at h ⊢
  rw [hheld, hget]
  exact h

theorem counted_of_asked {b : String} {event : Event}
    (h : Pending w d ∨ Counted w d) (hlog : w'.log = w.log ++ [event])
    (hopens : event.opens d =
      if b = d ∧ World.isOk event.result then some true else none)
    (hget : w'.runtimes.get? d = w.runtimes.get? d)
    (hother : b ≠ d →
      w'.allocator.getAllocation d = w.allocator.getAllocation d)
    (hrefused : World.isOk event.result = false →
      w'.allocator = w.allocator) : Pending w' d ∨ Counted w' d := by
  by_cases hb : b = d
  · cases hok : World.isOk event.result with
    | true =>
        refine .inl ((pending_append hlog).mpr ?_)
        simp [hopens, hb, hok]
    | false =>
        exact counted_of_same h hlog (by simp [hopens, hok])
          (by rw [hrefused hok]) hget
  · exact counted_of_same h hlog (by simp [hopens, hb]) (hother hb) hget

theorem host_tallied (hfloor : Floored permitted) {e : Effect}
    {r : Except Exn e.Ret} (h : Tallied w) (hwrite : w.Writes permitted e)
    (hstep : (host permitted).Step w e r w') : Tallied w' := by
  have hnonneg := host_onRecord h.nonneg (fun runtime heq hreserves => by
    subst heq
    exact Accounts.reservedFor_nonneg hfloor hwrite hreserves) hstep
  refine ⟨hnonneg, fun d => ?_⟩
  obtain ⟨a, -, rfl, rfl⟩ := host_refines.performed hstep
  have hd := h.counted d
  by_cases he : World.touchesBooks e = false
  · obtain ⟨hruntimes, -, hallocator, -⟩ := World.perform_books he w a
    refine counted_of_same hd rfl ?_ (by simp only [hallocator])
      (by simp only [hruntimes])
    cases e <;> first | rfl | exact absurd he (by simp [World.touchesBooks])
  · cases e with
    | allocate b n avoid =>
        refine counted_of_asked (b := b) hd rfl rfl rfl (fun hb => ?_) fun h => ?_
        all_goals rcases w.allocator.allocate_cases b n avoid with
          ⟨-, heq⟩ | ⟨-, message, heq⟩ | ⟨-, -, heq⟩
        · simp [World.perform, heq]
        · simp [World.perform, heq]
        · simp [World.perform, heq, hb]
        · simp [World.perform, heq]
        · simp [World.perform, heq]
        · simp [World.perform, heq, World.isOk] at h
    | allocateSpecific b devices =>
        refine counted_of_asked (b := b) hd rfl rfl rfl (fun hb => ?_) fun h => ?_
        all_goals rcases w.allocator.allocateSpecific_cases b devices with
          ⟨-, heq⟩ | ⟨-, ⟨message, heq⟩, -⟩ | ⟨-, -, heq⟩
        · simp [World.perform, heq]
        · simp [World.perform, heq]
        · simp [World.perform, heq, hb]
        · simp [World.perform, heq]
        · simp [World.perform, heq]
        · simp [World.perform, heq, World.isOk] at h
    | release b =>
        by_cases hb : b = d
        · subst hb
          exact .inr (counted_of_released hnonneg (by simp [World.perform]))
        · exact counted_of_same hd rfl (by simp [Event.opens, hb])
            (by simp [World.perform, hb]) rfl
    | upsertRuntime runtime =>
        by_cases hb : runtime.deploymentId = d
        · subst hb
          refine .inr ?_
          unfold Counted countedFor
          simp only [World.perform, World.saved, Table.get?_upsert, if_true]
          exact Accounts.counted hfloor hwrite
        · refine counted_of_same hd rfl (by simp [Event.opens, hb]) rfl ?_
          simp [World.perform, World.saved, Table.get?_upsert, hb]
    | removeRuntime b =>
        by_cases hb : b = d
        · subst hb
          exact .inr (counted_of_released hnonneg hwrite)
        · refine counted_of_same hd rfl (by simp [Event.opens, hb]) rfl ?_
          simp [World.perform, World.saved, Table.get?_remove, hb]
    | updateDeploymentStatus update => exact counted_of_same hd rfl rfl rfl rfl
    | _ => exact absurd rfl he

theorem Tallied.restart (h : Tallied w) : Tallied (w.restart s) := by
  have hnonneg := OnRecord.restart (s := s) h.nonneg
  refine ⟨hnonneg, fun d => .inr ?_⟩
  have hrecord : countedFor (w.restart s) d =
      match w.stateFile.get? d with
      | some runtime => if reserves runtime then reservedFor runtime else 0
      | none => 0 := rfl
  unfold Counted
  rw [getAllocation_restart, hrecord]
  cases hget : w.stateFile.get? d with
  | none => simp
  | some runtime =>
      dsimp only
      split
      · rename_i hholds
        have hreserves : reserves runtime = true := by
          cases hstatus : runtime.status <;>
            simp [holdsGpusOnRestart, reserves, hstatus] at hholds ⊢
        have hdevices : originalDevices runtime ≠ [] := by
          cases hstatus : runtime.status <;>
            simp [holdsGpusOnRestart, hstatus] at hholds ⊢ <;> exact hholds
        rw [if_pos hreserves, reservedFor, if_pos hdevices]
        exact_mod_cast List.toFinset_card_le _
      · split
        · rename_i hreserves
          simpa using h.nonneg d runtime (.inr hget) hreserves
        · simp

theorem init_tallied : Tallied (.init s) :=
  ⟨init_onRecord, fun _ => .inr (by simp [Counted, countedFor, World.init])⟩

theorem crashRun_tallied (h : CrashRun s (host floored) w) : Tallied w :=
  crashRun_invariant init_tallied
    (fun _ _ _ _ => host_tallied floored_floored) (fun _ => Tallied.restart)
    (fun _ h => (crashRun_sound floored_floored floored_not_polite
      floored_not_reliable h).1) h

theorem reaches_totalGpus {request : Request} {rest : Agent Unit}
    (h : Reaches (host permitted) (request.program s) w rest w')
    (htotal : w.allocator.totalGpus = s.gpuCount) :
    w'.allocator.totalGpus = s.gpuCount := by
  refine Reaches.invariant (I := fun w =>
    w.allocator.totalGpus = s.gpuCount) h ?_ htotal
  intro w e r w' htotal hstep
  rw [host_totalGpus hstep, htotal]

theorem crashRun_totalGpus (h : CrashRun s (host permitted) w) :
    w.allocator.totalGpus = s.gpuCount := by
  induction h with
  | boot => rfl
  | serve before request exec ih => exact reaches_totalGpus exec ih
  | crash before request reached ih => exact rehydrate_totalGpus _ _

/-! ## What a heartbeat advertises -/

theorem allocated_le_reserved (h : ∀ d, Counted w d) :
    (w.allocator.allocatedDevices.card : Int) ≤
      reservedGpus w.runtimes.snapshot := by
  let held (runtime : UnifiedRuntimeRecord) :=
    w.allocator.getAllocation runtime.deploymentId
  let reserving := w.runtimes.snapshot.filter reserves
  -- What is held is held for a deployment whose record reserves.
  have hsub : w.allocator.allocatedDevices ⊆
      (reserving.map held).foldr (· ∪ ·) ∅ := by
    intro x hx
    obtain ⟨d, hd⟩ := GpuAllocator.mem_allocatedDevices.mp hx
    have hcounted := h d
    have hpos : 0 < (w.allocator.getAllocation d).card :=
      Finset.card_pos.mpr ⟨x, hd⟩
    unfold Counted countedFor at hcounted
    cases hget : w.runtimes.get? d with
    | none =>
        simp only [hget] at hcounted
        omega
    | some runtime =>
        simp only [hget] at hcounted
        have hkey : runtime.deploymentId = d := Table.key_of_get? hget
        have hreserves : reserves runtime = true := by
          by_contra hno
          rw [if_neg hno] at hcounted
          omega
        refine GpuAllocator.mem_foldr_union.mpr ⟨held runtime, ?_, ?_⟩
        · refine List.mem_map_of_mem (List.mem_filter.mpr ⟨?_, hreserves⟩)
          exact Table.mem_snapshot_iff.mpr (hkey ▸ hget)
        · simpa only [held, hkey] using hd
  have hle : (((reserving.map held).map Finset.card).sum : Int) ≤
      reservedGpus w.runtimes.snapshot := by
    unfold reservedGpus
    have hmem : ∀ runtime ∈ reserving,
        ((held runtime).card : Int) ≤ reservedFor runtime := by
      intro runtime hmem
      obtain ⟨hsnapshot, hreserves⟩ := List.mem_filter.mp hmem
      have hcounted := h runtime.deploymentId
      unfold Counted countedFor at hcounted
      rw [Table.mem_snapshot_iff.mp hsnapshot] at hcounted
      simpa only [hreserves, if_true] using hcounted
    calc (((reserving.map held).map Finset.card).sum : Int)
        = (reserving.map fun runtime => ((held runtime).card : Int)).sum := by
          simp [Nat.cast_list_sum, Function.comp_def]
      _ ≤ (reserving.map reservedFor).sum := List.sum_le_sum hmem
  have hcard := (Finset.card_le_card hsub).trans
    (GpuAllocator.card_foldr_union_le _)
  omega

/-! ## What a heartbeat takes for foreign -/

/-- What an answer of the probe reports. -/
def reported : Except Exn (Finset Nat) → Finset Nat
  | .ok busy => busy
  | .error _ => ∅

/-- The devices that a call assigns. -/
def Event.hands : Event → Finset Nat
  | ⟨.allocate _ _ _, .ok devices⟩ | ⟨.allocateSpecific _ _, .ok devices⟩ =>
      devices.toFinset
  | _ => ∅

theorem allocated_of_assign {g : GpuAllocator} {devices : Finset Nat} {x : Nat}
    (hx : x ∈ (g.assign d devices).allocatedDevices) :
    x ∈ g.allocatedDevices ∨ x ∈ devices := by
  obtain ⟨b, hb⟩ := GpuAllocator.mem_allocatedDevices.mp hx
  by_cases hd : d = b
  · subst hd
    rw [GpuAllocator.getAllocation_assign_self] at hb
    exact .inr hb
  · rw [GpuAllocator.getAllocation_assign_of_ne _ _ hd] at hb
    exact .inl (GpuAllocator.mem_allocatedDevices.mpr ⟨b, hb⟩)

theorem host_hands {e : Effect} {r : Except Exn e.Ret}
    (hstep : (host permitted).Step w e r w') {x : Nat}
    (hx : x ∈ w'.allocator.allocatedDevices) :
    x ∈ w.allocator.allocatedDevices ∨ x ∈ Event.hands ⟨e, r⟩ := by
  obtain ⟨a, -, rfl, rfl⟩ := host_refines.performed hstep
  by_cases he : World.touchesBooks e = false
  · simp only [(World.perform_books he w a).2.2.1] at hx
    exact .inl hx
  · cases e with
    | allocate b n avoid =>
        rcases w.allocator.allocate_cases b n avoid with
          ⟨-, heq⟩ | ⟨-, message, heq⟩ | ⟨-, -, heq⟩
        · exact .inl (by simpa [World.perform, heq] using hx)
        · exact .inl (by simpa [World.perform, heq] using hx)
        · simp only [World.perform, heq] at hx ⊢
          exact allocated_of_assign hx
    | allocateSpecific b devices =>
        rcases w.allocator.allocateSpecific_cases b devices with
          ⟨-, heq⟩ | ⟨-, ⟨message, heq⟩, -⟩ | ⟨-, -, heq⟩
        · exact .inl (by simpa [World.perform, heq] using hx)
        · exact .inl (by simpa [World.perform, heq] using hx)
        · simp only [World.perform, heq] at hx ⊢
          refine (allocated_of_assign hx).imp_right fun hmem => ?_
          simpa [Event.hands, GpuAllocator.toFinset_sortedDevices] using hmem
    | release b =>
        obtain ⟨c, hc⟩ := GpuAllocator.mem_allocatedDevices.mp hx
        refine .inl (GpuAllocator.mem_allocatedDevices.mpr ⟨c, ?_⟩)
        by_cases hb : b = c
        · subst hb
          simp [World.perform] at hc
        · simpa [World.perform, hb] using hc
    | upsertRuntime runtime => exact .inl hx
    | removeRuntime b => exact .inl hx
    | updateDeploymentStatus update => exact .inl hx
    | _ => exact absurd rfl he

/-- What was free stays free for as long as no call assigns it. -/
def Untaken (foreign : Finset Nat) (w w' : World) : Prop :=
  Added w w' fun events => (∀ event ∈ events, Disjoint event.hands foreign) →
    ∀ x ∈ foreign, x ∈ w'.allocator.allocatedDevices →
      x ∈ w.allocator.allocatedDevices

theorem Untaken.trans {foreign : Finset Nat} {w₁ w₂ w₃ : World}
    (h : Untaken foreign w₁ w₂) (h' : Untaken foreign w₂ w₃) :
    Untaken foreign w₁ w₃ := by
  refine h.append h' fun events events' hfirst hsecond hhands x hx hheld => ?_
  obtain ⟨hhands, hhands'⟩ := List.forall_mem_append.mp hhands
  exact hfirst hhands x hx (hsecond hhands' x hx hheld)

theorem Untaken.step {foreign : Finset Nat} {e : Effect}
    {r : Except Exn e.Ret} (hstep : (host permitted).Step w e r w') :
    Untaken foreign w w' := by
  obtain ⟨a, -, rfl, rfl⟩ := host_refines.performed hstep
  refine ⟨_, rfl, fun hhands x hx hheld => ?_⟩
  refine (host_hands hstep hheld).resolve_right fun hmem => ?_
  exact Finset.disjoint_left.mp (hhands _ (List.mem_singleton_self _)) hmem hx

theorem Untaken.reaches {foreign : Finset Nat} {p p' : Agent α}
    (h : Reaches (host permitted) p w p' w') : Untaken foreign w w' :=
  Reaches.invariant (I := Untaken foreign w) h
    (fun _ _ _ _ hbefore hstep => hbefore.trans (.step hstep))
    ⟨[], by simp, fun _ _ _ hheld => hheld⟩

/--
A heartbeat beside the request: it reads the records in `snapshot`, the probe
answers it, and it reads the allocator in `read` if the probe has not failed.
-/
def BeatsBeside (s : Settings) (M : Machine Effect Effect.Ret Exn World)
    (request : Request) (w snapshot : World) (probed : Except Exn (Finset Nat))
    (read w' : World) : Prop :=
  ∃ p₁ w₁ p₂ w₂ w₃ p₃ rest, Reaches M (request.program s) w p₁ snapshot ∧
    M.Step snapshot .snapshotRuntimeItems (.ok snapshot.runtimes.snapshot) w₁ ∧
    Reaches M p₁ w₁ p₂ w₂ ∧
    M.Step w₂ (.probe .busyGpuDevices) probed w₃ ∧
    Reaches M p₂ w₃ p₃ read ∧
    match probed with
    | .ok _ => ∃ w₄, M.Step read .allocatedDevices
        (.ok read.allocator.allocatedDevices) w₄ ∧ Reaches M p₃ w₄ rest w'
    | .error _ => Reaches M p₃ read rest w'

theorem buildCapacityUpdate_beats {request : Request} {rest : Agent Unit}
    {r : Except Exn CapacityUpdate}
    (hrace : Races (host permitted) (request.program s) (buildCapacityUpdate s)
      w rest (.done r) w') :
    ∃ snapshot probed read update,
      BeatsBeside s (host permitted) request w snapshot probed read w' ∧
      r = .ok update ∧
      update.node.availableGpus = max 0 (s.gpuCount -
        reservedGpus snapshot.runtimes.snapshot - (foreignIn read probed).card) := by
  obtain ⟨p₁, snapshot, a, w₁, hreached, hstep, hrest⟩ := Races.first hrace
  have hanswer : a = .ok snapshot.runtimes.snapshot := by
    obtain ⟨b, -, hb, -⟩ := host_refines.performed hstep
    exact hb
  subst hanswer
  obtain ⟨p₂, w₂, probed, w₃, hreached', hstep', hrest⟩ := Races.first hrest
  cases probed with
  | error x =>
      obtain ⟨rfl, hlast⟩ := Races.last hrest
      exact ⟨snapshot, .error x, w₃, _, ⟨p₁, w₁, p₂, w₂, w₃, p₂, rest, hreached,
        hstep, hreached', hstep', .refl _ _, hlast⟩, rfl, rfl⟩
  | ok busy =>
      obtain ⟨p₃, read, held, w₄, hreached'', hread, hrest⟩ := Races.first hrest
      have hheld : held = .ok read.allocator.allocatedDevices := by
        obtain ⟨b, -, hb, -⟩ := host_refines.performed hread
        exact hb
      subst hheld
      obtain ⟨rfl, hlast⟩ := Races.last hrest
      exact ⟨snapshot, .ok busy, read, _, ⟨p₁, w₁, p₂, w₂, w₃, p₃, rest,
        hreached, hstep, hreached', hstep', hreached'', w₄, hread, hlast⟩, rfl,
        rfl⟩

theorem BeatsBeside.untaken {request : Request} {snapshot read : World}
    {probed : Except Exn (Finset Nat)} {foreign : Finset Nat}
    (h : BeatsBeside s (host permitted) request w snapshot probed read w') :
    Untaken foreign snapshot read := by
  obtain ⟨_, _, _, _, _, _, _, -, hstep, hreached, hstep', hreached', -⟩ := h
  exact (Untaken.step hstep).trans ((Untaken.reaches hreached).trans
    ((Untaken.step hstep').trans (Untaken.reaches hreached')))

theorem foreign_sub_foreignIn {snapshot read : World}
    {probed : Except Exn (Finset Nat)} {foreign : Finset Nat}
    (hforeign : foreign ⊆ reported probed) (h : Untaken foreign snapshot read)
    (hhands : ∀ event ∈ issued snapshot read, Disjoint event.hands foreign) :
    foreign \ snapshot.allocator.allocatedDevices ⊆ foreignIn read probed := by
  intro x hx
  obtain ⟨hmem, hfree⟩ := Finset.mem_sdiff.mp hx
  cases probed with
  | error _ => exact absurd (hforeign hmem) (Finset.notMem_empty x)
  | ok busy => exact Finset.mem_sdiff.mpr ⟨hforeign hmem,
      fun hheld => hfree (h.issued hhands x hmem hheld)⟩

/--
However a heartbeat's reads fall between the calls of a request, it advertises
no device that was held when it read the records or that the probe found in
foreign use.  It does so unless it read the records between an allocation and
the record of it, and the record was counted for fewer, or a call assigned a
device in foreign use before it read the allocator.
-/
theorem advertised_le_unheld (hrun : CrashRun s (host floored) w)
    {request : Request} {rest : Agent Unit} {r : Except Exn CapacityUpdate}
    (hrace : Races (host floored) (request.program s) (buildCapacityUpdate s)
      w rest (.done r) w') :
    ∃ snapshot probed read update,
      BeatsBeside s (host floored) request w snapshot probed read w' ∧
      r = .ok update ∧
      ((∀ d, Pending snapshot d → Counted snapshot d) →
        ∀ foreign ⊆ reported probed,
          (∀ event ∈ issued snapshot read, Disjoint event.hands foreign) →
          update.node.availableGpus ≤
            ((snapshot.allocator.freeDevices \ foreign).card : Int)) := by
  obtain ⟨snapshot, probed, read, update, hbeats, hr, havailable⟩ :=
    buildCapacityUpdate_beats hrace
  refine ⟨snapshot, probed, read, update, hbeats, hr,
    fun hwindow foreign hforeign hhands => ?_⟩
  obtain ⟨_, _, _, _, _, _, _, hreached, -⟩ := id hbeats
  have hsound := (crashRun_sound floored_floored floored_not_polite
    floored_not_reliable hrun).1
  have htallied := reached_invariant
    (fun _ _ _ _ => host_tallied floored_floored) hsound
    (crashRun_tallied hrun) hreached
  have hcounted : ∀ d, Counted snapshot d := fun d =>
    (htallied.counted d).elim (hwindow d) id
  have hreserved := allocated_le_reserved hcounted
  have htotal : snapshot.allocator.totalGpus = s.gpuCount :=
    reaches_totalGpus hreached (crashRun_totalGpus hrun)
  have hexcluded := Finset.card_le_card
    (foreign_sub_foreignIn hforeign hbeats.untaken hhands)
  -- Only the foreign devices that were free are taken off the free ones.
  have hsame : snapshot.allocator.freeDevices \ foreign =
      snapshot.allocator.freeDevices \
        (foreign \ snapshot.allocator.allocatedDevices) := by
    ext x
    simp only [GpuAllocator.freeDevices, Finset.mem_sdiff]
    tauto
  have hfree := Finset.le_card_sdiff snapshot.allocator.allocatedDevices
    snapshot.allocator.deviceIds
  have hopen := Finset.le_card_sdiff
    (foreign \ snapshot.allocator.allocatedDevices)
    snapshot.allocator.freeDevices
  rw [GpuAllocator.deviceIds, Finset.card_range, htotal] at hfree
  rw [havailable, hsame]
  unfold GpuAllocator.freeDevices GpuAllocator.deviceIds at hopen ⊢
  rw [htotal] at hopen ⊢
  omega

/-! ## A heartbeat that comes too early -/

def twoGpus : Settings where
  gpuCount := 2

def twoGpuPod : WorkloadSpec :=
  { ubuntuPod with requirements := some { gpuCount := 2 } }

def twoGpuHost : Environment :=
  cooperative [leaseOn "pod-1"] (fun _ => some twoGpuPod) fun _ => none

theorem twoGpuHost_floored : twoGpuHost.Respects floored :=
  cooperative_floored _ _ (by decide : 1 ≤ requestedGpus twoGpuPod)

def allocatedOnly : Agent Unit × World :=
  replayFor twoGpuHost (fun _ _ => true) 10
    (Request.program twoGpus (.reconcile "hotkey")) (.init twoGpus)

theorem allocatedOnly_reached : Reaches (host floored)
    (Request.program twoGpus (.reconcile "hotkey")) (.init twoGpus)
    allocatedOnly.1 allocatedOnly.2 :=
  replayFor_reaches twoGpuHost_floored.follows 10 _ _

theorem advertised_le_unheld_allocatedOnly : ∃ r w',
    Races (host floored) (Request.program twoGpus (.reconcile "hotkey"))
      (buildCapacityUpdate twoGpus) (.init twoGpus) allocatedOnly.1 (.done r)
      w' ∧
    ∃ snapshot probed read update, BeatsBeside twoGpus (host floored)
        (.reconcile "hotkey") (.init twoGpus) snapshot probed read w' ∧
      r = .ok update ∧
      ((∀ d, Pending snapshot d → Counted snapshot d) →
        ∀ foreign ⊆ reported probed,
          (∀ event ∈ issued snapshot read, Disjoint event.hands foreign) →
          update.node.availableGpus ≤
            ((snapshot.allocator.freeDevices \ foreign).card : Int)) := by
  obtain ⟨r, hbeat⟩ := replayed_exec twoGpuHost_floored
    (p := buildCapacityUpdate twoGpus) (w := allocatedOnly.2) rfl
  have hrace := allocatedOnly_reached.races hbeat
  exact ⟨r, _, hrace, advertised_le_unheld .boot hrace⟩

/-- Both GPUs are held when the heartbeat reads the records; it offers one. -/
theorem heartbeat_oversells : ∃ rest snapshot probed read update w',
    Races (host floored) (Request.program twoGpus (.reconcile "hotkey"))
      (buildCapacityUpdate twoGpus) (.init twoGpus) rest (.done (.ok update))
      w' ∧
    BeatsBeside twoGpus (host floored) (.reconcile "hotkey") (.init twoGpus)
      snapshot probed read w' ∧
    update.node.availableGpus = 1 ∧
    (snapshot.allocator.freeDevices \ foreignIn snapshot probed).card = 0 := by
  have hsnapshot : (host floored).Step allocatedOnly.2 .snapshotRuntimeItems
      (.ok allocatedOnly.2.runtimes.snapshot) _ :=
    ⟨trivial, { result := .ok [] }, rfl, rfl⟩
  have hprobe (w : World) :
      (host floored).Step w (.probe .busyGpuDevices) (.ok ∅) _ :=
    ⟨trivial, { result := .ok ∅ }, rfl, rfl⟩
  have hread (w : World) : (host floored).Step w .allocatedDevices
      (.ok w.allocator.allocatedDevices) _ :=
    ⟨trivial, { result := .ok ∅ }, rfl, rfl⟩
  refine ⟨allocatedOnly.1, allocatedOnly.2, .ok ∅, _, _, _,
    allocatedOnly_reached.races (.step hsnapshot (.step (hprobe _)
      (.step (hread _) (.refl _ _)))),
    ⟨_, _, _, _, _, _, _, allocatedOnly_reached, hsnapshot, .refl _ _, hprobe _,
      .refl _ _, _, hread _, .refl _ _⟩, by decide, by decide⟩

end NodeAgent
