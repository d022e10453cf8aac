import NodeAgent.Application.Leased
import NodeAgent.Application.Retention

/-!
# Which devices are handed out

The foreign-busy devices are those that the probe reports and the allocator does
not hold.  A start, or a resume that allocates afresh, avoids them; a pod that
is resumed on its recorded devices takes them as they are.
-/

namespace NodeAgent

open Effectful Program Agent

/-- Busy devices that the allocator holds for nobody. -/
def foreignBusy (busy : World → Finset Nat) (w : World) : Finset Nat :=
  busy w \ w.allocator.allocatedDevices

def Sees (busy : World → Finset Nat) (w : World) :
    (e : Effect) → Except Exn e.Ret → Prop
  | .probe .busyGpuDevices, r => r = .ok (busy w)
  | _, _ => True

/-- The host with a probe that answers, whatever else happens. -/
def watched (busy : World → Finset Nat) :
    Machine Effect Effect.Ret Exn World where
  Step w e r w' := (host anyResult).Step w e r w' ∧ Sees busy w e r

/-- No process comes or goes while the agent compares the two sets. -/
def Steady (busy : World → Finset Nat) : Prop :=
  ∀ w e (a : Answer e), e = .probe .busyGpuDevices ∨ e = .allocatedDevices →
    busy (w.answer e a).2 = busy w

/-- A suspended pod asks for its own devices and gets a foreign-busy one. -/
def TakesBack (busy : World → Finset Nat) (w : World) (e : Effect) : Prop :=
  ∃ runtime, w.runtimes.get? runtime.deploymentId = some runtime ∧
    runtime.status = .suspended ∧ runtime.workloadKind = .pod ∧
    e = .allocateSpecific runtime.deploymentId (originalDevices runtime) ∧
    (∀ x ∈ originalDevices runtime, x ∈ w.allocator.freeDevices ∨
      x ∈ w.allocator.getAllocation runtime.deploymentId) ∧
    ∃ x ∈ originalDevices runtime, x ∈ foreignBusy busy w

variable {s : Settings} {busy : World → Finset Nat} {w w' : World}
variable {d : String} {e : Effect} {r : Except Exn e.Ret}

theorem watched_refines : Refines (watched busy) := fun _ _ _ _ h => h.1.2

theorem mem_foreignBusy {x : Nat} : x ∈ foreignBusy busy w ↔
    x ∈ busy w ∧ ∀ b, x ∉ w.allocator.getAllocation b := by
  simp [foreignBusy, GpuAllocator.mem_allocatedDevices]

theorem watched_watchful (hsteady : Steady busy) :
    Watchful (watched busy) fun w avoid => avoid = foreignBusy busy w where
  refines := watched_refines
  foreign w := by
    unfold foreignBusyDevices
    rw [sat_bind', sat_attempt]
    refine sat_step_bind watched_refines trivial fun a _ hstep => ?_
    have hprobed : ∀ d, Unmoved w d (w.answer (.probe .busyGpuDevices) a).2 :=
      fun d => unmoved_answer a rfl fun _ => rfl
    have hbusy : (w.perform (.probe .busyGpuDevices) a).1 = .ok (busy w) :=
      hstep.2
    have hsame := hsteady w (.probe .busyGpuDevices) a (.inl rfl)
    rw [hbusy, andThen_ok]
    refine sat_step_bind watched_refines trivial fun b _ _ => ?_
    refine ⟨fun d => (hprobed d).trans (unmoved_answer b rfl fun _ => rfl),
      _, rfl, ?_⟩
    have hsame' := hsteady (w.answer (.probe .busyGpuDevices) a).2
      .allocatedDevices b (.inr rfl)
    simp only [foreignBusy, hsame', hsame]
    rfl

def Asks (busy : World → Finset Nat) (w : World) : Effect → Prop
  | .allocate _ _ avoid => avoid = foreignBusy busy w
  | .allocateSpecific d devices => ∃ runtime, w.runtimes.get? d = some runtime ∧
      runtime.status = .suspended ∧ runtime.workloadKind = .pod ∧
        originalDevices runtime = devices
  | _ => True

theorem Conduct.asks
    (h : Conduct (fun w avoid => avoid = foreignBusy busy w) w e) :
    Asks busy w e := by
  cases e <;> first | exact h | exact trivial

theorem TeardownCall.asks {reported : Bool} (h : TeardownCall d reported e) :
    Asks busy w e := by
  cases e <;> first | exact trivial | exact h.elim

theorem reconcileOnce_asks (hsteady : Steady busy) (hotkey : String) :
    Keeps (watched busy) (Asks busy) (fun _ => True)
      (reconcileOnce s hotkey) := by
  refine keeps_reconcileOnce (L := fun _ => True) (fun e he => ?_)
    watched_refines (fun _ _ _ _ => trivial) (fun _ _ lease _ _ w _ => ?_)
    fun _ _ _ runtime _ _ => ?_
  · refine keeps_perform (fun w _ => ?_) fun _ _ _ _ _ => trivial
    cases e <;> first | exact trivial | exact he.elim
  · exact (handleLease_conduct (watched_watchful hsteady) lease w).mono
      (fun _ _ h => h.asks) fun _ _ _ => trivial
  · exact keeps_of_always (cleanUp_teardown rfl _ _).always
      (fun _ _ _ he => he.asks) fun _ _ _ _ _ _ hstep =>
        ⟨host_typed s hstep.1, trivial⟩

/-! ## What one call attributes -/

/-- The devices that a deployment holds after a call and did not hold before. -/
def Attributed (w w' : World) (d : String) (x : Nat) : Prop :=
  x ∈ w'.allocator.getAllocation d ∧ x ∉ w.allocator.getAllocation d

theorem perform_attributes {a : Answer e} {x : Nat}
    (h : Attributed w (w.answer e a).2 d x) :
    (∃ n avoid, e = .allocate d n avoid ∧ x ∈ w.allocator.usable avoid) ∨
    (∃ devices, e = .allocateSpecific d devices ∧ x ∈ devices ∧
      ∀ x ∈ devices, x ∈ w.allocator.freeDevices ∨
        x ∈ w.allocator.getAllocation d) := by
  obtain ⟨hafter, hbefore⟩ := h
  simp only [World.answer] at hafter
  by_cases he : World.touchesBooks e = false
  · rw [(World.perform_books he w a).2.2.1] at hafter
    exact absurd hafter hbefore
  · cases e with
    | allocate b n avoid =>
        rcases w.allocator.allocate_cases b n avoid with
          ⟨-, h⟩ | ⟨-, message, h⟩ | ⟨-, -, h⟩
        · simp only [World.perform, h] at hafter
          exact absurd hafter hbefore
        · simp only [World.perform, h] at hafter
          exact absurd hafter hbefore
        · simp only [World.perform, h] at hafter
          by_cases hb : b = d
          · subst hb
            left
            refine ⟨n, avoid, rfl, ?_⟩
            rw [GpuAllocator.getAllocation_assign_self, List.mem_toFinset]
              at hafter
            exact List.mem_of_mem_take hafter
          · rw [GpuAllocator.getAllocation_assign_of_ne _ _ hb] at hafter
            exact absurd hafter hbefore
    | allocateSpecific b devices =>
        rcases w.allocator.allocateSpecific_cases b devices with
          ⟨-, h⟩ | ⟨-, ⟨message, h⟩, -⟩ | ⟨-, havailable, h⟩
        · simp only [World.perform, h] at hafter
          exact absurd hafter hbefore
        · simp only [World.perform, h] at hafter
          exact absurd hafter hbefore
        · simp only [World.perform, h] at hafter
          by_cases hb : b = d
          · subst hb
            right
            rw [GpuAllocator.getAllocation_assign_self, List.mem_toFinset]
              at hafter
            exact ⟨devices, rfl, hafter, havailable⟩
          · rw [GpuAllocator.getAllocation_assign_of_ne _ _ hb] at hafter
            exact absurd hafter hbefore
    | release b =>
        by_cases hb : b = d
        · subst hb
          simp [World.perform] at hafter
        · simp only [World.perform] at hafter
          rw [GpuAllocator.getAllocation_release_of_ne _ hb] at hafter
          exact absurd hafter hbefore
    | upsertRuntime _ => exact absurd hafter hbefore
    | removeRuntime _ => exact absurd hafter hbefore
    | updateDeploymentStatus _ => exact absurd hafter hbefore
    | _ => exact absurd rfl he

/--
At every call of every pass: all devices that the call attributes to a
deployment lie outside the foreign-busy set, if and only if the call does not
give a suspended pod back a foreign-busy device.
-/
theorem attributed_clear_iff (hsteady : Steady busy) {hotkey : String}
    {w₀ : World} {next : Except Exn e.Ret → Agent Unit}
    (hpass : Reaches (watched busy) (reconcileOnce s hotkey) w₀
      (.call e next) w)
    (hstep : (watched busy).Step w e r w') :
    (∀ d x, Attributed w w' d x → x ∉ foreignBusy busy w) ↔
      ¬TakesBack busy w e := by
  have hasks : Asks busy w e :=
    ((reconcileOnce_asks hsteady hotkey _ trivial).reaches hpass).1
  obtain ⟨⟨-, a, -, heq⟩, -⟩ := hstep
  obtain rfl : (w.answer e a).2 = w' := congrArg Prod.snd heq
  constructor
  · rintro hclear ⟨runtime, hget, -, -, rfl, havailable, x, hx, hforeign⟩
    refine hclear runtime.deploymentId x ⟨?_, ?_⟩ hforeign
    · have hne : originalDevices runtime ≠ [] := List.ne_nil_of_mem hx
      rcases w.allocator.allocateSpecific_cases runtime.deploymentId
        (originalDevices runtime) with
        ⟨hnil, -⟩ | ⟨-, -, y, hy, htaken⟩ | ⟨-, -, h⟩
      · exact absurd hnil hne
      · exact absurd (havailable y hy) htaken
      · simpa [World.answer, World.perform, h] using hx
    · exact (mem_foreignBusy.mp hforeign).2 _
  · intro hnot d x hattributed hforeign
    rcases perform_attributes hattributed with
      ⟨n, avoid, rfl, hx⟩ | ⟨devices, rfl, hx, havailable⟩
    · rw [show avoid = foreignBusy busy w from hasks] at hx
      exact (GpuAllocator.mem_usable.mp hx).2 hforeign
    · obtain ⟨runtime, hget, hstatus, hkind, rfl⟩ := hasks
      obtain rfl : runtime.deploymentId = d := Table.key_of_get? hget
      exact hnot ⟨runtime, hget, hstatus, hkind, rfl, havailable, x, hx,
        hforeign⟩

/-! ## A node with a squatter -/

/-- As `podHost`, with processes of others on some devices. -/
def squattedHost (leases : List LeaseAssignment) (devices : Finset Nat) :
    Environment := fun w e =>
  match e with
  | .probe .busyGpuDevices => { result := .ok devices }
  | e => podHost leases w e

theorem squattedHost_follows (leases : List LeaseAssignment)
    (devices : Finset Nat) :
    Follows (watched fun _ => devices) (squattedHost leases devices)
      fun _ _ => true := by
  intro w e _ hallows
  refine ⟨⟨trivial, squattedHost leases devices w e, hallows, rfl⟩, ?_⟩
  cases e with
  | probe question =>
      cases question with
      | busyGpuDevices => exact rfl
      | _ => exact trivial
  | _ => exact trivial

def allocating : Agent Unit × World :=
  replayFor (squattedHost [leaseOn "pod-1"] {0}) (fun _ _ => true) 9
    (reconcileOnce { gpuCount := 2 } "hotkey") (.init { gpuCount := 2 })

theorem attributed_clear_iff_allocating : ∃ next w',
    allocating.1 = .call (.allocate "pod-1" 1 {0}) next ∧
      (watched fun _ => {0}).Step allocating.2 (.allocate "pod-1" 1 {0})
        (.ok [1]) w' ∧
      Attributed allocating.2 w' "pod-1" 1 ∧
      1 ∉ foreignBusy (fun _ => {0}) allocating.2 := by
  have hreaches : Reaches (watched fun _ => {0})
      (reconcileOnce { gpuCount := 2 } "hotkey") (.init { gpuCount := 2 })
      allocating.1 allocating.2 :=
    replayFor_reaches (squattedHost_follows [leaseOn "pod-1"] {0}) 9 _ _
  have hstep : (watched fun _ => {0}).Step allocating.2
      (.allocate "pod-1" 1 {0}) (.ok [1]) (allocating.2.answer
        (.allocate "pod-1" 1 {0}) { result := .ok [] }).2 :=
    ⟨⟨trivial, { result := .ok [] }, rfl, rfl⟩, trivial⟩
  have hattributed : Attributed allocating.2 (allocating.2.answer
      (.allocate "pod-1" 1 {0}) { result := .ok [] }).2 "pod-1" 1 := by
    constructor <;> decide
  have hnot : ¬TakesBack (fun _ => {0}) allocating.2
      (.allocate "pod-1" 1 {0}) := by
    rintro ⟨runtime, -, -, -, heq, -⟩
    cases heq
  refine ⟨_, _, rfl, hstep, hattributed, ?_⟩
  exact (attributed_clear_iff (fun _ _ _ _ => rfl) hreaches hstep).mpr hnot
    "pod-1" 1 hattributed

/-- The lease of the suspended pod is active again, and its GPU is taken. -/
def resuming : Agent Unit × World :=
  replayFor (squattedHost [leaseOn "pod-1"] {0}) (fun _ _ => true) 3
    (reconcileOnce {} "hotkey") suspendedPodNode

/-- A resumed pod is given the device that another process is using. -/
theorem resumed_pod_takes_foreign_device :
    CrashRun {} (host anyResult) suspendedPodNode ∧
    ∃ next w', Reaches (watched fun _ => {0}) (reconcileOnce {} "hotkey")
        suspendedPodNode (.call (.allocateSpecific "pod-1" [0]) next)
        resuming.2 ∧
      (watched fun _ => {0}).Step resuming.2 (.allocateSpecific "pod-1" [0])
        (.ok [0]) w' ∧
      Attributed resuming.2 w' "pod-1" 0 ∧
      0 ∈ foreignBusy (fun _ => {0}) resuming.2 := by
  constructor
  · obtain ⟨r, hstart⟩ := replayed_exec
      (anyResult_respected (podHost [leaseOn "pod-1"]))
      (p := reconcileOnce {} "hotkey") (w := .init {}) rfl
    obtain ⟨r', hsuspend⟩ := replayed_exec (anyResult_respected
      (podHost [{ leaseOn "pod-1" with status := some "suspended" }]))
      (p := reconcileOnce {} "hotkey") (w := onePodNode) rfl
    exact .serve (.serve .boot (.reconcile "hotkey") hstart)
      (.reconcile "hotkey") hsuspend
  · have hreaches : Reaches (watched fun _ => {0}) (reconcileOnce {} "hotkey")
        suspendedPodNode resuming.1 resuming.2 :=
      replayFor_reaches (squattedHost_follows [leaseOn "pod-1"] {0}) 3 _ _
    refine ⟨_, _, hreaches, ⟨⟨trivial, { result := .ok [] }, rfl, rfl⟩,
      trivial⟩, ?_, ?_⟩
    · constructor <;> decide
    · decide

end NodeAgent
