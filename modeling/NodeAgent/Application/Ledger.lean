import NodeAgent.Application.Locality

/-!
# The books of one deployment

The record of a deployment, the devices that the allocator holds for it and the
reports sent for it, as the agent's own calls for that deployment move them.
Backend calls leave the books alone.
-/

namespace NodeAgent

open Effectful Program Agent

/-- The protocol's floor: a workload asks for at least one GPU. -/
def Floored (permitted : Permitted) : Prop :=
  ∀ id workload, permitted (.getWorkload id) (.ok (some workload)) →
    1 ≤ requestedGpus workload

/-- A `docker start` that cannot run is missing or times out. -/
def Polite (permitted : Permitted) : Prop :=
  ∀ d target x, permitted (.dockerStart d target) (.error x) →
    x.isMissingOrTimeout = true

structure Durable (permitted : Permitted) : Prop where
  upsert : ∀ runtime x, ¬permitted (.upsertRuntime runtime) (.error x)
  remove : ∀ d x, ¬permitted (.removeRuntime d) (.error x)

/-- Moreover a report that is lost is an HTTP error. -/
structure Reliable (permitted : Permitted) : Prop
    extends Durable permitted where
  update : ∀ update x, permitted (.updateDeploymentStatus update) (.error x) →
    x.isControlPlaneHTTPError = true

def InService (runtime : UnifiedRuntimeRecord) : Prop :=
  runtime.status = .starting ∨ runtime.status = .ready

/-- The metadata lists the devices as the allocator handed them out. -/
def Pinned (runtime : UnifiedRuntimeRecord) : Prop :=
  ∃ devices : List Nat, runtime.metadata.gpuDevices = some devices ∧
    GpuAllocator.Ascending devices ∧
    runtime.metadata.gpuCount = some (devices.length : Int)

theorem Kept.pinned {runtime runtime' : UnifiedRuntimeRecord}
    (h : Kept runtime runtime') (hpinned : Pinned runtime) :
    Pinned runtime' := by
  obtain ⟨devices, hdevices, hascending, hcount⟩ := hpinned
  exact ⟨devices, h.gpuDevices.trans hdevices, hascending,
    h.gpuCount.trans hcount⟩

theorem Pinned.gpuCount_nonneg {runtime : UnifiedRuntimeRecord}
    (h : Pinned runtime) : ∀ n, runtime.metadata.gpuCount = some n → 0 ≤ n := by
  obtain ⟨devices, -, -, hcount⟩ := h
  intro n heq
  rw [hcount] at heq
  cases heq
  exact Int.natCast_nonneg _

theorem Kept.originalDevices {runtime runtime' : UnifiedRuntimeRecord}
    (h : Kept runtime runtime') :
    originalDevices runtime' = originalDevices runtime := by
  unfold NodeAgent.originalDevices
  rw [h.gpuDevices]

structure Ledger where
  record : Option UnifiedRuntimeRecord
  held : Finset Nat
  /-- The states reported so far and whether each report arrived. -/
  sent : List (DeploymentState × Bool)

/-- What a record says of the devices that are held when it is written. -/
structure Accounts (permitted : Permitted) (v : Ledger)
    (runtime : UnifiedRuntimeRecord) : Prop where
  pinned : Floored permitted →
    InService runtime ∨ runtime.status = .suspended → Pinned runtime
  inService : Floored permitted → InService runtime →
    v.held = (originalDevices runtime).toFinset
  released : ¬InService runtime → v.held = ∅
  accepted : Floored permitted → runtime.status = .accepted →
    ∀ n, runtime.metadata.gpuCount = some n → 0 ≤ n
  known : runtime.status ≠ .preparing

/-- What the record of a runtime is replaced with. -/
def Writes (permitted : Permitted) (v : Ledger) : Effect → Prop
  | .upsertRuntime runtime => Accounts permitted v runtime
  | .removeRuntime _ => v.held = ∅
  | _ => True

theorem accounts_of_released {permitted : Permitted} {v : Ledger}
    {runtime : UnifiedRuntimeRecord} (hheld : v.held = ∅)
    (h : runtime.status = .failed ∨ runtime.status = .terminated) :
    Accounts permitted v runtime := by
  rcases h with h | h <;> constructor <;> simp [InService, h, hheld]

theorem accounts_of_accepted {permitted : Permitted} {v : Ledger}
    {runtime : UnifiedRuntimeRecord} (hheld : v.held = ∅)
    (h : runtime.status = .accepted)
    (hcount : Floored permitted →
      ∀ n, runtime.metadata.gpuCount = some n → 0 ≤ n) :
    Accounts permitted v runtime := by
  constructor <;> simp [InService, h, hheld]
  exact hcount

theorem accounts_of_suspended {permitted : Permitted} {v : Ledger}
    {runtime : UnifiedRuntimeRecord} (hheld : v.held = ∅)
    (h : runtime.status = .suspended)
    (hpinned : Floored permitted → Pinned runtime) :
    Accounts permitted v runtime := by
  constructor <;> simp [InService, h, hheld]
  exact hpinned

def anyContainer : String → String → Prop := fun _ _ => True

namespace Ledger

/-- `free x` says that no other deployment in service holds the device `x`. -/
def Step (s : Settings) (permitted : Permitted) (free : Nat → Prop)
    (v : Ledger) : (e : Effect) → Except Exn e.Ret → Ledger → Prop
  | .allocate _ n _, r, v' =>
      (n ≤ 0 ∧ r = .ok [] ∧ v' = v) ∨
      (∃ message, r = .error (.gpuAllocationError message) ∧ v' = v) ∨
      (0 < n ∧ ∃ devices : List Nat, r = .ok devices ∧
        devices.length = n.toNat ∧ GpuAllocator.Ascending devices ∧
        (∀ x ∈ devices, free x) ∧ v' = { v with held := devices.toFinset })
  | .allocateSpecific _ devices, r, v' =>
      (devices = [] ∧ r = .ok [] ∧ v' = v) ∨
      (∃ message, r = .error (.gpuAllocationError message) ∧ v' = v) ∨
      (devices ≠ [] ∧ r = .ok (GpuAllocator.sortedDevices devices) ∧
        (∀ x ∈ devices, free x ∨ x ∈ v.held) ∧
        v' = { v with held := devices.toFinset })
  | .release _, r, v' => r = .ok v.held ∧ v' = { v with held := ∅ }
  | .getRuntime _, r, v' => r = .ok v.record ∧ v' = v
  | .upsertRuntime runtime, r, v' =>
      permitted (.upsertRuntime runtime) r ∧
        v' = { v with record := some runtime }
  | .removeRuntime d, r, v' =>
      permitted (.removeRuntime d) r ∧ v' = { v with record := none }
  | .updateDeploymentStatus update, r, v' =>
      permitted (.updateDeploymentStatus update) r ∧
        v' = { v with sent := v.sent ++ [(update.state, World.isOk r)] }
  | e, r, v' => permitted e r ∧ Typed s anyContainer e r ∧ v' = v

def machine (s : Settings) (permitted : Permitted) (free : Nat → Prop) :
    Machine Effect Effect.Ret Exn Ledger where
  Step := Step s permitted free

/-- Every run of `p` from the books `v` writes as it may and ends in `post`. -/
def Ends (s : Settings) (permitted : Permitted) (free : Nat → Prop)
    {α : Type} (p : Agent α) (post : Except Exn α → Ledger → Prop)
    (v : Ledger) : Prop :=
  Sat (machine s permitted free) (Writes permitted) p post v

variable {s : Settings} {permitted : Permitted} {free : Nat → Prop}
variable {α β : Type} {v : Ledger}

/-! ## Rules -/

theorem Ends.weaken {p : Agent α} {post post' : Except Exn α → Ledger → Prop}
    (h : Ends s permitted free p post v)
    (hpost : ∀ r v, post r v → post' r v) :
    Ends s permitted free p post' v :=
  Sat.weaken h hpost

theorem ends_pure {a : α} {post : Except Exn α → Ledger → Prop}
    (h : post (.ok a) v) : Ends s permitted free (pure a) post v := h

theorem ends_raise {x : Exn} {post : Except Exn α → Ledger → Prop}
    (h : post (.error x) v) : Ends s permitted free (raise x) post v := h

theorem ends_bind {p : Agent α} {f : α → Agent β}
    {m : Except Exn α → Ledger → Prop}
    {post : Except Exn β → Ledger → Prop}
    (hp : Ends s permitted free p m v)
    (hok : ∀ a v', m (.ok a) v' → Ends s permitted free (f a) post v')
    (herror : ∀ x v', m (.error x) v' → post (.error x) v') :
    Ends s permitted free (p >>= f) post v :=
  Sat.bind hp hok herror

theorem ends_attempt {p : Agent α}
    {post : Except Exn (Except Exn α) → Ledger → Prop}
    (hp : Ends s permitted free p (fun r => post (.ok r)) v) :
    Ends s permitted free (attempt p) post v :=
  sat_attempt.mpr hp

theorem ends_perform {e : Effect} {post : Except Exn e.Ret → Ledger → Prop}
    (he : Writes permitted v e)
    (h : ∀ r v', Step s permitted free v e r v' → post r v') :
    Ends s permitted free (perform e) post v :=
  ⟨he, h⟩

theorem ends_onlyIf {c : Bool} {p : Agent Unit}
    {post : Except Exn Unit → Ledger → Prop}
    (htrue : c = true → Ends s permitted free p post v)
    (hfalse : c = false → post (.ok ()) v) :
    Ends s permitted free (onlyIf c p) post v := by
  cases c with
  | false => exact hfalse rfl
  | true => exact htrue rfl

theorem ends_release {d : String}
    {post : Except Exn (Finset Nat) → Ledger → Prop}
    (h : post (.ok v.held) { v with held := ∅ }) :
    Ends s permitted free (release d) post v := by
  refine ends_perform trivial fun r v' hstep => ?_
  obtain ⟨rfl, rfl⟩ := hstep
  exact h

theorem ends_upsert {runtime : UnifiedRuntimeRecord}
    {post : Except Exn Unit → Ledger → Prop}
    (hwrite : Accounts permitted v runtime)
    (h : ∀ r, permitted (.upsertRuntime runtime) r →
      post r { v with record := some runtime }) :
    Ends s permitted free (upsertRuntime runtime) post v := by
  refine ends_perform hwrite fun r v' hstep => ?_
  obtain ⟨hr, rfl⟩ := hstep
  exact h r hr

/-- The answers that a backend call can get. -/
def Answers (s : Settings) (permitted : Permitted) (e : Effect)
    (r : Except Exn e.Ret) : Prop :=
  permitted e r ∧ Typed s anyContainer e r

theorem ends_backend {d : String} {p : Agent α} {ends : Except Exn α → Prop}
    {P : Except Exn α → Ledger → Prop}
    (hp : Always (Answers s permitted) (BackendCall anyContainer d) p ends)
    (hpost : ∀ r, ends r → P r v) :
    Ends s permitted free p P v := by
  refine Always.sat_of_stutter hp (fun e r v' hcall hstep => ?_)
    (fun e hcall => ?_) hpost
  · cases e <;> first
      | exact absurd hcall id
      | exact ⟨⟨hstep.1, hstep.2.1⟩, hstep.2.2⟩
  · cases e <;> first
      | exact absurd hcall id
      | exact trivial

theorem ends_quiet {d : String} {p : Agent α} {ends : Except Exn α → Prop}
    {P : Except Exn α → Ledger → Prop}
    (hp : Always (Typed s anyContainer) (BackendCall anyContainer d) p ends)
    (hpost : ∀ r, ends r → P r v) :
    Ends s permitted free p P v :=
  ends_backend (hp.narrow fun _ _ _ h => h.2) hpost

theorem ends_attempt_backend {d : String} {p : Agent α} {Q : α → Prop}
    {f : Except Exn α → Agent β} {post : Except Exn β → Ledger → Prop}
    (hp : Within (Typed s anyContainer) (BackendCall anyContainer d) p Q)
    (hok : ∀ a, Q a → Ends s permitted free (f (.ok a)) post v)
    (herror : ∀ x, Ends s permitted free (f (.error x)) post v) :
    Ends s permitted free (attempt p >>= f) post v := by
  refine ends_bind (ends_quiet hp.attempt (P := fun r v' => v = v' ∧
    ∃ result, r = .ok result ∧ ∀ a, result = .ok a → Q a)
    fun r hr => ⟨rfl, hr⟩) ?_ ?_
  · rintro result _ ⟨rfl, _, heq, hresult⟩
    cases heq
    cases result with
    | ok a => exact hok a (hresult a rfl)
    | error x => exact herror x
  · rintro x _ ⟨-, _, heq, -⟩
    cases heq

theorem ends_quiet_bind {d : String} {p : Agent α} {f : α → Agent β}
    {post : Except Exn β → Ledger → Prop}
    (hp : Within (Typed s anyContainer) (BackendCall anyContainer d) p
      fun _ => True)
    (hok : ∀ a, Ends s permitted free (f a) post v)
    (herror : ∀ x, post (.error x) v) :
    Ends s permitted free (p >>= f) post v := by
  refine ends_bind (ends_quiet hp.always (P := fun _ v' => v = v')
    fun _ _ => rfl) ?_ ?_
  · rintro a _ rfl
    exact hok a
  · rintro x _ rfl
    exact herror x

theorem belongs_any (runtime : UnifiedRuntimeRecord) :
    Belongs s anyContainer runtime.deploymentId runtime :=
  ⟨rfl, fun _ _ _ => trivial⟩

end Ledger

end NodeAgent
