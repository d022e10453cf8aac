import NodeAgent.Application.Attribution
import NodeAgent.Application.Smooth
import NodeAgent.Foundation.Leads

/-!
# What a retry makes of a leftover

A start that was cut short is retried: its GPUs are released, GPUs are allocated
anew, and only then is the container that it left removed.  Until then the probe
reports the GPUs of that container.
-/

namespace NodeAgent

open Effectful Program Agent

/-- What the probe of the GPUs reported. -/
def Event.busy : Event → Option (Finset Nat)
  | ⟨.probe .busyGpuDevices, .ok devices⟩ => some devices
  | _ => none

def World.reportedBusy (w : World) : Finset Nat :=
  ((w.log.filterMap Event.busy).getLast?).getD ∅

/-- The devices that are free when `d` has given back what it holds. -/
def GpuAllocator.freeWithout (g : GpuAllocator) (d : String) : Finset Nat :=
  (g.release d).2.freeDevices

/-- So many devices are held by no other deployment and were not reported. -/
def RoomFor (g : GpuAllocator) (d : String) (busy : Finset Nat) (n : Int) :
    Prop :=
  n ≤ (g.freeWithout d \ busy).card

def SameOthers (d : String) (g g' : GpuAllocator) : Prop :=
  g'.totalGpus = g.totalGpus ∧
    ∀ b, b ≠ d → g'.getAllocation b = g.getAllocation b

/-- The last report of the probe before GPUs are allocated for `d`. -/
def Reports (d : String) (busy : Finset Nat) (w : World) : Effect → Prop
  | .allocate b _ _ => b = d → w.reportedBusy = busy
  | _ => True

/-- Stopping another deployment's container stops none of `d`. -/
def SparesAll (d : String) (w : World) : Effect → Prop
  | .dockerRm b target | .dockerStop b target => b ≠ d →
      ∀ c ∈ w.containers, c.owner = d → c.answersTo target = false
  | _ => True

/-- The control plane answers as given, and every call succeeds. -/
def unhindered (leases : List LeaseAssignment)
    (knows : String → Option WorkloadSpec) : Permitted := fun e r =>
  listing (.ok leases) e r ∧ recalling knows e r ∧ succeeds e r

def unhinderedHost (d : String) (busy : Finset Nat)
    (leases : List LeaseAssignment) (knows : String → Option WorkloadSpec) :
    Machine Effect Effect.Ret Exn World :=
  (host (unhindered leases knows)).when fun w e =>
    Reports d busy w e ∧ SparesAll d w e

/-- The host while the other deployments hold what they do in `g`. -/
def turnHost (d : String) (g : GpuAllocator) (busy : Finset Nat)
    (leases : List LeaseAssignment) (knows : String → Option WorkloadSpec) :
    Machine Effect Effect.Ret Exn World :=
  (host (unhindered leases knows)).when fun w e =>
    (SameOthers d g w.allocator ∧ Reports d busy w e) ∧ SparesAll d w e

variable {s : Settings} {permitted : Permitted} {w w' : World}
variable {d b : String} {busy : Finset Nat} {leases : List LeaseAssignment}
variable {knows : String → Option WorkloadSpec} {α β : Type}
variable {runtime : UnifiedRuntimeRecord} {workload : WorkloadSpec}
variable {g : GpuAllocator} {P : Tenancy → Prop}

theorem unhinderedHost_refines :
    Refines (unhinderedHost d busy leases knows) :=
  fun _ _ _ _ h => h.2.2

theorem turnHost_refines : Refines (turnHost d g busy leases knows) :=
  fun _ _ _ _ h => h.2.2

/-! ## Other deployments -/

/-- A condition on the record, the devices and the containers. -/
def Private (P : Tenancy → Prop) : Prop :=
  ∀ v v' : Tenancy, v'.record = v.record → v'.held = v.held →
    v'.containers = v.containers → P v → P v'

theorem containers_of_spared {e : Effect} {r : Except Exn e.Ret}
    (hlocal : Local s (Owned w) b e) (hb : b ≠ d) (hspares : SparesAll d w e)
    (hstep : (host permitted).Step w e r w') :
    (w'.tenancy d).containers = (w.tenancy d).containers := by
  obtain ⟨a, -, -, rfl⟩ := host_refines.performed hstep
  have hspared : ∀ target, (∀ c ∈ w.containers, c.owner = d →
      c.answersTo target = false) → ∀ running,
      ((w.setRunning target running).containers.filter fun c => c.owner = d) =
        w.containers.filter fun c => c.owner = d := by
    intro target hothers running
    simp only [World.setRunning]
    rw [filter_map_owner fun c => by split <;> rfl]
    have hsame : ∀ c ∈ w.containers.filter (fun c => c.owner = d),
        (if c.answersTo target then { c with running := running } else c) =
          id c := by
      intro c hc
      obtain ⟨hmem, howner⟩ := List.mem_filter.mp hc
      simp [hothers c hmem (by simpa using howner)]
    rw [List.map_congr_left hsame, List.map_id]
  by_cases htouches : World.touchesContainers e = false
  · simp only [World.tenancy, (World.perform_containers htouches w a).1]
  · cases e with
    | dockerRun command =>
        obtain rfl : command.owner = b := hlocal.owner_eq rfl
        cases hcreated : a.created <;>
          simp [World.tenancy, World.perform, World.withContainer, hcreated,
            List.filter_append, hb]
    | dockerRm owner target =>
        obtain rfl : owner = b := hlocal.owner_eq rfl
        by_cases htook : a.tookEffect
        · simp only [World.tenancy, World.perform, htook, if_true,
            World.withoutContainer]
          rw [List.filter_comm]
          refine List.filter_eq_self.mpr fun c hc => ?_
          obtain ⟨hmem, howner⟩ := List.mem_filter.mp hc
          simp [hspares hb c hmem (by simpa using howner)]
        · simp [World.tenancy, World.perform, htook]
    | dockerStop owner target =>
        obtain rfl : owner = b := hlocal.owner_eq rfl
        by_cases htook : a.tookEffect
        · simp only [World.tenancy, World.perform, htook, if_true]
          exact hspared target (hspares hb) false
        · simp [World.tenancy, World.perform, htook]
    | dockerStart owner target =>
        obtain ⟨rfl, hown⟩ := hlocal.starts_own
        by_cases htook : a.tookEffect
        · simp only [World.tenancy, World.perform, htook, if_true]
          refine hspared target (fun c hmem howner => ?_) true
          by_contra hanswers
          have hanswers : c.answersTo target = true := by simpa using hanswers
          exact hb ((hown.2 c hmem hanswers).2.symm.trans howner)
        · simp [World.tenancy, World.perform, htook]
    | _ => exact absurd rfl htouches

theorem Private.unaffected (hP : Private P) :
    Unaffected s (unhinderedHost d busy leases knows) d P := by
  intro b hb w e r w' hlocal hstep hw
  have hfades := host_fades hlocal hb.symm hstep.2
  exact hP _ _ hfades.record hfades.held
    (containers_of_spared hlocal hb hstep.1.2 hstep.2) hw

/-! ## The deployment itself -/

section Own

theorem completes_tenancy {p : Agent α} {post : α → Tenancy → Prop}
    (hlocal : ∀ own, Owned w ≤ own →
      Within (Typed s own) (Local s own d) p fun _ => True)
    (h : Tenants s d P w)
    (hp : ∀ v, P v → Completes (Tenancy.smooth s) p post v) :
    Completes (turnHost d g busy leases knows) p
      (fun a w' => Tenants s d (post a) w' ∧ Owned w ≤ Owned w') w := by
  have hworks : Works (unhindered leases knows) :=
    fun e r h => succeeds_works e r h.2.2
  refine (sat_tenancy (N := Tenancy.smooth s) turnHost_refines
    (fun w e r w' htenanted hlocal hstep => ⟨hstep.2.1.2.2,
      host_typed s hstep.2, host_tenancy hworks htenanted hlocal hstep.2⟩)
    hlocal h.1 (hp _ h.2)).mono (fun _ _ _ => trivial) ?_
  rintro r w₁ ⟨htenanted, hle, -, a, rfl, ha⟩
  exact ⟨a, rfl, ⟨htenanted, ha⟩, hle⟩

theorem completes_quietly {p : Agent α} {Q : α → Prop}
    (hlocal : ∀ own, Within (Typed s own) (Local s own d) p fun _ => True)
    (h : Tenants s d P w) (hp : ∀ v, Tenancy.Quietly s p Q v) :
    Completes (turnHost d g busy leases knows) p
      (fun a w' => Tenants s d P w' ∧ Q a) w := by
  have hquiet : ∀ v, P v → Completes (Tenancy.smooth s) p
      (fun a v' => P v' ∧ Q a) v := by
    refine fun v hv => (hp v).weaken ?_
    rintro a v' ⟨rfl, ha⟩
    exact ⟨hv, ha⟩
  refine (completes_tenancy (fun own _ => hlocal own) h hquiet).weaken ?_
  rintro a w₁ ⟨⟨htenanted, hP, ha⟩, -⟩
  exact ⟨⟨htenanted, hP⟩, ha⟩

/-- No device is held, and of the containers only those of the name run. -/
def Vacant (name : String) (v : Tenancy) : Prop :=
  v.held = ∅ ∧ v.Alone name

/-- The record is one that no lease handler acts on any more. -/
def Decided (v : Tenancy) : Prop :=
  ∃ runtime, v.record = some runtime ∧ runtime.status ≠ .accepted ∧
    runtime.status ≠ .starting ∧ runtime.status ≠ .suspended

/-- The deployment is served if `served`, and done with in any case. -/
def Turned (s : Settings) (served : Prop) (v : Tenancy) : Prop :=
  Decided v ∧ (v.Served s ↔ served)

theorem turned_of_served {v : Tenancy} (h : v.Served s) {served : Prop}
    (hserved : served) : Turned s served v := by
  obtain ⟨runtime, hrecord, hready⟩ := h.1
  exact ⟨⟨runtime, hrecord, by simp [hready]⟩, iff_of_true h hserved⟩

theorem turned_of_failed {v : Tenancy} (hrecord : v.record = some runtime)
    (hfailed : runtime.status = .failed) {served : Prop} (h : ¬served) :
    Turned s served v := by
  refine ⟨⟨runtime, hrecord, by simp [hfailed]⟩, iff_of_false ?_ h⟩
  rintro ⟨⟨_, heq, hready⟩, -⟩
  rw [hrecord] at heq
  cases heq
  rw [hfailed] at hready
  cases hready

theorem failRuntime_turned (message : String) {served : Prop} (h : ¬served)
    (v : Tenancy) :
    Completes (Tenancy.smooth s) (failRuntime runtime message)
      (fun _ v' => Turned s served v') v := by
  have hrelease : Completes (Tenancy.smooth s) (release runtime.deploymentId)
      (fun _ _ => True) v := by
    refine completes_perform ?_
    rintro r v' ⟨hr, -⟩
    obtain ⟨a, rfl⟩ := ok_of_isOk hr
    exact ⟨a, rfl, trivial⟩
  refine Completes.bind hrelease fun _ v₁ _ => ?_
  refine Completes.bind (Tenancy.upsert_completes _) ?_
  rintro _ v₂ ⟨hrecord, -⟩
  refine (Tenancy.report_quietly _).weaken ?_
  rintro _ v₃ ⟨rfl, -⟩
  exact turned_of_failed hrecord rfl h

def Found (s : Settings) (d name : String) (room : Prop) (n : Int)
    (found : Option (List Nat)) (w : World) : Prop :=
  match found with
  | some devices => room ∧ devices.length = n.toNat ∧ Tenants s d (fun v =>
      v.held = devices.toFinset ∧ v.Alone name) w
  | none => Tenants s d (Turned s room) w

theorem length_usable (g : GpuAllocator) (avoid : Finset Nat) :
    (g.usable avoid).length = (g.freeDevices \ avoid).card := by
  have hnodup : (g.usable avoid).Nodup := List.nodup_range.filter _
  have hset : (g.usable avoid).toFinset = g.freeDevices \ avoid := by
    ext x
    simp [GpuAllocator.mem_usable]
  rw [← List.toFinset_card_of_nodup hnodup, hset]

theorem free_sdiff_foreign (g : GpuAllocator) (busy : Finset Nat) :
    g.freeDevices \ (busy \ g.allocatedDevices) = g.freeDevices \ busy := by
  ext x
  simp only [GpuAllocator.freeDevices, Finset.mem_sdiff]
  tauto

theorem reportedBusy_answer {busy : Finset Nat}
    (a : Answer (.probe .busyGpuDevices)) (b : Answer .allocatedDevices)
    (hresult : a.result = .ok busy) :
    ((w.answer (.probe .busyGpuDevices) a).2.answer .allocatedDevices
      b).2.reportedBusy = busy := by
  have hprobe : Event.busy ⟨.probe .busyGpuDevices, .ok busy⟩ = some busy := rfl
  have hother : ∀ r, Event.busy ⟨.allocatedDevices, r⟩ = none := fun _ => rfl
  unfold World.reportedBusy
  simp [World.answer, World.perform, hprobe, hother, hresult,
    List.filterMap_append]

theorem SameOthers.freeDevices {g' : GpuAllocator} (h : SameOthers d g g')
    (hnone : g'.getAllocation d = ∅) : g'.freeDevices = g.freeWithout d := by
  have hallocated :
      g'.allocatedDevices = (g.release d).2.allocatedDevices := by
    ext x
    simp only [GpuAllocator.mem_allocatedDevices]
    refine exists_congr fun b => ?_
    by_cases hb : b = d
    · subst hb
      simp [hnone]
    · rw [GpuAllocator.getAllocation_release_of_ne _ (Ne.symm hb), h.2 b hb]
  rw [GpuAllocator.freeWithout, GpuAllocator.freeDevices,
    GpuAllocator.freeDevices, hallocated, GpuAllocator.deviceIds,
    GpuAllocator.deviceIds, h.1, GpuAllocator.totalGpus_release]

theorem foreignBusyDevices_reported (h : Tenants s d P w) :
    Completes (turnHost d g busy leases knows) foreignBusyDevices
      (fun avoid w' => Tenants s d P w' ∧
        avoid = w'.reportedBusy \ w'.allocator.allocatedDevices) w := by
  have hquiet : Undisturbed (turnHost d g busy leases knows)
      (Tenants s d P) := tenants_undisturbed turnHost_refines
  have hprobe : Completes (turnHost d g busy leases knows)
      (probe .busyGpuDevices) (fun busy w₁ => Tenants s d P w₁ ∧
        ∃ a, a.result = .ok busy ∧
          w₁ = (w.answer (.probe .busyGpuDevices) a).2) w := by
    refine completes_perform fun r w₁ hstep => ?_
    have hafter := hquiet _ rfl _ _ _ h hstep
    obtain ⟨busy, rfl⟩ := ok_of_isOk hstep.2.1.2.2
    obtain ⟨a, -, heq⟩ := hstep.2.2
    simp only [World.answer, Prod.mk.injEq] at heq
    exact ⟨busy, rfl, hafter, a, heq.1, heq.2.symm⟩
  have hlook : Completes (turnHost d g busy leases knows) (do
      let busy ← probe .busyGpuDevices
      let allocated ← allocatedDevices
      pure (busy \ allocated)) (fun avoid w' => Tenants s d P w' ∧
        avoid = w'.reportedBusy \ w'.allocator.allocatedDevices) w := by
    refine Completes.bind hprobe ?_
    rintro busy w₁ ⟨h₁, a, hresult, rfl⟩
    refine Completes.bind (completes_perform fun r w₂ hstep => ?_)
      fun allocated w₂ h₂ => completes_pure h₂
    have hafter := hquiet _ rfl _ _ _ h₁ hstep
    obtain ⟨b, -, heq⟩ := hstep.2.2
    simp only [World.answer, World.perform, Prod.mk.injEq] at heq
    obtain ⟨rfl, rfl⟩ := heq
    refine ⟨_, rfl, hafter, ?_⟩
    exact congrArg (· \ _) (reportedBusy_answer a b hresult).symm
  unfold foreignBusyDevices
  refine Completes.bind hlook.attempt ?_
  rintro _ w₁ ⟨avoid, rfl, h₁⟩
  exact completes_pure h₁

theorem allocateOrFail_found {name : String} (n : Int)
    (hid : runtime.deploymentId = d) (hcontainer : runtime.containerId = none)
    (h : Tenants s d (Vacant name) w) :
    Completes (turnHost d g busy leases knows) (allocateOrFail runtime n)
      (Found s d name (RoomFor g d busy n) n) w := by
  have hworks : Works (unhindered leases knows) :=
    fun e r h => succeeds_works e r h.2.2
  subst hid
  unfold allocateOrFail
  refine Completes.bind (foreignBusyDevices_reported h) ?_
  rintro _ w₁ ⟨⟨htenanted, hheld, halone⟩, rfl⟩
  -- Nothing is held for `d` any more, and the others hold what they did.
  have hallocate : Completes (turnHost runtime.deploymentId g busy leases
      knows) (attempt (allocate runtime.deploymentId n
        (w₁.reportedBusy \ w₁.allocator.allocatedDevices)))
      (fun result w' => (∃ devices, result = .ok devices ∧
          Found s runtime.deploymentId name
            (RoomFor g runtime.deploymentId busy n) n (some devices) w') ∨
        ∃ message, result = .error (.gpuAllocationError message) ∧
          ¬RoomFor g runtime.deploymentId busy n ∧
          Tenants s runtime.deploymentId (fun _ => True) w') w₁ := by
    refine sat_attempt.mpr ⟨trivial, fun r w₂ hstep => ⟨r, rfl, ?_⟩⟩
    have hlocal : Local s (Owned w₁) runtime.deploymentId
        (.allocate runtime.deploymentId n
          (w₁.reportedBusy \ w₁.allocator.allocatedDevices)) := .inr rfl
    have hown := host_tenancy hworks htenanted hlocal hstep.2
    have hafter := (htenanted.step hlocal hstep.2).2.2
    have hroom : World.isOk r = true ↔
        RoomFor g runtime.deploymentId busy n := by
      obtain ⟨⟨hothers, hbusy⟩, -⟩ := hstep.1
      obtain ⟨a, -, heq⟩ := hstep.2.2
      simp only [World.answer, World.perform, Prod.mk.injEq] at heq
      rw [← heq.1, GpuAllocator.allocate_isOk, length_usable,
        free_sdiff_foreign, hbusy rfl, hothers.freeDevices hheld, RoomFor]
    rcases hown with ⟨hn, rfl, hsame⟩ | ⟨message, rfl, -⟩ |
        ⟨-, devices, rfl, hlength, hsame⟩
    · refine .inl ⟨[], rfl, hroom.mp rfl, ?_, hafter, ?_⟩
      · simp [Int.toNat_of_nonpos hn]
      · rw [hsame]
        exact ⟨hheld, halone⟩
    · refine .inr ⟨message, rfl, fun h => ?_, hafter, trivial⟩
      cases hroom.mpr h
    · refine .inl ⟨devices, rfl, hroom.mp rfl, hlength, hafter, ?_⟩
      rw [hsame]
      exact ⟨rfl, halone⟩
  refine Completes.bind hallocate ?_
  rintro _ w₂ (⟨devices, rfl, hfound⟩ | ⟨message, rfl, hroom, h₂⟩)
  · exact completes_pure hfound
  · dsimp only [isGpuAllocationError, if_true]
    refine Completes.bind (completes_tenancy (fun own _ => failRuntime_local
      (.of_none rfl hcontainer) _) h₂ fun v _ =>
        failRuntime_turned _ hroom v) fun _ w₃ h₃ => ?_
    exact completes_pure h₃.1

/-- How many GPUs a workload of a container backend asks for. -/
def askedGpus (workload : WorkloadSpec) : Int :=
  match workload.kind with
  | .pod => podGpuCount workload
  | _ => requestedGpus workload

/-- A container backend starts the workload when every call succeeds. -/
def Startable (s : Settings) (workload : WorkloadSpec)
    (multiNode : Option MultiNodeDict) : Prop :=
  match workload.kind with
  | .pod => s.podBackend = .process ∧ truthy (podImage workload) = true ∧
      ∃ sizeGb, volumeSizeGb workload = .ok sizeGb
  | .inference => s.inferenceBackend = .docker ∧
      1 ≤ requestedGpus workload ∧
      workload.metadata.artifactUri ≠ some "" ∧
      workload.metadata.artifactDigest ≠ some "" ∧
      ((parseMultiNodeParams multiNode).map validateParams).getD [] = []
  | _ => False

/-- The name of the container in which a workload of the kind runs. -/
def containerNameFor (kind : WorkloadKind) (deploymentId : String) : String :=
  match kind with
  | .pod => podContainerName deploymentId
  | _ => DockerInferenceBackend.containerName deploymentId

theorem startPodRuntime_turned (hid : runtime.deploymentId = d)
    (hcontainer : runtime.containerId = none)
    (hkind : runtime.workloadKind = .pod) (hpod : workload.kind = .pod)
    {multiNode : Option MultiNodeDict} (hstart : Startable s workload multiNode)
    (h : Tenants s d (Vacant (podContainerName d)) w) :
    Completes (turnHost d g busy leases knows)
      (startPodRuntime s runtime workload)
      (fun _ w' => Tenants s d (Turned s
        (RoomFor g d busy (askedGpus workload))) w') w := by
  subst hid
  have hasked : askedGpus workload = podGpuCount workload := by
    simp only [askedGpus, hpod]
  simp only [Startable, hpod] at hstart
  obtain ⟨hbackend, himage, sizeGb, hsize⟩ := hstart
  simp only [hasked]
  unfold startPodRuntime
  refine Completes.bind (completes_quietly (fun own => (setUpSsh_within
    local_probe s).weaken fun _ _ => trivial) h
    fun v => Tenancy.setUpSsh_quietly).attempt ?_
  rintro _ w₁ ⟨⟨sshPort, privateKey, publicKey⟩, rfl, h₁, -⟩
  refine Completes.bind (completes_quietly (fun own => (assignPorts_within
    local_probe s _ _).weaken fun _ _ => trivial) h₁
    fun v => Tenancy.assignPorts_quietly _ _) ?_
  rintro ports w₂ ⟨h₂, -⟩
  refine Completes.bind (allocateOrFail_found _ rfl hcontainer h₂) ?_
  rintro (_ | devices) w₃ hfound
  · exact completes_pure hfound
  · obtain ⟨hroom, hlength, h₃⟩ := hfound
    simp only [hsize]
    have hcreate : ∀ v, Tenancy.Quietly s
        (createVolume (volumeFor s runtime sizeGb)) (fun _ => True) v :=
      fun v => Tenancy.quietly_perform (fun r hr =>
        (ok_of_isOk hr).imp fun _ heq => ⟨heq, trivial⟩) fun _ _ h => h
    have hstore : ∀ v, Tenancy.Quietly s
        (storeVolumeRecord (volumeFor s runtime sizeGb)) (fun _ => True) v :=
      fun v => Tenancy.quietly_perform (fun r hr =>
        (ok_of_isOk hr).imp fun _ heq => ⟨heq, trivial⟩) fun _ _ h => h
    refine Completes.bind (completes_quietly
      (fun own => perform_local (e := .createVolume _) (.inl rfl))
      h₃ hcreate).attempt ?_
    rintro _ w₄ ⟨_, rfl, h₄, -⟩
    refine Completes.bind (completes_quietly
      (fun own => perform_local (e := .storeVolumeRecord _) (.inl rfl))
      h₄ hstore) ?_
    rintro _ w₅ ⟨h₅, -⟩
    refine (completes_tenancy (fun own _ => launchPod_local hkind
      (.of_none rfl hcontainer) _ _) h₅ fun v hv =>
        Tenancy.launchPod_serves hbackend himage hv.2 hv.1 ?_).weaken ?_
    · rintro (rfl : devices = [])
      rw [List.length_nil] at hlength
      show podGpuCount workload ≤ 0
      omega
    · rintro _ w₆ ⟨h₆, -⟩
      exact ⟨h₆.1, turned_of_served h₆.2 hroom⟩

theorem stageFor_quietly (huri : workload.metadata.artifactUri ≠ some "")
    (hdigest : workload.metadata.artifactDigest ≠ some "") (v : Tenancy) :
    Tenancy.Quietly s (stageFor runtime workload) (fun artifact =>
      artifact.multiNode = runtime.metadata.multiNode) v := by
  have hnonempty : ∀ (text : Option String) (first rest : String),
      text ≠ some "" → first ≠ "" → text.getD (first ++ rest) ≠ "" := by
    intro text first rest htext hfirst heq
    cases text with
    | none => exact hfirst (by simpa using (String.append_eq_empty_iff.mp heq).1)
    | some text => exact htext (congrArg some heq)
  unfold stageFor StagedArtifactStore.stageArtifact
  rw [if_neg (hnonempty _ _ _ huri (by decide)),
    if_neg (hnonempty _ _ _ hdigest (by decide))]
  refine Tenancy.Quietly.bind (Q := fun _ => True)
    (Tenancy.quietly_perform (fun r hr => (ok_of_isOk hr).imp
      fun _ heq => ⟨heq, trivial⟩) fun _ _ h => h) fun path _ => ?_
  exact Tenancy.quietly_pure rfl

theorem startInferenceRuntime_turned (hid : runtime.deploymentId = d)
    (hcontainer : runtime.containerId = none)
    (hkind : runtime.workloadKind = .inference)
    (hinference : workload.kind = .inference)
    (hstart : Startable s workload runtime.metadata.multiNode)
    (h : Tenants s d (Vacant (DockerInferenceBackend.containerName d)) w) :
    Completes (turnHost d g busy leases knows)
      (startInferenceRuntime s runtime workload)
      (fun _ w' => Tenants s d (Turned s
        (RoomFor g d busy (askedGpus workload))) w') w := by
  subst hid
  have hasked : askedGpus workload = requestedGpus workload := by
    simp only [askedGpus, hinference]
  simp only [Startable, hinference] at hstart
  obtain ⟨hbackend, hfloor, huri, hdigest, hvalid⟩ := hstart
  simp only [hasked]
  unfold startInferenceRuntime
  refine Completes.bind (allocateOrFail_found _ rfl hcontainer h) ?_
  rintro (_ | devices) w₁ hfound
  · exact completes_pure hfound
  · obtain ⟨hroom, hlength, h₁⟩ := hfound
    dsimp only
    generalize hallocated : ({ withGpus runtime devices (requestedGpus workload)
      with gpuFraction := requestedGpus workload } : UnifiedRuntimeRecord) =
        allocated
    have hkept : allocated.deploymentId = runtime.deploymentId ∧
        allocated.containerId = none ∧ allocated.workloadKind = .inference ∧
        originalDevices allocated = devices ∧
        allocated.metadata.multiNode = runtime.metadata.multiNode := by
      subst hallocated
      exact ⟨rfl, hcontainer, hkind, rfl, rfl⟩
    obtain ⟨hid, hcontainer, hkind, hdevices, hmulti⟩ := hkept
    have hnonempty : originalDevices allocated ≠ [] := by
      rw [hdevices]
      rintro rfl
      rw [List.length_nil] at hlength
      omega
    refine Completes.bind (completes_quietly (fun own => Within.local
      (Within.files (stageFor_files hid workload))) h₁
      fun v => stageFor_quietly huri hdigest v).attempt ?_
    rintro _ w₂ ⟨artifact, rfl, h₂, hartifact⟩
    rw [hmulti] at hartifact
    refine (completes_tenancy (fun own _ => launchInference_local hkind
      (.of_none hid hcontainer) _ _) h₂ fun v hv =>
        Tenancy.launchInference_serves hbackend (hartifact ▸ hvalid)
          (hid ▸ hv.2) (hdevices ▸ hv.1) hnonempty).weaken ?_
    rintro _ w₃ ⟨h₃, -⟩
    exact ⟨h₃.1, turned_of_served h₃.2 hroom⟩

theorem startLease_turned {lease : LeaseAssignment}
    (hid : lease.deploymentId = d)
    (hknows : knows lease.workloadId = some workload)
    (hstart : Startable s workload lease.multiNode)
    (h : Tenants s d (Vacant (containerNameFor workload.kind d)) w) :
    Completes (turnHost d g busy leases knows) (startLease s lease)
      (fun _ w' => Tenants s d (Turned s
        (RoomFor g d busy (askedGpus workload))) w') w := by
  have hget : Completes (turnHost d g busy leases knows)
      (getWorkload lease.workloadId) (fun found w' => found = some workload ∧
        Tenants s d (Vacant (containerNameFor workload.kind d)) w') w := by
    refine completes_perform fun r w₁ hstep => ?_
    have hafter := tenants_undisturbed turnHost_refines _ rfl _ _ _ h hstep
    have hanswer : r = .ok (knows lease.workloadId) := hstep.2.1.2.1
    exact ⟨_, hanswer, hknows, hafter⟩
  unfold startLease
  have hdispatch : Completes (turnHost d g busy leases knows)
      (reconcileWorkload s lease)
      (fun _ w' => Tenants s d (Turned s
        (RoomFor g d busy (askedGpus workload))) w') w := by
    unfold reconcileWorkload
    refine Completes.bind hget ?_
    rintro _ w₁ ⟨rfl, h₁⟩
    dsimp only
    generalize haccepted : ({ acceptedRuntime lease workload with
      gpuFraction := s.defaultGpuFraction } : UnifiedRuntimeRecord) = accepted
    have hkept : accepted.deploymentId = d ∧ accepted.containerId = none ∧
        accepted.workloadKind = workload.kind ∧
        accepted.metadata.multiNode = lease.multiNode := by
      subst haccepted
      exact ⟨hid, rfl, rfl, rfl⟩
    obtain ⟨hid, hcontainer, hkind, hmulti⟩ := hkept
    have hwrite : ∀ v, Vacant (containerNameFor workload.kind d) v →
        Completes (Tenancy.smooth s) (upsertRuntime accepted) (fun _ v' =>
          Vacant (containerNameFor workload.kind d) v') v := by
      refine fun v hv => (Tenancy.upsert_completes accepted).weaken ?_
      rintro _ v' ⟨-, hheld, hcontainers⟩
      exact ⟨hheld.trans hv.1, fun c hc => hv.2 c (hcontainers ▸ hc)⟩
    refine Completes.bind (completes_tenancy (fun own _ => perform_local
      (.inr (.of_none hid hcontainer))) h₁ hwrite) ?_
    rintro _ w₂ ⟨h₂, -⟩
    unfold dispatch
    cases hworkload : workload.kind with
    | inference =>
        rw [hworkload] at h₂ hkind
        exact startInferenceRuntime_turned hid hcontainer hkind hworkload
          (hmulti ▸ hstart) h₂
    | pod =>
        rw [hworkload] at h₂ hkind
        exact startPodRuntime_turned hid hcontainer hkind hworkload hstart h₂
    | vm => simp [Startable, hworkload] at hstart
    | other name => simp [Startable, hworkload] at hstart
  refine Completes.bind hdispatch.attempt ?_
  rintro _ w₁ ⟨_, rfl, h₁⟩
  exact completes_pure h₁

/-! ## Retrying -/

theorem terminateRuntime_vacates {name : String} {v : Tenancy}
    (hid : runtime.deploymentId = d)
    (hknown : ∀ c ∈ v.containers, c.running = true →
      c.name = name ∨ Tenancy.Stops s runtime c) :
    Completes (Tenancy.smooth s) (terminateRuntime s runtime false)
      (fun _ v' => Vacant name v') v := by
  have hobeys : Tenancy.Obeys s succeeds (Tenancy.smooth s) :=
    fun _ _ _ _ h => h
  have hrelease : Completes (Tenancy.smooth s) (release runtime.deploymentId)
      (fun _ v' => v' = { v with held := ∅ }) v := by
    refine completes_perform ?_
    rintro r v' ⟨hr, -, rfl⟩
    obtain ⟨a, rfl⟩ := ok_of_isOk hr
    exact ⟨a, rfl, rfl⟩
  unfold terminateRuntime
  refine Completes.bind hrelease ?_
  rintro _ _ rfl
  have hstop : Completes (Tenancy.smooth s)
      (ignoring (fun _ => true) (stopBackend s runtime))
      (fun _ v' => Vacant name v') { v with held := ∅ } := by
    refine sat_ignoring.mpr ((Tenancy.stopBackend_abides hobeys
      (G := fun _ => True) (fun _ _ _ _ => trivial) hid trivial).weaken ?_)
    rintro r v' ⟨hfades, hhalted⟩
    have hvacant : Vacant name v' := by
      refine ⟨hfades.held, fun c hc hrunning => ?_⟩
      obtain ⟨c', hc', hcid, hname, -, -, hran⟩ := hfades.containers c hc
      rcases hknown c' hc' (hran hrunning) with hnamed | hstops
      · exact hname.trans hnamed
      · have hstopped := hhalted c hc ⟨hstops.1, Tenancy.answersTo_of_eq
          hcid.symm hname.symm hstops.2.1, hstops.2.2⟩
        rw [hstopped] at hrunning
        cases hrunning
    cases r with
    | ok => exact ⟨(), rfl, hvacant⟩
    | error x => exact ⟨(), rfl, hvacant⟩
  refine Completes.bind hstop fun _ v₁ h₁ => ?_
  refine Completes.bind (Tenancy.upsert_completes _) ?_
  rintro _ v₂ ⟨-, hheld, hcontainers⟩
  exact completes_pure ⟨hheld.trans h₁.1, fun c hc => h₁.2 c (hcontainers ▸ hc)⟩

/-- As before: the same record, devices and containers. -/
structure Alike (v₀ v : Tenancy) : Prop where
  record : v.record = v₀.record
  held : v.held = v₀.held
  containers : v.containers = v₀.containers

/-- The control plane's lease for `d` was not acted on to the end. -/
def Unfinished (v : Tenancy) : Prop :=
  ∀ runtime, v.record = some runtime →
    runtime.status = .accepted ∨ runtime.status = .starting

/-- What runs has the name of the next start, or is what the record names. -/
def Known (s : Settings) (name : String) (v : Tenancy) : Prop :=
  ∀ c ∈ v.containers, c.running = true → c.name = name ∨
    ∃ runtime, v.record = some runtime ∧ Tenancy.Stops s runtime c

theorem alike_private (v₀ : Tenancy) : Private (Alike v₀) :=
  fun _ _ hrecord hheld hcontainers h => ⟨hrecord.trans h.record,
    hheld.trans h.held, hcontainers.trans h.containers⟩

theorem turned_private (served : Prop) : Private (Turned s served) := by
  intro v v' hrecord hheld hcontainers h
  unfold Turned Decided Tenancy.Served at h ⊢
  rwa [hrecord, hheld, hcontainers]

theorem Alike.served {v₀ v : Tenancy} (h : Alike v₀ v) :
    v.Served s ↔ v₀.Served s := by
  unfold Tenancy.Served
  rw [h.record, h.held, h.containers]

theorem not_served_of_unfinished {v : Tenancy} (h : Unfinished v) :
    ¬v.Served s := by
  rintro ⟨⟨runtime, hrecord, hready⟩, -⟩
  rcases h runtime hrecord with hstatus | hstatus <;>
    · rw [hready] at hstatus
      cases hstatus

theorem terminateRuntime_vacated {v₀ : Tenancy}
    {existing : UnifiedRuntimeRecord} (hrecord : v₀.record = some existing)
    (hknown : Known s (containerNameFor workload.kind d) v₀)
    (h : Tenants s d (Alike v₀) w) :
    Completes (turnHost d g busy leases knows)
      (terminateRuntime s existing false) (fun _ => Tenants s d
        (Vacant (containerNameFor workload.kind d))) w := by
  obtain ⟨htenanted, halike⟩ := h
  have hbelongs := htenanted.belonging d existing
    (halike.record.trans hrecord)
  have hstopped : ∀ v, Alike v₀ v → Completes (Tenancy.smooth s)
      (terminateRuntime s existing false) (fun _ v' =>
        Vacant (containerNameFor workload.kind d) v') v := by
    refine fun v hv => terminateRuntime_vacates hbelongs.1 ?_
    intro c hc hrunning
    refine (hknown c (hv.containers ▸ hc) hrunning).imp_right ?_
    rintro ⟨runtime, heq, hstops⟩
    rw [hrecord] at heq
    cases heq
    exact hstops
  exact (completes_tenancy (fun own hle =>
    terminateRuntime_local (hbelongs.grow hle) false) ⟨htenanted, halike⟩
    hstopped).weaken fun _ _ h => h.1

theorem removeRuntime_vacant {name : String} {id : String} (hid : id = d)
    (h : Tenants s d (Vacant name) w) :
    Completes (turnHost d g busy leases knows) (removeRuntime id)
      (fun _ => Tenants s d (Vacant name)) w := by
  have hremoved : ∀ v, Vacant name v → Completes (Tenancy.smooth s)
      (removeRuntime id) (fun _ v' => Vacant name v') v := by
    refine fun v hv => completes_perform ?_
    rintro r v' ⟨hr, -, rfl⟩
    obtain ⟨a, rfl⟩ := ok_of_isOk hr
    exact ⟨a, rfl, hv⟩
  exact (completes_tenancy (fun own _ =>
    perform_local (e := .removeRuntime _) (.inr hid)) h hremoved).weaken
      fun _ _ h => h.1

theorem startLease_unfinished {lease : LeaseAssignment} {v₀ : Tenancy}
    (hid : lease.deploymentId = d)
    (hknows : knows lease.workloadId = some workload)
    (hstart : Startable s workload lease.multiNode)
    (hunfinished : Unfinished v₀)
    (h : Tenants s d (Vacant (containerNameFor workload.kind d)) w) :
    Completes (turnHost d g busy leases knows) (startLease s lease)
      (fun _ w' => Tenants s d
        (Turned s (Unfinished v₀ ∧
          RoomFor g d busy (askedGpus workload) ∨ v₀.Served s)) w') w := by
  have hsame : (Unfinished v₀ ∧ RoomFor g d busy (askedGpus workload) ∨
      v₀.Served s) ↔ RoomFor g d busy (askedGpus workload) := by
    simp [hunfinished, not_served_of_unfinished hunfinished]
  simpa only [Turned, hsame] using startLease_turned hid hknows hstart h

theorem retry_turned {lease : LeaseAssignment} {v₀ : Tenancy}
    {existing : UnifiedRuntimeRecord} (hid : lease.deploymentId = d)
    (hknows : knows lease.workloadId = some workload)
    (hstart : Startable s workload lease.multiNode)
    (hrecord : v₀.record = some existing) (hunfinished : Unfinished v₀)
    (hknown : Known s (containerNameFor workload.kind d) v₀)
    (h : Tenants s d (Alike v₀) w) :
    Completes (turnHost d g busy leases knows) (do
      terminateRuntime s existing false
      removeRuntime lease.deploymentId
      startLease s lease) (fun _ w' => Tenants s d
        (Turned s (Unfinished v₀ ∧
          RoomFor g d busy (askedGpus workload) ∨ v₀.Served s)) w') w := by
  refine Completes.bind (terminateRuntime_vacated hrecord hknown h) ?_
  intro _ w₁ h₁
  refine Completes.bind (removeRuntime_vacant hid h₁) ?_
  intro _ w₂ h₂
  exact startLease_unfinished hid hknows hstart hunfinished h₂

theorem handleLease_turned {lease : LeaseAssignment} {v₀ : Tenancy}
    (hid : lease.deploymentId = d) (hactive : isSuspendedLease lease = false)
    (hknows : knows lease.workloadId = some workload)
    (hstart : Startable s workload lease.multiNode)
    (hgone : v₀.record = none → v₀.held = ∅)
    (hstatus : ∀ runtime, v₀.record = some runtime →
      runtime.status ≠ .suspended)
    (hknown : Known s (containerNameFor workload.kind d) v₀)
    (h : Tenants s d (Alike v₀) w) :
    Completes (turnHost d g busy leases knows) (handleLease s lease)
      (fun _ w' => Tenants s d
        (Turned s (Unfinished v₀ ∧
          RoomFor g d busy (askedGpus workload) ∨ v₀.Served s)) w') w := by
  have hget : ∀ v, Alike v₀ v → Completes (Tenancy.smooth s)
      (getRuntime lease.deploymentId) (fun found v' => Alike v₀ v' ∧
        found = v₀.record) v := by
    refine fun v hv => completes_perform ?_
    rintro r v' ⟨-, -, rfl, rfl⟩
    exact ⟨_, rfl, hv, hv.record⟩
  unfold handleLease
  refine Completes.bind (completes_tenancy (fun own _ =>
    (getRuntime_local _ hid).weaken fun _ _ => trivial) h hget) ?_
  rintro _ w₁ ⟨⟨htenanted, halike, rfl⟩, -⟩
  cases hrecord : v₀.record with
  | none =>
      simp only [hactive]
      have hnone : Unfinished v₀ := by
        intro runtime heq
        rw [hrecord] at heq
        cases heq
      refine startLease_unfinished hid hknows hstart hnone
        ⟨htenanted, ?_, fun c hc hrunning => ?_⟩
      · exact halike.held.trans (hgone hrecord)
      · rcases hknown c (halike.containers ▸ hc) hrunning with
          hname | ⟨runtime, heq, -⟩
        · exact hname
        · rw [hrecord] at heq
          cases heq
  | some existing =>
      simp only [hactive]
      have hleft : existing.status ≠ .accepted → existing.status ≠ .starting →
          Tenants s d (Turned s (Unfinished v₀ ∧
          RoomFor g d busy (askedGpus workload) ∨ v₀.Served s)) w₁ := by
        intro haccepted hstarting
        have hfinished : ¬Unfinished v₀ := fun hunfinished =>
          (hunfinished existing hrecord).elim haccepted hstarting
        refine ⟨htenanted, ⟨existing, halike.record.trans hrecord, haccepted,
          hstarting, hstatus existing hrecord⟩, ?_⟩
        simp [hfinished, halike.served]
      have hunfinished : existing.status = .accepted ∨
          existing.status = .starting → Unfinished v₀ := by
        intro hstuck runtime heq
        rw [hrecord] at heq
        cases heq
        exact hstuck
      cases hexisting : existing.status with
      | accepted =>
          exact retry_turned hid hknows hstart hrecord
            (hunfinished (.inl hexisting)) hknown ⟨htenanted, halike⟩
      | starting =>
          exact retry_turned hid hknows hstart hrecord
            (hunfinished (.inr hexisting)) hknown ⟨htenanted, halike⟩
      | suspended => exact absurd hexisting (hstatus existing hrecord)
      | _ => exact completes_pure (hleft (by simp [hexisting])
          (by simp [hexisting]))

theorem handleLease_again {lease : LeaseAssignment} {served : Prop}
    (hid : lease.deploymentId = d) (hactive : isSuspendedLease lease = false)
    (h : Tenants s d (Turned s served) w) :
    Completes (turnHost d g busy leases knows) (handleLease s lease)
      (fun _ w' => Tenants s d (Turned s served) w') w := by
  have hget : ∀ v, Turned s served v → Completes (Tenancy.smooth s)
      (getRuntime lease.deploymentId) (fun found v' => Turned s served v' ∧
        found = v'.record) v := by
    refine fun v hv => completes_perform ?_
    rintro r v' ⟨-, -, rfl, rfl⟩
    exact ⟨_, rfl, hv, rfl⟩
  unfold handleLease
  refine Completes.bind (completes_tenancy (fun own _ =>
    (getRuntime_local _ hid).weaken fun _ _ => trivial) h hget) ?_
  rintro _ w₁ ⟨⟨htenanted, hturned, rfl⟩, -⟩
  obtain ⟨runtime, hrecord, haccepted, hstarting, hsuspended⟩ := hturned.1
  simp only [hrecord, hactive]
  cases hstatus : runtime.status with
  | accepted => exact absurd hstatus haccepted
  | starting => exact absurd hstatus hstarting
  | suspended => exact absurd hstatus hsuspended
  | _ => exact completes_pure ⟨htenanted, hturned⟩

end Own

/-! ## The pass -/

/-- This node's leases before the first one for `d`. -/
def earlierLeases (s : Settings) (d : String) (leases : List LeaseAssignment) :
    List LeaseAssignment :=
  (leases.filter (isMine s)).takeWhile fun lease => lease.deploymentId ≠ d

/-- The handling of the lease leaves everything as it is. -/
def PassedBy (runtimes : RuntimeTable) (lease : LeaseAssignment) : Prop :=
  match runtimes.get? lease.deploymentId with
  | none => isSuspendedLease lease = true
  | some runtime =>
      if isSuspendedLease lease then
        runtime.status ≠ .ready ∧ runtime.status ≠ .starting
      else runtime.status ≠ .suspended ∧ runtime.status ≠ .accepted ∧
        runtime.status ≠ .starting

/--
In this pass the turn of `d` comes in the state `turn`: the next call is the
first one for it.
-/
def ComesUp (M : Machine Effect Effect.Ret Exn World) (s : Settings)
    (hotkey d : String) (w turn w' : World) : Prop :=
  ∃ next, Reaches M (reconcileOnce s hotkey) w (.call (.getRuntime d) next)
      turn ∧
    Exec M (.call (.getRuntime d) next) turn (.ok ()) w' ∧
    Logged w turn fun event => event.call.owner ≠ some d

def passFrom (s : Settings) (allLeases leases : List LeaseAssignment) :
    Agent Unit := do
  forEach (handleLease s) leases
  let runtimes ← snapshotRuntimeItems
  forEach (cleanUp s (activeIds s allLeases)
    (allLeases.map (·.deploymentId))) runtimes

def passEnd (result : Except Exn Unit) : Agent Unit := do
  releaseReconcileLock
  match result with
  | .ok a => pure a
  | .error x => raise x

section Pass

variable {M : Machine Effect Effect.Ret Exn World} {hotkey : String}

structure PassStates (M : Machine Effect Effect.Ret Exn World) (s : Settings)
    (hotkey : String) (leases first : List LeaseAssignment)
    (lease : LeaseAssignment) (rest : List LeaseAssignment)
    (w locked listed turn handled looped seen cleaned w' : World) : Prop where
  acquire : M.Step w .acquireReconcileLock (.ok true) locked
  list : M.Step locked (.listLeases hotkey) (.ok leases) listed
  before : Exec M (forEach (handleLease s) first) listed (.ok ()) turn
  handle : Exec M (handleLease s lease) turn (.ok ()) handled
  after : Exec M (forEach (handleLease s) rest) handled (.ok ()) looped
  snapshot : M.Step looped .snapshotRuntimeItems
    (.ok looped.runtimes.snapshot) seen
  clean : Exec M (forEach (cleanUp s (activeIds s leases)
    (leases.map (·.deploymentId))) looped.runtimes.snapshot) seen (.ok ())
    cleaned
  release : M.Step cleaned .releaseReconcileLock (.ok ()) w'

theorem reaches_locked {locked : World}
    (h : M.Step w .acquireReconcileLock (.ok true) locked) :
    Reaches M (reconcileOnce s hotkey) w
      ((attempt (reconcileOnceLocked s hotkey)).bind passEnd) locked := by
  have hsame : ∀ ending : Except Exn Unit → Agent Unit,
      (∀ r, ending r = passEnd r) →
      Reaches M ((attempt (reconcileOnceLocked s hotkey)).bind ending) locked
        ((attempt (reconcileOnceLocked s hotkey)).bind passEnd) locked := by
    intro ending hending
    rw [funext hending]
    exact .refl _ _
  refine .step h ?_
  show Reaches M ((attempt (reconcileOnceLocked s hotkey)).bind
    fun result => _) locked _ locked
  exact hsame _ fun r => by cases r <;> rfl

theorem exec_reconcileOnce (hM : Refines M) (hlock : w.reconcileLock = false)
    (hlist : ∀ w r w', M.Step w (.listLeases hotkey) r w' → r = .ok leases)
    {first rest : List LeaseAssignment} {lease : LeaseAssignment}
    (hleases : leases.filter (isMine s) = first ++ lease :: rest)
    (h : Exec M (reconcileOnce s hotkey) w (.ok ()) w') :
    ∃ locked listed turn handled looped seen cleaned,
      PassStates M s hotkey leases first lease rest w locked listed turn handled
        looped seen cleaned w' ∧
      ∃ next, Reaches M (reconcileOnce s hotkey) w
          (.call (.getRuntime lease.deploymentId) next) turn ∧
        Exec M (.call (.getRuntime lease.deploymentId) next) turn (.ok ())
          w' := by
  obtain ⟨granted, locked, hacquire, h⟩ := Exec.split h
  have hacquire := hacquire.performed
  obtain rfl : granted = true := by
    obtain ⟨a, -, ha, -⟩ := hM.performed hacquire
    simpa [World.perform, hlock] using ha
  obtain ⟨result, cleaned, hpass, h⟩ := Exec.split h
  obtain ⟨_, released, hrelease, h⟩ := Exec.split h
  have hrelease := hrelease.performed
  cases result with
  | error x => cases h
  | ok _ =>
      cases h
      have hpass := hpass.attempted
      obtain ⟨found, listed, hsync, hpass⟩ := Exec.split hpass
      obtain ⟨answer, _, hanswer, hsync⟩ := Exec.split hsync
      have hlisted := Exec.performed (Exec.attempted hanswer)
      obtain rfl := hlist _ _ _ hlisted
      cases hsync
      obtain ⟨_, looped, hloop, hpass⟩ := Exec.split hpass
      obtain ⟨_, seen, hsnapshot, hclean⟩ := Exec.split hpass
      have hsnapshot := hsnapshot.performed
      obtain ⟨a, -, ha, -⟩ := hM.performed hsnapshot
      cases ha
      have hturns := hloop
      rw [hleases, forEach_append] at hturns
      obtain ⟨_, turn, hbefore, hsecond⟩ := Exec.split hturns
      obtain ⟨_, handled, hhandle, hafter⟩ := Exec.split hsecond
      have hturn : Reaches M (passFrom s leases (leases.filter (isMine s)))
          listed (passFrom s leases (lease :: rest)) turn := by
        rw [passFrom, hleases, forEach_append]
        exact (hbefore.bind _).bind _
      have hrest : Exec M (passFrom s leases (lease :: rest)) turn (.ok ())
          cleaned :=
        (hsecond.bind _).trans (.step hsnapshot hclean)
      have hheard : Reaches M (reconcileOnceLocked s hotkey) locked
          (passFrom s leases (leases.filter (isMine s))) listed :=
        .step hlisted (.refl _ _)
      have hend : Exec M ((attempt (passFrom s leases (lease :: rest))).bind
          passEnd) turn (.ok ()) w' :=
        (hrest.attempt.bind passEnd).trans (.step hrelease (.refl _ _))
      exact ⟨locked, listed, turn, handled, looped, seen, cleaned,
        ⟨hacquire, hlisted, hbefore, hhandle, hafter, hsnapshot, hclean,
          hrelease⟩, _, (reaches_locked hacquire).trans
            ((hheard.trans hturn).attempt.bind passEnd), hend⟩

theorem handleLease_others {lease : LeaseAssignment}
    (hid : lease.deploymentId = d) (h : Tenanted s w) :
    Sat (unhinderedHost d busy leases knows)
      (fun w' _ => SameOthers d w.allocator w'.allocator) (handleLease s lease)
      (fun _ _ => True) w := by
  refine ((sat_tenant unhinderedHost_refines (fun _ _ => handleLease_local hid)
    h).keeping (I := fun w' => SameOthers d w.allocator w'.allocator) ?_
    ⟨rfl, fun _ _ => rfl⟩).weaken fun _ _ _ => trivial
  intro w₁ e r w₂ h₁ hcall hstep
  refine ⟨(host_totalGpus hstep.2).trans h₁.1, fun b hb => ?_⟩
  exact (host_fades hcall.2 hb hstep.2).held.trans (h₁.2 b hb)

theorem sat_turn {lease : LeaseAssignment} (hid : lease.deploymentId = d)
    (htenanted : Tenanted s w) {post : Except Exn Unit → World → Prop}
    (h : Sat (turnHost d w.allocator busy leases knows) (fun _ _ => True)
      (handleLease s lease) post w) :
    Sat (unhinderedHost d busy leases knows) (fun _ _ => True)
      (handleLease s lease) post w := by
  refine ((handleLease_others hid htenanted).simulate (R := Eq) ?_ rfl h).mono
    (fun _ _ _ => trivial) ?_
  · rintro w₁ _ e r w₂ rfl hothers hstep
    exact ⟨w₂, ⟨⟨⟨hothers, hstep.1.1⟩, hstep.1.2⟩, hstep.2⟩, rfl⟩
  · rintro r w₁ ⟨_, rfl, hpost⟩
    exact hpost

theorem earlier_logged (hM : Refines M) {first : List LeaseAssignment}
    (hfirst : ∀ lease ∈ first, lease.deploymentId ≠ d) (h : Tenanted s w)
    {r : Except Exn Unit} {turn : World}
    (hexec : Exec M (forEach (handleLease s) first) w r turn) :
    Logged w turn fun event => event.call.owner ≠ some d := by
  have hloop : Sat M (fun _ _ => True) (forEach (handleLease s) first)
      (fun _ w' => Tenanted s w' ∧
        Logged w w' fun event => event.call.owner ≠ some d) w := by
    refine sat_forEach ?_ ⟨h, .refl _ _⟩
    rintro lease hmem w₁ ⟨htenanted, hlogged⟩
    have htenant := sat_tenant (p := handleLease s lease) hM
      (fun _ _ => handleLease_local rfl) htenanted
    refine (Sat.logged (c := fun event => event.call.owner ≠ some d) hM htenant
      ?_).mono (fun _ _ _ => trivial)
      fun r w₂ h₂ => ⟨h₂.1.1, hlogged.trans h₂.2⟩
    intro w₂ e r w₃ hcall _ howner
    exact hfirst lease hmem (hcall.2.owner_eq howner).symm
  exact (hloop.exec hexec).2

theorem begun_of_steps (hM : Refines M) {locked listed : World}
    {granted : Bool}
    (hacquire : M.Step w .acquireReconcileLock (.ok granted) locked)
    (hlist : M.Step locked (.listLeases hotkey) (.ok leases) listed) :
    listed.runtimes = w.runtimes ∧ listed.allocator = w.allocator ∧
      Logged w listed fun event => event.call.owner ≠ some d := by
  obtain ⟨a, -, -, rfl⟩ := hM.performed hacquire
  obtain ⟨b, -, -, rfl⟩ := hM.performed hlist
  refine ⟨rfl, rfl, _, List.append_assoc _ _ _, ?_⟩
  simp [Effect.owner]

theorem others_kept {P : Tenancy → Prop}
    (hP : Unaffected s (unhinderedHost d busy leases knows) d P)
    {first : List LeaseAssignment}
    (hfirst : ∀ lease ∈ first, lease.deploymentId ≠ d)
    (h : Tenants s d P w) :
    Sat (unhinderedHost d busy leases knows) (fun _ _ => True)
      (forEach (handleLease s) first)
      (fun r w' => r = .ok () → Tenants s d P w') w := by
  refine sat_forEach_ok (fun lease hmem w₁ h₁ => ?_) h
  exact (sat_other unhinderedHost_refines hP (hfirst lease hmem)
    (fun _ _ => handleLease_local rfl) h₁).mono (fun _ _ _ => trivial)
      fun _ _ h₂ _ => h₂.1

theorem turned_stays {served : Prop} {first rest : List LeaseAssignment}
    {lease : LeaseAssignment}
    {locked listed turn handled looped seen cleaned : World}
    (states : PassStates (unhinderedHost d busy leases knows) s hotkey leases
      first lease rest w locked listed turn handled looped seen cleaned w')
    (hactive : d ∈ activeIds s leases)
    (hagain : ∀ lease ∈ rest, lease.deploymentId = d →
      isSuspendedLease lease = false)
    (h : Tenants s d (Turned s served) handled) :
    Tenants s d (Turned s served) w' := by
  have hM : Refines (unhinderedHost d busy leases knows) :=
    unhinderedHost_refines
  have hkept : Unaffected s (unhinderedHost d busy leases knows) d
      (Turned s served) := (turned_private served).unaffected
  have hloop : Sat (unhinderedHost d busy leases knows) (fun _ _ => True)
      (forEach (handleLease s) rest)
      (fun r w' => r = .ok () → Tenants s d (Turned s served) w') handled := by
    refine sat_forEach_ok (fun other hmem w₁ h₁ => ?_) h
    by_cases hid : other.deploymentId = d
    · refine Sat.weaken (sat_turn hid h₁.1 (handleLease_again hid
        (hagain other hmem hid) h₁)) ?_
      rintro r w₂ ⟨_, -, h₂⟩ -
      exact h₂
    · exact (sat_other hM hkept hid (fun _ _ => handleLease_local rfl)
        h₁).mono (fun _ _ _ => trivial) fun _ _ h₂ _ => h₂.1
  have hlooped := hloop.exec states.after rfl
  have hseen := tenants_undisturbed hM _ rfl _ _ _ hlooped states.snapshot
  have hbelongs : ∀ runtime ∈ looped.runtimes.snapshot,
      Belongs s (Owned looped) runtime.deploymentId runtime :=
    fun runtime hmem =>
      hlooped.1.belonging _ _ (Table.mem_snapshot_iff.mp hmem)
  have hle : Owned looped ≤ Owned seen := by
    obtain ⟨a, -, -, rfl⟩ := hM.performed states.snapshot
    exact le_rfl
  have hcleaned := (cleanUp_other hM hkept hactive hbelongs seen
    ⟨hseen, hle⟩).exec states.clean rfl
  exact tenants_undisturbed hM _ rfl _ _ _ hcleaned states.release

theorem exists_first
    (h : ∃ lease ∈ leases, isMine s lease = true ∧ lease.deploymentId = d) :
    ∃ lease rest, leases.filter (isMine s) =
        earlierLeases s d leases ++ lease :: rest ∧ lease.deploymentId = d := by
  have hsplit := List.takeWhile_append_dropWhile
    (p := fun lease : LeaseAssignment => lease.deploymentId ≠ d)
    (l := leases.filter (isMine s))
  cases hdrop : (leases.filter (isMine s)).dropWhile
      fun lease => lease.deploymentId ≠ d with
  | nil =>
      obtain ⟨lease, hmem, hmine, hid⟩ := h
      have hne := List.dropWhile_eq_nil_iff.mp hdrop lease
        (List.mem_filter.mpr ⟨hmem, hmine⟩)
      simp [hid] at hne
  | cons lease rest =>
      refine ⟨lease, rest, by rw [← hsplit, hdrop]; rfl, ?_⟩
      have hhead := List.head?_dropWhile_not
        (fun lease : LeaseAssignment => lease.deploymentId ≠ d)
        (leases.filter (isMine s))
      rw [hdrop] at hhead
      simpa using hhead

theorem earlier_passed (hM : Refines M) {first : List LeaseAssignment}
    (hfirst : ∀ lease ∈ first, PassedBy w.runtimes lease) {turn : World}
    (hexec : Exec M (forEach (handleLease s) first) w (.ok ()) turn) :
    turn.allocator = w.allocator := by
  have hloop : Sat M (fun _ _ => True) (forEach (handleLease s) first)
      (fun r w' => r = .ok () →
        w'.runtimes = w.runtimes ∧ w'.allocator = w.allocator) w := by
    refine sat_forEach_ok (J := fun w' : World =>
      w'.runtimes = w.runtimes ∧ w'.allocator = w.allocator) ?_ ⟨rfl, rfl⟩
    rintro lease hmem w₁ ⟨hruntimes, hallocator⟩
    have hpassed := hfirst lease hmem
    unfold handleLease
    refine sat_step_bind hM trivial fun a _ _ => ?_
    simp only [World.perform, andThen_ok, hruntimes]
    cases hget : w.runtimes.get? lease.deploymentId with
    | none =>
        simp only [PassedBy, hget] at hpassed
        simp only [hpassed, if_true]
        exact fun _ => ⟨hruntimes, hallocator⟩
    | some runtime =>
        simp only [PassedBy, hget] at hpassed
        dsimp only
        cases hlease : isSuspendedLease lease with
        | true =>
            simp only [hlease, if_true] at hpassed ⊢
            cases hstatus : runtime.status with
            | ready => exact absurd hstatus hpassed.1
            | starting => exact absurd hstatus hpassed.2
            | _ => exact fun _ => ⟨hruntimes, hallocator⟩
        | false =>
            simp only [hlease, Bool.false_eq_true, if_false] at hpassed ⊢
            cases hstatus : runtime.status with
            | suspended => exact absurd hstatus hpassed.1
            | accepted => exact absurd hstatus hpassed.2.1
            | starting => exact absurd hstatus hpassed.2.2
            | _ => exact fun _ => ⟨hruntimes, hallocator⟩
  exact (hloop.exec hexec rfl).2

end Pass

instance (g : GpuAllocator) (d : String) (busy : Finset Nat) (n : Int) :
    Decidable (RoomFor g d busy n) :=
  inferInstanceAs (Decidable (n ≤ (g.freeWithout d \ busy).card))

/-- The GPUs that running containers were given. -/
def World.usedDevices (totalGpus : Nat) (w : World) : Finset Nat :=
  ((w.containers.filter (·.running)).map (·.devices totalGpus)).foldr
    (· ∪ ·) ∅

/-- As `podHost`, with a probe that reports the GPUs of running containers. -/
def exactHost (s : Settings) (leases : List LeaseAssignment) :
    Environment := fun w e =>
  match e with
  | .probe .busyGpuDevices => { result := .ok (w.usedDevices s.gpuCount) }
  | e => podHost leases w e

def exactly (s : Settings) (leases : List LeaseAssignment)
    (knows : String → Option WorkloadSpec) :
    Machine Effect Effect.Ret Exn World where
  Step w e r w' := (host (unhindered leases knows)).Step w e r w' ∧
    Sees (World.usedDevices s.gpuCount) w e r

def knowsPod (_ : String) : Option WorkloadSpec := some ubuntuPod

theorem exactHost_succeeds (leases : List LeaseAssignment) {e : Effect}
    (hallows : w.allows e (exactHost s leases w e) = true) :
    succeeds e (w.perform e (exactHost s leases w e)).1 := by
  cases e with
  | dockerRun command =>
      have hcreated : nextContainerId w ≠ "" ∧
          strip (nextContainerId w) = nextContainerId w := by
        simp only [World.allows, exactHost, podHost, cooperative,
          Bool.and_eq_true] at hallows
        have hid := hallows.2.1.1.1.1
        simp at hallows
        exact ⟨by simpa using hid, hallows.1.symm⟩
      exact ⟨_, rfl, rfl, hcreated.2.symm ▸ hcreated.1⟩
  | probe question =>
      cases question with
      | dockerInspect container field =>
          cases field with
          | running => exact ⟨_, rfl, rfl, by decide⟩
          | status => exact ⟨_, rfl, by decide⟩
      | rounds => exact ⟨0, rfl⟩
      | never => cases hallows
      | _ => exact rfl
  | _ => first | exact trivial | exact rfl

theorem exactHost_follows (s : Settings) (leases : List LeaseAssignment) :
    Follows (exactly s leases knowsPod) (exactHost s leases)
      fun _ _ => true := by
  intro w e _ hallows
  refine ⟨⟨⟨?_, ?_, exactHost_succeeds leases hallows⟩, _, hallows, rfl⟩, ?_⟩
  · cases e <;> first | exact trivial | exact rfl
  · cases e <;> first | exact trivial | exact rfl
  · cases e with
    | probe question => cases question <;> first | exact rfl | exact trivial
    | _ => exact trivial

/-- The agent dies between `docker run` and writing the container id. -/
def cutPod (s : Settings) : Agent Unit × World :=
  replayFor (podHost [leaseOn "pod-1"]) (fun _ _ => true) 16
    (reconcileOnce s "hotkey") (.init s)

def retriedPod (s : Settings) (checks : World → Effect → Bool) :
    Agent Unit × World :=
  replayFor (exactHost s [leaseOn "pod-1"]) checks 60
    (reconcileOnce s "hotkey") ((cutPod s).2.restart s)

def reportsLeftover (w : World) : Effect → Bool
  | .allocate _ _ _ => decide (w.reportedBusy = {0})
  | .dockerRm b _ | .dockerStop b _ => b = "pod-1"
  | _ => true

theorem exactHost_unhindered (s : Settings) (leases : List LeaseAssignment) :
    Follows (unhinderedHost "pod-1" {0} leases knowsPod) (exactHost s leases)
      reportsLeftover := by
  intro w e hchecks hallows
  refine ⟨⟨?_, ?_⟩, (exactHost_follows s leases w e rfl hallows).1⟩
  · cases e with
    | allocate b n avoid => exact fun _ => of_decide_eq_true hchecks
    | _ => exact trivial
  · cases e with
    | dockerRm b target => exact fun hb => absurd (of_decide_eq_true hchecks) hb
    | dockerStop b target =>
        exact fun hb => absurd (of_decide_eq_true hchecks) hb
    | _ => exact trivial

theorem cutPod_crashRun (s : Settings) :
    CrashRun s (host floored) ((cutPod s).2.restart s) :=
  .crash .boot (.reconcile "hotkey") (replayFor_reaches
    (cooperative_floored [leaseOn "pod-1"] (fun _ => none)
      (by decide)).follows 16 _ _)

end NodeAgent
