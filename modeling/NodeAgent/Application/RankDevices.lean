import NodeAgent.Application.Ranks
import NodeAgent.Domain.MultinodeCommand
import NodeAgent.Domain.MultinodeTopology

/-!
# The GPUs that a rank declares to Ray

What `ray start` is told is the count of the lease's dictionary.  What the
container gets are the devices that the allocator found for the workload, and
nothing compares the two.
-/

namespace NodeAgent

open Effectful Program Agent

/-- A start of the lease's runtime, or of what is suspended of it. -/
inductive StartsRank (s : Settings) (lease : LeaseAssignment) :
    Agent Unit → Prop
  | lease : StartsRank s lease (startLease s lease)
  | resume {runtime : UnifiedRuntimeRecord}
      (hkind : runtime.workloadKind = .inference)
      (hdict : runtime.metadata.multiNode = lease.multiNode)
      (hid : runtime.deploymentId = lease.deploymentId) :
      StartsRank s lease (resumeRuntime s runtime)

def Allotted (lease : LeaseAssignment) (workload : WorkloadSpec) (w₀ w : World)
    (devices : List Nat) : Prop :=
  ∃ avoid, (⟨.allocate lease.deploymentId (requestedGpus workload) avoid,
    .ok devices⟩ : Event) ∈ issued w₀ w

/--
Ray is told of as many GPUs as are passed through to the container, and these
are as many as were allocated for the workload.
-/
structure DeclaresDevices (lease : LeaseAssignment) (workload : WorkloadSpec)
    (w₀ w : World) (command : DockerRun) (launch : LaunchParams) : Prop where
  passed : (buildRayStartCommand launch).numGpus =
    (command.gpus.deviceSet w.allocator.totalGpus).card
  allotted : ∃ devices, Allotted lease workload w₀ w devices ∧
    (buildRayStartCommand launch).numGpus = devices.length

variable {s : Settings} {lease : LeaseAssignment} {workload : WorkloadSpec}
variable {w₀ w w' : World} {runtime : UnifiedRuntimeRecord}
variable {artifact : ArtifactBundle} {devices : List Nat} {α : Type}
variable {e : Effect} {r : Except Exn e.Ret} {permitted : Permitted}

/-! ## What the allocator answers -/

def Allots (event : Event) : Prop :=
  match event with
  | ⟨.allocate _ n _, .ok devices⟩ => devices.length = n.toNat ∧ devices.Nodup
  | _ => True

theorem allots_performed (w : World) (e : Effect) (a : Answer e) :
    Allots ⟨e, (w.perform e a).1⟩ := by
  cases e with
  | allocate d n avoid =>
      rcases w.allocator.allocate_cases d n avoid with
        ⟨hn, heq⟩ | ⟨-, message, heq⟩ | ⟨hn, hfree, heq⟩
      · simp only [World.perform, heq, Allots, List.length_nil,
          List.nodup_nil, and_true]
        omega
      · simp only [World.perform, heq, Allots]
      · simp only [World.perform, heq, Allots, List.length_take]
        exact ⟨by omega, ((GpuAllocator.usable_sorted _ _).nodup).take⟩
  | _ => trivial

theorem allots_issued {p q : Agent α}
    (h : Reaches (host permitted) p w₀ q w) :
    ∀ event ∈ issued w₀ w, Allots event := by
  refine Added.issued (P := fun events => ∀ event ∈ events, Allots event) ?_
  refine Reaches.invariant (I := fun w => Logged w₀ w Allots) h ?_
    (Logged.refl _ _)
  intro w₁ e r w₂ hlogged hstep
  obtain ⟨a, -, -, rfl⟩ := host_refines.answered hstep
  exact hlogged.answer a (allots_performed w₁ e a)

theorem Allotted.spec {p q : Agent α} (h : Allotted lease workload w₀ w devices)
    (hreached : Reaches (host permitted) p w₀ q w) :
    devices.length = (requestedGpus workload).toNat ∧ devices.Nodup := by
  obtain ⟨avoid, hmem⟩ := h
  exact allots_issued hreached _ hmem

/-! ## From the allocator to the container -/

structure RankOf (lease : LeaseAssignment) (workload : WorkloadSpec)
    (w₀ w : World) (command : DockerRun) (p : MultiNodeParams) : Prop where
  parsed : parseMultiNodeParams lease.multiNode = some p
  valid : validateParams p = []
  devices : ∃ devices, Allotted lease workload w₀ w devices ∧
    command.gpus = gpuDockerFlags devices

def RanksOf (lease : LeaseAssignment) (workload : WorkloadSpec) (w₀ w : World) :
    Effect → Prop
  | .dockerRun command => ∀ p, command.rank = some p →
      RankOf lease workload w₀ w command p
  | _ => True

theorem prepares_ranksOf (w : World) (e : Effect) (he : Prepares e) :
    RanksOf lease workload w₀ w e := by
  cases e with
  | dockerRun command => exact he.elim
  | _ => trivial

/-- What was allotted since the first state stays so with every call. -/
def Equipped (lease : LeaseAssignment) (workload : WorkloadSpec) (w₀ : World)
    (devices : List Nat) (w : World) : Prop :=
  Since w₀ w ∧ Allotted lease workload w₀ w devices

theorem Equipped.step (h : Equipped lease workload w₀ devices w)
    (hstep : (host permitted).Step w e r w') :
    Equipped lease workload w₀ devices w' := by
  obtain ⟨hsince, avoid, hmem⟩ := h
  refine ⟨hsince.step hstep, avoid, ?_⟩
  obtain ⟨a, -, -, rfl⟩ := host_refines.answered hstep
  rw [hsince.issued_answer]
  exact List.mem_append_left _ hmem

abbrev Equips (lease : LeaseAssignment) (workload : WorkloadSpec) (w₀ : World)
    (devices : List Nat) (q : Agent α) : Prop :=
  Keeps (host (supplies workload)) (RanksOf lease workload w₀)
    (Equipped lease workload w₀ devices) q

theorem equips_call (he : ∀ command, e ≠ .dockerRun command) :
    Equips lease workload w₀ devices (perform e) := by
  refine keeps_perform (fun w _ => ?_) fun _ _ _ h hstep => h.step hstep
  cases e with
  | dockerRun command => exact absurd rfl (he command)
  | _ => trivial

theorem equips_prepared {Q : α → Prop} {q : Agent α}
    (hq : Within (fun _ _ => True) Prepares q Q) :
    Equips lease workload w₀ devices q :=
  keeps_prepared prepares_ranksOf (fun _ _ _ _ h hstep => h.step hstep) hq

theorem equips_checks {Q : α → Prop} {q : Agent α}
    (hq : Within (fun _ _ => True) Checks q Q) :
    Equips lease workload w₀ devices q :=
  equips_prepared (Always.widen hq checks_prepares)

theorem dockerStartRuntime_equips
    (hdict : artifact.multiNode = lease.multiNode)
    (hdevices : runtime.metadata.gpuDevices = some devices) :
    Equips lease workload w₀ devices
      (DockerInferenceBackend.startRuntime s runtime artifact) := by
  unfold DockerInferenceBackend.startRuntime
  refine keeps_bind (equips_call (by simp)) fun port => ?_
  refine keeps_bind (equips_checks (removeContainer_checks _ _)) fun _ => ?_
  refine keeps_bind (equips_call (by simp)) fun _ => ?_
  dsimp only
  split
  · exact keeps_raise _
  · rename_i hvalid
    have hrun : Equips lease workload w₀ devices
        (dockerRun (DockerInferenceBackend.runCommand s runtime artifact port
          (parseMultiNodeParams artifact.multiNode))) := by
      refine keeps_perform (fun w h p hrank => ?_)
        fun _ _ _ h hstep => h.step hstep
      have hparsed : parseMultiNodeParams artifact.multiNode = some p := hrank
      refine ⟨hdict ▸ hparsed, ?_, devices, h.2, ?_⟩
      · simpa [hparsed] using hvalid
      · rw [DockerInferenceBackend.runCommand, hdevices]
        rfl
    refine keeps_bind ?_ fun result => ?_
    · unfold orNotAvailable
      refine keeps_bind (keeps_attempt hrun) fun result => ?_
      split
      · exact keeps_pure _
      · split <;> exact keeps_raise _
    · split
      · exact keeps_raise _
      · exact equips_checks (awaitStarted_checks _)

theorem launchInference_equips (hs : s.inferenceBackend = .docker)
    (hdict : artifact.multiNode = lease.multiNode)
    (hdevices : runtime.metadata.gpuDevices = some devices) :
    Equips lease workload w₀ devices
      (launchInference s runtime workload artifact) := by
  unfold launchInference
  refine keeps_bind (equips_call (by simp)) fun dir => ?_
  refine keeps_bind (equips_call (by simp)) fun _ => ?_
  simp only [InferenceBackend.startRuntime, hs]
  refine keeps_bind (keeps_attempt (dockerStartRuntime_equips hdict hdevices))
    fun result => ?_
  split
  · refine keeps_bind (equips_call (by simp)) fun _ => ?_
    exact keeps_ignoring (equips_call (by simp))
  · exact equips_prepared (failRuntime_prepares _)
  · exact keeps_raise _

theorem allocateOrFail_allots (hid : runtime.deploymentId = lease.deploymentId)
    (h : Since w₀ w) :
    Sat (host (supplies workload)) (RanksOf lease workload w₀)
      (allocateOrFail runtime (requestedGpus workload))
      (fun r w' => Since w₀ w' ∧ ∀ devices, r = .ok (some devices) →
        Equipped lease workload w₀ devices w') w := by
  unfold allocateOrFail
  refine Sat.bind (since_prepared prepares_ranksOf
    (foreignBusyDevices_within (fun _ => trivial) trivial) w h)
    (fun avoid w₁ h₁ => ?_) fun x w₁ h₁ => ⟨h₁, by simp⟩
  refine sat_step_attempt host_refines trivial fun a _ _ => ?_
  have hafter := h₁.answer
    (e := .allocate runtime.deploymentId (requestedGpus workload) avoid) a
  have hlog := h₁.issued_answer
    (e := .allocate runtime.deploymentId (requestedGpus workload) avoid) a
  cases hresult : (w₁.perform
      (.allocate runtime.deploymentId (requestedGpus workload) avoid) a).1 with
  | ok devices =>
      refine ⟨hafter, ?_⟩
      rintro other heq
      cases heq
      refine ⟨hafter, avoid, ?_⟩
      rw [hlog, hresult, hid]
      exact List.mem_append_right _ (List.mem_singleton_self _)
  | error x =>
      dsimp only
      split
      · refine Sat.bind (since_prepared prepares_ranksOf
          (failRuntime_prepares _) _ hafter) (fun _ w₂ h₂ => ?_)
          fun x w₂ h₂ => ⟨h₂, by simp⟩
        exact ⟨h₂, by simp⟩
      · exact ⟨hafter, by simp⟩

theorem startInferenceRuntime_ranksOf (hs : s.inferenceBackend = .docker) :
    Starts s lease workload (RanksOf lease workload w₀) w₀ := by
  intro runtime hdict hid w h
  unfold startInferenceRuntime
  refine Sat.bind (allocateOrFail_allots hid h) (fun allocated w₁ h₁ => ?_)
    fun x w₁ h₁ => h₁.1
  cases allocated with
  | none => exact h₁.1
  | some devices =>
      dsimp only
      generalize hpinned : ({ withGpus runtime devices (requestedGpus workload)
        with gpuFraction := requestedGpus workload } : UnifiedRuntimeRecord) =
          pinned
      have hdict' : pinned.metadata.multiNode = lease.multiNode := by
        rw [← hpinned]
        exact hdict
      have hdevices : pinned.metadata.gpuDevices = some devices := by
        rw [← hpinned]
        rfl
      refine sat_bind'.mpr (sat_attempt.mpr (((stageFor_stages).sat_keeping
        (I := Equipped lease workload w₀ devices) ?_ (h₁.2 devices rfl)).mono
        ?_ fun r w₂ h₂ => ?_))
      · exact fun _ _ _ _ h₂ _ hstep => ⟨trivial, h₂.step hstep⟩
      · rintro w₂ e ⟨-, d, uri, digest, rfl⟩
        exact trivial
      · obtain ⟨hequipped, hstaged⟩ := h₂
        rw [andThen_ok]
        split
        · rename_i artifact
          have hbundle := (hstaged artifact rfl).2.trans hdict'
          exact (launchInference_equips hs hbundle hdevices w₂
            hequipped).weaken fun _ _ h => h.1
        · exact since_prepared prepares_ranksOf (failRuntime_prepares _) w₂
            hequipped.1
        · exact hequipped.1

theorem startsRank_ranksOf {q : Agent Unit} (hs : s.inferenceBackend = .docker)
    (hkind : workload.kind = .inference) (hq : StartsRank s lease q) :
    Sat (host (supplies workload)) (RanksOf lease workload w) q
      (fun _ _ => True) w := by
  have hstarts : Starts s lease workload (RanksOf lease workload w) w :=
    startInferenceRuntime_ranksOf hs
  have hsince : Since w w := .refl w
  cases hq with
  | lease =>
      exact (hstarts.startLease prepares_ranksOf hkind w hsince).weaken
        fun _ _ _ => trivial
  | resume hinference hdict hid =>
      exact (hstarts.resumeRuntime prepares_ranksOf hinference hdict hid w
        hsince).weaken fun _ _ _ => trivial

/-! ## When the two counts agree -/

theorem deviceSet_card (hdevices : devices ≠ []) (hnodup : devices.Nodup)
    (total : Nat) :
    ((gpuDockerFlags devices).deviceSet total).card = devices.length := by
  rw [gpuDockerFlags, if_neg hdevices]
  exact List.toFinset_card_of_nodup hnodup

/--
A rank declares to Ray the devices that its container gets exactly if the
lease's `gpus_per_node` is the workload's `gpu_count`.
-/
theorem declaresDevices_iff {q : Agent Unit} {command : DockerRun}
    {next : Except Exn Completed → Agent Unit} {launch : LaunchParams}
    (hs : s.inferenceBackend = .docker) (hkind : workload.kind = .inference)
    (hq : StartsRank s lease q)
    (hreached : Reaches (host (supplies workload)) q w₀
      (.call (.dockerRun command) next) w)
    (hrank : command.rank = some launch.toMultiNodeParams) :
    parseMultiNodeParams lease.multiNode = some launch.toMultiNodeParams ∧
    (DeclaresDevices lease workload w₀ w command launch ↔
      launch.gpusPerNode = requestedGpus workload) := by
  have hof : RankOf lease workload w₀ w command launch.toMultiNodeParams :=
    ((startsRank_ranksOf hs hkind hq).reaches hreached).1 _ hrank
  obtain ⟨devices, hallotted, hgpus⟩ := hof.devices
  have hpositive := (validateParams_eq_nil_iff.mp hof.valid).gpus
  have hdeclared : (buildRayStartCommand launch).numGpus =
    launch.gpusPerNode := rfl
  refine ⟨hof.parsed, fun h => ?_, fun hagree => ?_⟩
  · obtain ⟨others, hothers, hcount⟩ := h.allotted
    have hlength := (hothers.spec hreached).1
    omega
  · obtain ⟨hlength, hnodup⟩ := hallotted.spec hreached
    have hnonempty : devices ≠ [] := by
      rintro rfl
      rw [List.length_nil] at hlength
      omega
    have hcount : (buildRayStartCommand launch).numGpus = devices.length := by
      omega
    refine ⟨?_, devices, hallotted, hcount⟩
    rw [hgpus, deviceSet_card hnonempty hnodup, hcount]

/-! ## A replica of two nodes, and a workload of four GPUs -/

def eightGpus : Settings := { gpuCount := 8 }

def fourGpuLlama : WorkloadSpec :=
  { llama with requirements := some { gpuCount := 4 } }

def replicaLease (gpusPerNode : Int) : LeaseAssignment :=
  { leaseOn "chat-1" with
    multiNode := some {
      role := some (.str "head")
      nodeCount := some (.int 2)
      gpusPerNode := some (.int gpusPerNode) } }

def beforeLaunch (_ : World) : Effect → Bool
  | .dockerRun _ => false
  | _ => true

def almostLaunched (lease : LeaseAssignment) : Agent Unit × World :=
  replayFor (cooperative [lease] (fun _ => some fourGpuLlama) fun _ => none)
    beforeLaunch 100 (startLease eightGpus lease) (.init eightGpus)

def launchesRank : Agent Unit → Bool
  | .call (.dockerRun command) _ =>
      command.rank.isSome && command.gpus = .devices [0, 1, 2, 3]
  | _ => false

theorem exists_launchParams (p : MultiNodeParams) :
    ∃ launch : LaunchParams, launch.toMultiNodeParams = p := by
  cases hhost : p.hasHeadHost with
  | false => exact ⟨⟨p, "", by simp [hhost]⟩, rfl⟩
  | true => exact ⟨⟨p, "10.0.0.1", by simp [hhost]⟩, rfl⟩

theorem almostLaunched_reaches (lease : LeaseAssignment)
    (h : launchesRank (almostLaunched lease).1 = true) :
    ∃ command next w, ∃ launch : LaunchParams,
      Reaches (host (supplies fourGpuLlama)) (startLease eightGpus lease)
        (.init eightGpus) (.call (.dockerRun command) next) w ∧
      command.rank = some launch.toMultiNodeParams ∧
      command.gpus = .devices [0, 1, 2, 3] := by
  have hreached : Reaches (host (supplies fourGpuLlama))
      (startLease eightGpus lease) (.init eightGpus)
      (almostLaunched lease).1 (almostLaunched lease).2 :=
    supplied_reaches _ _ _ _ _ _ _
  revert hreached h
  generalize (almostLaunched lease).1 = rest
  intro h hreached
  unfold launchesRank at h
  split at h
  · rename_i command next
    simp only [Bool.and_eq_true, decide_eq_true_eq] at h
    obtain ⟨p, hp⟩ := Option.isSome_iff_exists.mp h.1
    obtain ⟨launch, rfl⟩ := exists_launchParams p
    exact ⟨command, next, _, launch, hreached, hp, h.2⟩
  · simp at h

theorem declaresDevices_iff_fourGpus : ∃ command next w, ∃ launch : LaunchParams,
    Reaches (host (supplies fourGpuLlama))
      (startLease eightGpus (replicaLease 4)) (.init eightGpus)
      (.call (.dockerRun command) next) w ∧
    command.rank = some launch.toMultiNodeParams ∧
    DeclaresDevices (replicaLease 4) fourGpuLlama (.init eightGpus) w command
      launch := by
  obtain ⟨command, next, w, launch, hreached, hrank, -⟩ :=
    almostLaunched_reaches (replicaLease 4) (by decide +kernel)
  obtain ⟨hparsed, hiff⟩ :=
    declaresDevices_iff rfl rfl .lease hreached hrank
  refine ⟨command, next, w, launch, hreached, hrank, hiff.mpr ?_⟩
  have hgpus : (parseMultiNodeParams (replicaLease 4).multiNode).map
      (·.gpusPerNode) = some 4 := by decide +kernel
  rw [hparsed] at hgpus
  exact Option.some.inj hgpus

/-- Ray is told of eight GPUs, and the container sees four. -/
theorem rank_declares_twice : ∃ command next w, ∃ launch : LaunchParams,
    Reaches (host (supplies fourGpuLlama))
      (startLease eightGpus (replicaLease 8)) (.init eightGpus)
      (.call (.dockerRun command) next) w ∧
    command.rank = some launch.toMultiNodeParams ∧
    ¬DeclaresDevices (replicaLease 8) fourGpuLlama (.init eightGpus) w command
      launch := by
  obtain ⟨command, next, w, launch, hreached, hrank, hgpus⟩ :=
    almostLaunched_reaches (replicaLease 8) (by decide +kernel)
  refine ⟨command, next, w, launch, hreached, hrank, fun h => ?_⟩
  have hof : RankOf (replicaLease 8) fourGpuLlama (.init eightGpus) w command
      launch.toMultiNodeParams :=
    ((startsRank_ranksOf rfl rfl .lease).reaches hreached).1 _ hrank
  have hdeclared : (parseMultiNodeParams (replicaLease 8).multiNode).map
      (·.gpusPerNode) = some 8 := by decide +kernel
  rw [hof.parsed] at hdeclared
  have height : (buildRayStartCommand launch).numGpus = 8 :=
    Option.some.inj hdeclared
  have hfour : (GpuRequest.deviceSet w.allocator.totalGpus
      (.devices [0, 1, 2, 3])).card = 4 := rfl
  have hpassed := h.passed
  rw [hgpus, height, hfour] at hpassed
  omega

end NodeAgent
