import NodeAgent.Application.Runs

/-!
# What a pass leaves alone

Handling one deployment leaves every other deployment's books alone, and its
containers too where no two deployments address the same container.
-/

namespace NodeAgent

open Effectful Program Agent

/-- The names and the recorded id by which the agent addresses containers of `b`. -/
def Addresses (w : World) (b target : String) : Prop :=
  target = podContainerName b ∨
    target = DockerInferenceBackend.containerName b ∨
    ∃ runtime, w.runtimes.get? b = some runtime ∧
      runtime.containerId = some target

/-- The containers that a record names. -/
def ContainerOf (w : World) (runtime : UnifiedRuntimeRecord)
    (c : Container) : Prop :=
  c ∈ w.containers ∧
    ∃ id, runtime.containerId = some id ∧ c.answersTo id = true

/-- The deployments that a pass over these leases deals with. -/
def Concerns (w : World) (leased : List String) (b : String) : Prop :=
  b ∈ leased ∨ ∃ runtime, w.runtimes.get? b = some runtime

/-- No other of these deployments addresses one of the containers. -/
def Apart (w : World) (leased : List String) (d : String)
    (C : Container → Prop) : Prop :=
  ∀ b, Concerns w leased b → b ≠ d → ∀ target, Addresses w b target →
    ∀ c, C c → c.answersTo target = false

/-- A call that does not stop, remove or start one of the containers. -/
def Spares (C : Container → Prop) : Effect → Prop
  | .dockerRm _ target | .dockerStop _ target | .dockerStart _ target =>
      ∀ c, C c → c.answersTo target = false
  | _ => True

/-- As `own`: a deployment other than `d` has ids that spare the containers. -/
def Elsewhere (C : Container → Prop) (d b target : String) : Prop :=
  b ≠ d → ∀ c, C c → c.answersTo target = false

/-- While those of `D` are handled, `d` has its containers, and others theirs. -/
structure Bystander (s : Settings) (D : String → Prop) (C : Container → Prop)
    (d : String) (w : World) : Prop where
  names : ∀ b, D b → b ≠ d → ∀ c, C c →
    c.answersTo (podContainerName b) = false ∧
      c.answersTo (DockerInferenceBackend.containerName b) = false
  recorded : ∀ b runtime, w.runtimes.get? b = some runtime → D b
  present : ∀ c, C c → ∃ x ∈ w.containers, x.id = c.id ∧ x.name = c.name
  belonging : Belonging s (Elsewhere C d) w

variable {s : Settings} {permitted : Permitted} {w w' : World} {d b : String}
variable {leased : List String} {D : String → Prop} {C : Container → Prop}
variable {e : Effect} {r : Except Exn e.Ret}

theorem Apart.bystander {runtime : UnifiedRuntimeRecord}
    (h : Apart w leased d (ContainerOf w runtime)) :
    Bystander s (Concerns w leased) (ContainerOf w runtime) d w where
  names b hD hb c hc :=
    ⟨h b hD hb _ (.inl rfl) c hc, h b hD hb _ (.inr (.inl rfl)) c hc⟩
  recorded _ runtime hget := .inr ⟨runtime, hget⟩
  present c hc := ⟨c, hc.1, rfl, rfl⟩
  belonging b runtime' hget := by
    refine ⟨Table.key_of_get? hget, fun id hid _ hb c hc => ?_⟩
    exact h b (.inr ⟨runtime', hget⟩) hb id (.inr (.inr ⟨runtime', hget, hid⟩))
      c hc

theorem answersTo_congr {x c : Container} (hid : x.id = c.id)
    (hname : x.name = c.name) (target : String) :
    x.answersTo target = c.answersTo target := by
  rw [Container.answersTo, hid, hname]
  rfl

theorem Bystander.spares (h : Bystander s D C d w) (hD : D b) (hb : b ≠ d)
    (hlocal : Local s (Elsewhere C d) b e) : Spares C e := by
  have htarget : ∀ target, OwnTarget (Elsewhere C d) b target →
      ∀ c, C c → c.answersTo target = false := by
    intro target hown c hc
    rcases hown with rfl | rfl | hown
    · exact (h.names b hD hb c hc).1
    · exact (h.names b hD hb c hc).2
    · exact hown hb c hc
  cases e with
  | dockerRm owner target =>
      rcases hlocal with hcall | hcall
      · exact htarget target hcall.2
      · exact hcall.elim
  | dockerStop owner target =>
      rcases hlocal with hcall | hcall
      · exact htarget target hcall.2
      · exact hcall.elim
  | dockerStart owner target =>
      rcases hlocal with hcall | hcall
      · exact hcall.2 hb
      · exact hcall.elim
  | _ => exact trivial

theorem mem_containers_of_spares {x c : Container} (hspares : Spares C e)
    (hc : C c) (hid : x.id = c.id) (hname : x.name = c.name)
    (hx : x ∈ w.containers) (hstep : (host permitted).Step w e r w') :
    x ∈ w'.containers := by
  obtain ⟨a, -, -, rfl⟩ := host_refines.performed hstep
  cases e with
  | dockerRun command =>
      cases hcreated : a.created <;>
        simp [World.perform, World.withContainer, hcreated, hx]
  | dockerRm owner target =>
      have hx' := (answersTo_congr hid hname target).trans (hspares c hc)
      by_cases htook : a.tookEffect <;>
        simp [World.perform, World.withoutContainer, htook, hx, hx']
  | dockerStop owner target =>
      have hx' := (answersTo_congr hid hname target).trans (hspares c hc)
      by_cases htook : a.tookEffect
      · simp only [World.perform, htook, World.setRunning, if_true]
        exact List.mem_map.mpr ⟨x, hx, by simp [hx']⟩
      · simpa [World.perform, htook] using hx
  | dockerStart owner target =>
      have hx' := (answersTo_congr hid hname target).trans (hspares c hc)
      by_cases htook : a.tookEffect
      · simp only [World.perform, htook, World.setRunning, if_true]
        exact List.mem_map.mpr ⟨x, hx, by simp [hx']⟩
      · simpa [World.perform, htook] using hx
  | _ => exact (World.perform_containers rfl w a).1.symm ▸ hx

theorem fresh_container {command : DockerRun} {completed : Completed}
    {r : Except Exn (Effect.dockerRun command).Ret}
    (hstep : (host permitted).Step w (.dockerRun command) r w')
    (hr : r = .ok completed) (hzero : completed.returncode = 0)
    {x : Container} (hx : x ∈ w.containers) :
    x.answersTo (strip completed.stdout) = false := by
  obtain ⟨a, hallows, hanswer, -⟩ := host_refines.performed hstep
  have hresult : a.result = .ok completed := hanswer.symm.trans hr
  simp only [World.allows, hresult, hzero, Bool.and_eq_true] at hallows
  obtain ⟨hcreated, hfresh⟩ := hallows
  have hcreated : a.created = some (strip completed.stdout, true) := by
    simpa using hcreated
  simp only [hcreated, Bool.and_eq_true, List.all_eq_true] at hfresh
  simpa using (hfresh.2 x hx).1

theorem Bystander.step (h : Bystander s D C d w) (hD : D b) (hb : b ≠ d)
    (hlocal : Local s (Elsewhere C d) b e)
    (hstep : (host permitted).Step w e r w') :
    Typed s (Elsewhere C d) e r ∧ Bystander s D C d w' ∧
      w'.ledger d = w.ledger d := by
  have hspares := h.spares hD hb hlocal
  refine ⟨host_typed_of_belonging h.belonging hstep ?_, ⟨h.names, ?_, ?_, ?_⟩,
    host_frame hlocal hstep hb.symm⟩
  · rintro command completed heq hzero hne c hc
    obtain ⟨x, hx, hid, hname⟩ := h.present c hc
    cases heq
    exact (answersTo_congr hid hname _).symm.trans
      (fresh_container hstep rfl hzero hx)
  · intro b' runtime hget
    by_cases hb' : b' = b
    · exact hb' ▸ hD
    · have hsame := congrArg Ledger.record (host_frame hlocal hstep hb')
      exact h.recorded b' runtime (hsame.symm.trans hget)
  · intro c hc
    obtain ⟨x, hx, hid, hname⟩ := h.present c hc
    exact ⟨x, mem_containers_of_spares hspares hc hid hname hx hstep,
      hid, hname⟩
  · exact host_belonging h.belonging hlocal hstep

theorem Bystander.quiet (h : Bystander s D C d w) (he : e.owner = none)
    (hstep : (host permitted).Step w e r w') :
    Bystander s D C d w' ∧ w'.ledger d = w.ledger d ∧
      w'.containers = w.containers := by
  have htouches := World.untouched_of_owner he
  have hcontainers : World.touchesContainers e = false := by
    cases e <;> first | rfl | simp [Effect.owner] at he
  have hledger := host_untouched htouches hstep d
  obtain ⟨a, -, -, rfl⟩ := host_refines.performed hstep
  have hruntimes := (World.perform_books htouches w a).1
  have hsame := (World.perform_containers hcontainers w a).1
  refine ⟨⟨h.names, fun b runtime hget => h.recorded b runtime (hruntimes ▸ hget),
    fun c hc => ?_, fun b runtime hget => ?_⟩, hledger, hsame⟩
  · simpa only [hsame] using h.present c hc
  · simp only [hruntimes] at hget
    exact h.belonging b runtime hget

/-! ## A live tenant -/

/-- The answer that `list_leases` gives throughout a pass. -/
def listing (answer : Except Exn (List LeaseAssignment)) : Permitted
  | .listLeases _, r => r = answer
  | _, _ => True

/-- `d` is as it was in `w₀`: its record, its GPUs, its containers, its reports. -/
structure Untouched (s : Settings) (D : String → Prop) (C : Container → Prop)
    (d : String) (w₀ w : World) : Prop extends Bystander s D C d w where
  books : w.ledger d = w₀.ledger d
  containers : ∀ c, C c → c ∈ w.containers

section Untouched

variable {w₀ : World} {α : Type}

/-- Programs all of whose calls leave `d` as it was. -/
def LeavesUntouched (s : Settings) (D : String → Prop) (C : Container → Prop)
    (d : String) (permitted : Permitted) (w₀ : World) (p : Agent α) : Prop :=
  Keeps (host permitted) (fun w e => Untouched s D C d w₀ w ∧ Spares C e)
    (Untouched s D C d w₀) p

theorem other_untouched {p : Agent α} (hD : D b) (hb : b ≠ d)
    (hp : Within (Typed s (Elsewhere C d)) (Local s (Elsewhere C d) b) p
      fun _ => True) : LeavesUntouched s D C d permitted w₀ p := by
  refine keeps_of_always hp.always
    (fun w e h he => ⟨h, h.spares hD hb he⟩) fun w e r w' h he hstep => ?_
  obtain ⟨htyped, hbystander, hledger⟩ := h.toBystander.step hD hb he hstep
  refine ⟨htyped, hbystander, hledger.trans h.books, fun c hc => ?_⟩
  exact mem_containers_of_spares (h.spares hD hb he) hc rfl rfl
    (h.containers c hc) hstep

theorem quiet_untouched {e : Effect} (he : e.owner = none) :
    LeavesUntouched s D C d permitted w₀ (perform e) := by
  have hspares : Spares C e := by
    cases e <;> first | exact trivial | simp [Effect.owner] at he
  refine keeps_perform (fun w h => ⟨h, hspares⟩) fun w r w' h hstep => ?_
  obtain ⟨hbystander, hledger, hsame⟩ := h.toBystander.quiet he hstep
  exact ⟨hbystander, hledger.trans h.books,
    fun c hc => hsame ▸ h.containers c hc⟩

theorem readyLease_untouched {lease : LeaseAssignment}
    {runtime : UnifiedRuntimeRecord} (hlease : lease.deploymentId = d)
    (hactive : isSuspendedLease lease = false)
    (hrecord : w₀.runtimes.get? d = some runtime)
    (hready : runtime.status = .ready) :
    LeavesUntouched s D C d permitted w₀ (handleLease s lease) := by
  intro w h
  refine sat_step_bind host_refines ⟨h, trivial⟩ fun a _ hstep => ?_
  have hget : w.runtimes.get? lease.deploymentId = some runtime := by
    rw [hlease]
    exact (congrArg Ledger.record h.books).trans hrecord
  simp only [World.perform, hget, andThen_ok, hactive, hready]
  exact ⟨⟨h.names, h.recorded, h.present, h.belonging⟩,
    (host_untouched rfl hstep d).trans h.books, h.containers⟩

theorem reconcileOnce_untouched {leases : List LeaseAssignment}
    (hotkey : String) (hleased : ∀ b ∈ activeIds s leases, D b)
    {runtime : UnifiedRuntimeRecord}
    (hrecord : w₀.runtimes.get? d = some runtime)
    (hready : runtime.status = .ready)
    (hmine : ∃ lease ∈ leases, isMine s lease = true ∧ lease.deploymentId = d)
    (hactive : ∀ lease ∈ leases, isMine s lease = true →
      lease.deploymentId = d → isSuspendedLease lease = false) :
    LeavesUntouched s D C d (listing (.ok leases)) w₀
      (reconcileOnce s hotkey) := by
  refine keeps_reconcileOnce (L := fun heard => heard = leases)
    (fun e he => quiet_untouched he.owner_eq_none) host_refines ?_ ?_ ?_
  · intro w r w' hstep
    obtain rfl : r = .ok leases := hstep.1
    rfl
  · rintro _ rfl lease hmem hlease
    by_cases hb : lease.deploymentId = d
    · exact readyLease_untouched hb (hactive lease hmem hlease hb)
        hrecord hready
    · refine other_untouched (hleased _ ?_) hb (handleLease_local rfl)
      exact List.mem_map.mpr ⟨lease, List.mem_filter.mpr ⟨hmem, hlease⟩, rfl⟩
  · rintro leases' rfl w snapshotted h hmem
    -- `d` has a lease of this node, so the clean-up passes it by.
    by_cases hb : snapshotted.deploymentId = d
    · obtain ⟨lease, hlease, hmine, hid⟩ := hmine
      have hactive : snapshotted.deploymentId ∈ activeIds s leases' :=
        List.mem_map.mpr ⟨lease, List.mem_filter.mpr ⟨hlease, hmine⟩,
          hid.trans hb.symm⟩
      rw [cleanUp, if_pos hactive]
      exact keeps_pure ()
    · have hget := Table.mem_snapshot_iff.mp hmem
      exact other_untouched (h.recorded _ _ hget) hb
        (cleanUp_local (h.belonging _ _ hget) _ _)

end Untouched

/--
Wherever a pass has got to, whatever fails in it: a ready runtime with a lease
for this node, none of them suspended, has its record, its GPUs and its
container, no docker command was about that container and no report was sent.
-/
theorem pass_leaves_ready_alone {leases : List LeaseAssignment}
    {hotkey : String} {rest : Agent Unit} {runtime : UnifiedRuntimeRecord}
    (hrecord : w.runtimes.get? d = some runtime)
    (hready : runtime.status = .ready)
    (hmine : ∃ lease ∈ leases, isMine s lease = true ∧ lease.deploymentId = d)
    (hactive : ∀ lease ∈ leases, isMine s lease = true →
      lease.deploymentId = d → isSuspendedLease lease = false)
    (hapart : Apart w (activeIds s leases) d (ContainerOf w runtime))
    (hpass : Reaches (host (listing (.ok leases))) (reconcileOnce s hotkey) w
      rest w') :
    w'.runtimes.get? d = some runtime ∧
      w'.allocator.getAllocation d = w.allocator.getAllocation d ∧
      (∀ c, ContainerOf w runtime c → c ∈ w'.containers) ∧
      (∀ event ∈ issued w w', Spares (ContainerOf w runtime) event.call ∧
        reportOf d event = none) := by
  have hsat := reconcileOnce_untouched (s := s) hotkey
    (fun b hb => (.inl hb : Concerns w (activeIds s leases) b)) hrecord
    hready hmine hactive w ⟨hapart.bystander, rfl, fun c hc => hc.1⟩
  have hlogged := Sat.logged host_refines hsat
    (c := fun event => Spares (ContainerOf w runtime) event.call)
    fun _ _ _ _ hguard _ => hguard.2
  have huntouched := hsat.cut (fun _ _ h => h.1) (fun _ _ h => h) hpass
  have hspares := hlogged.cut (fun _ _ h => h) (fun _ _ h => h.2) hpass
  have hsent : (w'.ledger d).sent = (w.ledger d).sent :=
    congrArg Ledger.sent huntouched.books
  refine ⟨(congrArg Ledger.record huntouched.books).trans hrecord,
    congrArg Ledger.held huntouched.books, huntouched.containers,
    fun event hevent => ⟨hspares.issued event hevent, ?_⟩⟩
  simp only [World.ledger, reaches_log host_refines hpass,
    List.filterMap_append, List.append_right_eq_self] at hsent
  exact List.filterMap_eq_nil_iff.mp hsent event hevent

theorem podHost_listing (leases : List LeaseAssignment) :
    (podHost leases).Respects (listing (.ok leases)) := by
  intro w e
  cases e <;> first | exact trivial | rfl

theorem podContainerName_chars (d : String) :
    (podContainerName d).toList[0]? = some 'g' ∧
      (podContainerName d).toList[13]? = some 'p' := by
  unfold podContainerName
  rw [String.toList_append]
  exact ⟨rfl, rfl⟩

theorem inferenceContainerName_chars (d : String) :
    (DockerInferenceBackend.containerName d).toList[0]? = some 'g' ∧
      (DockerInferenceBackend.containerName d).toList[13]? = some 'i' := by
  unfold DockerInferenceBackend.containerName
  rw [String.toList_append]
  exact ⟨rfl, rfl⟩

theorem podContainerName_ne_inference (d b : String) :
    podContainerName d ≠ DockerInferenceBackend.containerName b := by
  intro heq
  have hpod := (podContainerName_chars d).2
  rw [heq, (inferenceContainerName_chars b).2] at hpod
  cases hpod

theorem apart_of_one {w : World} {d id : String}
    (hid : id.toList[0]? ≠ some 'g')
    (hcontainers : ∀ c ∈ w.containers, c.id = id ∧ c.name = podContainerName d)
    (hleased : ∀ b ∈ leased, podContainerName b = podContainerName d → b = d)
    (hrecords : ∀ b runtime, w.runtimes.get? b = some runtime → b = d)
    (runtime : UnifiedRuntimeRecord) :
    Apart w leased d (ContainerOf w runtime) := by
  intro b hconcerns hb target haddresses c hc
  have hb' : b ∈ leased := hconcerns.resolve_right fun ⟨other, hget⟩ =>
    hb (hrecords b other hget)
  obtain ⟨rfl, hname⟩ := hcontainers c hc.1
  rw [Container.answersTo, hname]
  rcases haddresses with rfl | rfl | ⟨other, hget, -⟩
  · have hother : podContainerName d ≠ podContainerName b := fun heq =>
      hb (hleased b hb' heq.symm)
    have hne : c.id ≠ podContainerName b := by
      intro heq
      exact hid (heq ▸ (podContainerName_chars b).1)
    simp [hother, hne]
  · have hne : c.id ≠ DockerInferenceBackend.containerName b := by
      intro heq
      exact hid (heq ▸ (inferenceContainerName_chars b).1)
    simp [hne, podContainerName_ne_inference d b]
  · exact absurd (hrecords b other hget) hb

/-- A pod with an id of which its container's name keeps twelve characters. -/
def shortenedNameNode : World :=
  replayed (podHost [leaseOn "7c9e6679-7425-40de"]) (reconcileOnce {} "hotkey")
    (.init {})

theorem shortenedNameNode_apart (runtime : UnifiedRuntimeRecord) :
    Apart shortenedNameNode ["41d0a3e2-0b5c-4f7a", "7c9e6679-7425-40de"]
      "7c9e6679-7425-40de" (ContainerOf shortenedNameNode runtime) := by
  have hid : "container-0".toList[0]? ≠ some 'g' := by decide
  refine apart_of_one hid ?_ (by decide) ?_ runtime
  · intro c hc
    obtain rfl := List.mem_singleton.mp (show c ∈ [_] from hc)
    exact ⟨rfl, rfl⟩
  · intro b other hget
    change (if "7c9e6679-7425-40de" = b then some _ else none) = some other
      at hget
    split at hget
    · exact Eq.symm (by assumption)
    · cases hget

/-- A second lease finds no GPU left, and the first one's pod stays as it is. -/
theorem pass_leaves_ready_alone_secondLease :
    ∃ w', (∃ r, Exec
        (host (listing (.ok
          [leaseOn "41d0a3e2-0b5c-4f7a", leaseOn "7c9e6679-7425-40de"])))
        (reconcileOnce {} "hotkey") shortenedNameNode r w') ∧
      (w'.runtimes.get? "41d0a3e2-0b5c-4f7a").map (·.status) = some .failed ∧
      (∃ c ∈ w'.containers, c.name = "greencompute-pod-7c9e6679-742") ∧
      w'.runtimes.get? "7c9e6679-7425-40de" =
        shortenedNameNode.runtimes.get? "7c9e6679-7425-40de" := by
  obtain ⟨r, hexec⟩ := replayed_exec
    (podHost_listing [leaseOn "41d0a3e2-0b5c-4f7a", leaseOn "7c9e6679-7425-40de"])
    (p := reconcileOnce {} "hotkey") (w := shortenedNameNode) rfl
  have hactive : ∀ lease ∈
      [leaseOn "41d0a3e2-0b5c-4f7a", leaseOn "7c9e6679-7425-40de"],
      isSuspendedLease lease = false := by
    intro lease hmem
    simp only [List.mem_cons, List.not_mem_nil, or_false] at hmem
    rcases hmem with rfl | rfl <;> rfl
  have hkept := pass_leaves_ready_alone (d := "7c9e6679-7425-40de") rfl rfl
    ⟨leaseOn "7c9e6679-7425-40de", by simp, rfl, rfl⟩
    (fun lease hmem _ _ => hactive lease hmem) (shortenedNameNode_apart _) hexec
  have hcontainer := hkept.2.2.1 _
    ⟨List.mem_singleton_self _, "container-0", rfl, by decide⟩
  exact ⟨_, ⟨r, hexec⟩, rfl, ⟨_, hcontainer, by decide⟩, hkept.1⟩

end NodeAgent
