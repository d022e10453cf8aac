import NodeAgent.Application.Frame
import NodeAgent.Application.Ownership
import NodeAgent.Application.Repertoire

/-!
# Deployments that share a container name

A container is named after the first twelve characters of its deployment's id,
and every start force-removes whatever has its name.  The agent stops or removes
another deployment's container exactly where that is a namesake.
-/

namespace NodeAgent

open Effectful Program Agent

/-- The call stops or removes the container. -/
def Strikes (c : Container) : Effect → Prop
  | .dockerRm _ target | .dockerStop _ target => c.answersTo target = true
  | _ => False

/-- Every container that the call stops or removes is of its own deployment. -/
def StrikesOwn (w : World) (e : Effect) : Prop :=
  ∀ c ∈ w.containers, Strikes c e → e.owner = some c.owner

/-- A container of the same kind, for an id with the same twelve characters. -/
def NamesakeOf (d target : String) (c : Container) : Prop :=
  c.owner ≠ d ∧ prefixOf 12 c.owner = prefixOf 12 d ∧
    (target = podContainerName d ∧ c.name = podContainerName c.owner ∨
      target = DockerInferenceBackend.containerName d ∧
        c.name = DockerInferenceBackend.containerName c.owner)

/-- A namesake is there while the call's deployment removes by its name. -/
def MeetsNamesake (w : World) : Effect → Prop
  | .dockerRm d target | .dockerStop d target =>
      ∃ c ∈ w.containers, NamesakeOf d target c
  | _ => False

def NamedAfter (d name : String) : Prop :=
  name = podContainerName d ∨ name = DockerInferenceBackend.containerName d

def LaunchesNamed : Effect → Prop
  | .dockerRun command => NamedAfter command.owner command.name
  | _ => True

/-- Docker's ids are hexadecimal, so that none starts as the names do. -/
def HexIds (M : Machine Effect Effect.Ret Exn World) : Prop :=
  ∀ w command r w', M.Step w (.dockerRun command) r w' →
    ∀ id ∈ w'.issuedIds, id ∈ w.issuedIds ∨ id.toList[0]? ≠ some 'g'

/-- Containers have their deployment's name and an id that is no such name. -/
structure Christened (w : World) : Prop where
  name : ∀ c ∈ w.containers, NamedAfter c.owner c.name
  issued : ∀ c ∈ w.containers, c.id ∈ w.issuedIds
  hex : ∀ id ∈ w.issuedIds, id.toList[0]? ≠ some 'g'

variable {s : Settings} {M : Machine Effect Effect.Ret Exn World}
variable {w w' : World} {e : Effect} {r : Except Exn e.Ret} {α : Type}

/-! ## Containers keep their names -/

theorem request_launchesNamed (request : Request) :
    Sat M (fun _ e => LaunchesNamed e) (request.program s) (fun _ _ => True)
      w := by
  have hquiet : Repertoire LaunchesNamed :=
    ⟨fun e he => by cases e <;> first | exact trivial | exact he.elim,
      fun _ _ => trivial⟩
  have hpods : LaunchesPods s LaunchesNamed := fun _ _ => .inl rfl
  have hinference : LaunchesInference s LaunchesNamed :=
    fun _ _ _ _ => .inr rfl
  have hfiles : MakesFiles LaunchesNamed :=
    fun _ => ⟨trivial, fun _ _ => trivial⟩
  have hall : Within (fun _ _ => True) LaunchesNamed (request.program s)
      fun _ => True := by
    cases request with
    | reconcile hotkey =>
        exact reconcileOnce_calls hquiet hpods hinference (fun _ => trivial)
          hfiles (fun _ => trivial) (fun _ => trivial) hotkey
    | recover =>
        exact within_bind (recoverRuntimeState_calls hquiet fun _ => trivial)
          fun _ _ => within_pure trivial
    | terminate d =>
        exact within_bind
          (terminateDeployment_calls hquiet (fun _ => trivial) d)
          fun _ _ => within_pure trivial
  exact hall.always.sat fun _ _ _ _ _ _ => trivial

theorem Christened.of_containers (h : Christened w)
    (hissued : w'.issuedIds = w.issuedIds)
    (hcontainers : ∀ c ∈ w'.containers, ∃ c' ∈ w.containers,
      c.id = c'.id ∧ c.name = c'.name ∧ c.owner = c'.owner) :
    Christened w' := by
  refine ⟨fun c hc => ?_, fun c hc => ?_, hissued ▸ h.hex⟩
  · obtain ⟨c', hc', -, hname, howner⟩ := hcontainers c hc
    rw [hname, howner]
    exact h.name c' hc'
  · obtain ⟨c', hc', hid, -, -⟩ := hcontainers c hc
    rw [hid, hissued]
    exact h.issued c' hc'

theorem Christened.step (hM : Refines M) (hhex : HexIds M)
    (h : Christened w) (he : LaunchesNamed e) (hstep : M.Step w e r w') :
    Christened w' := by
  obtain ⟨a, -, rfl, rfl⟩ := hM.performed hstep
  by_cases hrun : ∃ command, e = .dockerRun command
  · obtain ⟨command, rfl⟩ := hrun
    have hnew := hhex w command _ _ hstep
    cases hcreated : a.created with
    | none =>
        simp only [World.perform, hcreated, World.withContainer]
        exact h.of_containers rfl fun c hc => ⟨c, hc, rfl, rfl, rfl⟩
    | some created =>
        obtain ⟨id, running⟩ := created
        simp only [World.perform, hcreated, World.withContainer] at hnew ⊢
        refine ⟨fun c hc => ?_, fun c hc => ?_, fun id' hid' => ?_⟩
        · rcases List.mem_append.mp hc with hc | hc
          · exact h.name c hc
          · obtain rfl := List.mem_singleton.mp hc
            exact he
        · rcases List.mem_append.mp hc with hc | hc
          · exact List.mem_cons_of_mem _ (h.issued c hc)
          · obtain rfl := List.mem_singleton.mp hc
            exact List.mem_cons_self ..
        · rcases hnew id' hid' with hold | hid'
          · exact h.hex id' hold
          · exact hid'
  · obtain ⟨hissued, horigin⟩ :=
      World.perform_origin (w := w) (fun command heq => hrun ⟨command, heq⟩) a
    exact h.of_containers (by exact hissued) horigin

theorem init_christened : Christened (.init s) :=
  ⟨by simp [World.init], by simp [World.init], by simp [World.init]⟩

theorem Christened.restart (h : Christened w) :
    Christened (w.restart s) := ⟨h.name, h.issued, h.hex⟩

/-! ## Whose containers a call strikes -/

theorem Christened.strikes_named (h : Christened w) {c : Container}
    (hc : c ∈ w.containers) {target : String}
    (htarget : target.toList[0]? = some 'g')
    (hanswers : c.answersTo target = true) : c.name = target := by
  simp only [Container.answersTo, Bool.or_eq_true,
    decide_eq_true_eq] at hanswers
  rcases hanswers with rfl | hname
  · exact absurd htarget (h.hex _ (h.issued c hc))
  · exact hname

theorem Christened.of_podContainerName (h : Christened w) {c : Container}
    (hc : c ∈ w.containers) {d : String}
    (hanswers : c.answersTo (podContainerName d) = true) (hne : c.owner ≠ d) :
    NamesakeOf d (podContainerName d) c := by
  have hname := h.strikes_named hc (podContainerName_chars d).1 hanswers
  rcases h.name c hc with hown | hown
  · refine ⟨hne, ?_, .inl ⟨rfl, hown⟩⟩
    exact (String.append_right_inj _).mp (hown.symm.trans hname)
  · exact absurd (hname.symm.trans hown) (podContainerName_ne_inference d _)

theorem Christened.of_inferenceContainerName (h : Christened w)
    {c : Container} (hc : c ∈ w.containers) {d : String}
    (hanswers :
      c.answersTo (DockerInferenceBackend.containerName d) = true)
    (hne : c.owner ≠ d) :
    NamesakeOf d (DockerInferenceBackend.containerName d) c := by
  have hname := h.strikes_named hc (inferenceContainerName_chars d).1 hanswers
  rcases h.name c hc with hown | hown
  · exact absurd (hown.symm.trans hname) (podContainerName_ne_inference _ d)
  · refine ⟨hne, ?_, .inr ⟨rfl, hown⟩⟩
    exact (String.append_right_inj _).mp (hown.symm.trans hname)

theorem NamesakeOf.answersTo {d target : String} {c : Container}
    (h : NamesakeOf d target c) : c.answersTo target = true := by
  obtain ⟨-, hprefix, hkind⟩ := h
  have hname : c.name = target := by
    rcases hkind with ⟨rfl, hname⟩ | ⟨rfl, hname⟩
    · exact hname.trans (congrArg ("greencompute-pod-" ++ ·) hprefix)
    · exact hname.trans (congrArg ("greencompute-inf-" ++ ·) hprefix)
  simp [Container.answersTo, hname]

theorem Christened.namesake_of_target (h : Christened w) {d target : String}
    (htarget : OwnTarget (Owned w) d target) {c : Container}
    (hc : c ∈ w.containers) (hanswers : c.answersTo target = true)
    (hne : c.owner ≠ d) : NamesakeOf d target c := by
  rcases htarget with rfl | rfl | hown
  · exact h.of_podContainerName hc hanswers hne
  · exact h.of_inferenceContainerName hc hanswers hne
  · exact absurd (hown.2 c hc hanswers).2 hne

theorem strikesOwn_iff_of_target (h : Christened w) {d target : String}
    (htarget : OwnTarget (Owned w) d target) :
    (∀ c ∈ w.containers, c.answersTo target = true → some d = some c.owner) ↔
      ¬∃ c ∈ w.containers, NamesakeOf d target c := by
  constructor
  · rintro hown ⟨c, hc, hnamesake⟩
    exact hnamesake.1 (Option.some.inj (hown c hc hnamesake.answersTo)).symm
  · intro hnone c hc hanswers
    by_contra hne
    refine hnone ⟨c, hc, h.namesake_of_target htarget hc hanswers ?_⟩
    exact fun heq => hne (congrArg some heq.symm)

theorem strikesOwn_iff (h : Christened w) (he : Tended s w e) :
    StrikesOwn w e ↔ ¬MeetsNamesake w e := by
  cases e with
  | dockerRm owner target =>
      obtain ⟨d, hlocal⟩ := he.2.resolve_left id
      obtain ⟨rfl, htarget⟩ := hlocal.resolve_right id
      exact strikesOwn_iff_of_target h htarget
  | dockerStop owner target =>
      obtain ⟨d, hlocal⟩ := he.2.resolve_left id
      obtain ⟨rfl, htarget⟩ := hlocal.resolve_right id
      exact strikesOwn_iff_of_target h htarget
  | _ => exact iff_of_true (fun _ _ hstrikes => hstrikes.elim) id

/-! ## Every run -/

theorem request_christened (hM : Refines M) (hhex : HexIds M)
    (request : Request) (htenanted : Tenanted s w) (h : Christened w) :
    Sat M (fun w e => Christened w ∧ Tended s w e) (request.program s)
      (fun _ w => Christened w) w := by
  have hnamed := request_launchesNamed (s := s) (M := M) (w := w) request
  have htended := request_tended hM request w htenanted
  refine ((hnamed.keeping (I := Christened)
    (fun _ _ _ _ hw he hstep => hw.step hM hhex he hstep) h).both
      htended).mono ?_ ?_
  · exact fun _ _ h => h
  · exact fun _ _ h => h.1.2

theorem crashRun_christened (hM : Refines M) (hhex : HexIds M)
    (h : CrashRun s M w) : Christened w :=
  h.keeps init_christened
    (fun request _ before hw => request_christened hM hhex request
      (crashRun_tenanted hM before) hw)
    (fun _ _ h => h.1) fun _ hw => hw.restart

/-- The next call of a request strikes only its own deployment's containers. -/
theorem strikesOwn_iff_no_namesake (hM : Refines M) (hhex : HexIds M)
    (hrun : CrashRun s M w) {request : Request}
    {next : Except Exn e.Ret → Agent Unit}
    (hreached : Reaches M (request.program s) w (.call e next) w') :
    StrikesOwn w' e ↔ ¬MeetsNamesake w' e := by
  have hsat := request_christened hM hhex request
    (crashRun_tenanted hM hrun) (crashRun_christened hM hhex hrun)
  obtain ⟨⟨hchristened, htended⟩, -⟩ := hsat.reaches hreached
  exact strikesOwn_iff hchristened htended

/-! ## Two pods -/

def hexHost : Machine Effect Effect.Ret Exn World where
  Step w e r w' := (host anyResult).Step w e r w' ∧
    ∀ id ∈ w'.issuedIds, id ∈ w.issuedIds ∨ id.toList[0]? ≠ some 'g'

theorem hexHost_refines : Refines hexHost := fun _ _ _ _ h => h.1.2

theorem hexHost_hexIds : HexIds hexHost := fun _ _ _ _ h => h.2

theorem nextContainerId_char (w : World) :
    (nextContainerId w).toList[0]? ≠ some 'g' := by
  unfold nextContainerId
  rw [String.toList_append]
  simp

theorem podHost_hex (leases : List LeaseAssignment)
    (checks : World → Effect → Bool) :
    Follows hexHost (podHost leases) checks := by
  intro w e _ hallows
  refine ⟨⟨trivial, _, hallows, rfl⟩, fun id hid => ?_⟩
  by_cases hrun : ∃ command, e = .dockerRun command
  · obtain ⟨command, rfl⟩ := hrun
    rcases List.mem_cons.mp hid with rfl | hid
    · exact .inr (nextContainerId_char w)
    · exact .inl hid
  · have hissued := (World.perform_origin (w := w)
      (fun command heq => hrun ⟨command, heq⟩) (podHost leases w e)).1
    exact .inl (hissued ▸ hid)

/-- Every call but the `docker rm -f` of a start of the deployment. -/
def beforeRemoval (d : String) (_ : World) : Effect → Bool
  | .dockerRm owner _ => owner ≠ d
  | _ => true

def removing (first second : String) : Agent Unit × World :=
  replayFor (podHost [leaseOn first, leaseOn second]) (beforeRemoval second)
    100 (reconcileOnce { gpuCount := 2 } "hotkey") (.init { gpuCount := 2 })

theorem removing_reaches (first second : String) :
    Reaches hexHost
      (Request.program { gpuCount := 2 } (.reconcile "hotkey"))
      (.init { gpuCount := 2 }) (removing first second).1
      (removing first second).2 :=
  replayFor_reaches (podHost_hex _ _) _ _ _

theorem strikesOwn_iff_no_namesake_twoPods :
    ∃ next w', Reaches hexHost
        (Request.program { gpuCount := 2 } (.reconcile "hotkey"))
        (.init { gpuCount := 2 })
        (.call (.dockerRm "pod-2" (podContainerName "pod-2")) next) w' ∧
      w'.containers.map (·.owner) = ["pod-1"] ∧
      StrikesOwn w' (.dockerRm "pod-2" (podContainerName "pod-2")) := by
  have hreached := removing_reaches "pod-1" "pod-2"
  refine ⟨_, _, hreached, rfl, ?_⟩
  refine (strikesOwn_iff_no_namesake hexHost_refines hexHost_hexIds
    .boot hreached).mpr ?_
  rintro ⟨c, hc, hnamesake⟩
  obtain rfl := List.mem_singleton.mp hc
  exact absurd hnamesake.2.1 (by decide)

/-- Both ids begin with the same twelve characters. -/
theorem namesake_removed :
    ∃ next w', Reaches hexHost
        (Request.program { gpuCount := 2 } (.reconcile "hotkey"))
        (.init { gpuCount := 2 })
        (.call (.dockerRm "deployment-11"
          (podContainerName "deployment-11")) next) w' ∧
      w'.containers.map (fun c => (c.owner, c.running)) =
        [("deployment-10", true)] ∧
      ¬StrikesOwn w' (.dockerRm "deployment-11"
        (podContainerName "deployment-11")) := by
  refine ⟨_, _, removing_reaches "deployment-10" "deployment-11", rfl, ?_⟩
  intro hown
  have hsame := hown _ (List.mem_singleton_self _) (by rfl)
  exact absurd hsame (by decide)

end NodeAgent
