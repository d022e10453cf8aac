import NodeAgent.Application.Runs

/-!
# Whose containers they are

Docker hands out every container id once.  Throughout a run of the agent the
records in memory and in the state file name only containers that docker
started for their own deployment.
-/

namespace NodeAgent

open Effectful Program Agent

/-- Docker gave out the id for `b`, and no other container answers to it. -/
def Owned (w : World) (b id : String) : Prop :=
  id ∈ w.issuedIds ∧ ∀ c ∈ w.containers, c.answersTo id = true →
    c.id = id ∧ c.owner = b

/-- In memory and in the file, records name containers of their deployment. -/
def Tenanted (s : Settings) (w : World) : Prop :=
  OnRecord (fun runtime => Belongs s (Owned w) runtime.deploymentId runtime) w

variable {s : Settings} {permitted : Permitted} {w w' : World}
variable {M : Machine Effect Effect.Ret Exn World}
variable {own own' : String → String → Prop} {d : String} {e : Effect}
variable {r : Except Exn e.Ret} {runtime : UnifiedRuntimeRecord}

/-! ## Knowing more owners -/

theorem Belongs.grow (hle : own ≤ own') (h : Belongs s own d runtime) :
    Belongs s own' d runtime :=
  ⟨h.1, fun c hc hkind => hle d c (h.2 c hc hkind)⟩

theorem Typed.grow (hle : own ≤ own') (h : Typed s own e r) :
    Typed s own' e r := by
  cases e with
  | getRuntime d =>
      match r, h with
      | .ok (some runtime), h => exact Belongs.grow hle h
      | .ok none, _ => exact trivial
      | .error x, _ => exact trivial
  | snapshotRuntimeItems =>
      match r, h with
      | .ok runtimes, h => exact fun runtime hmem => (h runtime hmem).grow hle
      | .error x, _ => exact trivial
  | dockerRun command =>
      match r, h with
      | .ok completed, h => exact fun hzero => hle _ _ (h hzero)
      | .error x, _ => exact trivial
  | popVolumeRecord d =>
      match r, h with
      | .ok (some volume), h => exact h
      | .ok none, _ => exact trivial
      | .error x, _ => exact trivial
  | _ => exact trivial

/-! ## Docker never hands an id out again -/

theorem owned_of_containers (hissued : w'.issuedIds = w.issuedIds)
    (h : ∀ c ∈ w'.containers, ∃ c' ∈ w.containers,
      c.id = c'.id ∧ c.name = c'.name ∧ c.owner = c'.owner) :
    Owned w ≤ Owned w' := by
  rintro b id ⟨hmem, hall⟩
  refine ⟨hissued ▸ hmem, fun c hc hanswers => ?_⟩
  obtain ⟨c', hc', hid, hname, howner⟩ := h c hc
  rw [hid, howner]
  refine hall c' hc' ?_
  rwa [Container.answersTo, ← hid, ← hname]

theorem World.allows_created {command : DockerRun}
    {a : Answer (.dockerRun command)} (h : w.allows (.dockerRun command) a = true)
    {id : String} {running : Bool} (hcreated : a.created = some (id, running)) :
    id ∉ w.issuedIds ∧ id ≠ command.name ∧ command.name ∉ w.issuedIds ∧
      ∀ c ∈ w.containers, c.answersTo id = false ∧ c.name ≠ command.name := by
  simp only [allows, hcreated, Bool.and_eq_true, List.all_eq_true] at h
  obtain ⟨-, ⟨⟨⟨⟨-, hid⟩, hname⟩, hfresh⟩, hall⟩⟩ := h
  exact ⟨by simpa using hid, by simpa using hname, by simpa using hfresh,
    fun c hc => by simpa using hall c hc⟩

theorem World.perform_origin (he : ∀ command, e ≠ .dockerRun command)
    (a : Answer e) : (w.perform e a).2.issuedIds = w.issuedIds ∧
      ∀ c ∈ (w.perform e a).2.containers, ∃ c' ∈ w.containers,
        c.id = c'.id ∧ c.name = c'.name ∧ c.owner = c'.owner := by
  have hset : ∀ (target : String) (running : Bool),
      ∀ c ∈ (w.setRunning target running).containers, ∃ c' ∈ w.containers,
        c.id = c'.id ∧ c.name = c'.name ∧ c.owner = c'.owner := by
    intro target running c hc
    obtain ⟨c', hc', rfl⟩ := List.mem_map.mp hc
    refine ⟨c', hc', ?_⟩
    by_cases htarget : c'.answersTo target = true <;> simp [htarget]
  by_cases htouches : World.touchesContainers e = false
  · obtain ⟨hcontainers, hissued⟩ := World.perform_containers htouches w a
    exact ⟨hissued, fun c hc => ⟨c, hcontainers ▸ hc, rfl, rfl, rfl⟩⟩
  · cases e with
    | dockerRun command => exact absurd rfl (he command)
    | dockerRm owner target =>
        by_cases htook : a.tookEffect
        · simp only [World.perform, htook, if_true]
          exact ⟨rfl, fun c hc =>
            ⟨c, (List.mem_filter.mp hc).1, rfl, rfl, rfl⟩⟩
        · simp only [World.perform, htook]
          exact ⟨rfl, fun c hc => ⟨c, hc, rfl, rfl, rfl⟩⟩
    | dockerStop owner target =>
        by_cases htook : a.tookEffect
        · simp only [World.perform, htook, if_true]
          exact ⟨rfl, hset target false⟩
        · simp only [World.perform, htook]
          exact ⟨rfl, fun c hc => ⟨c, hc, rfl, rfl, rfl⟩⟩
    | dockerStart owner target =>
        by_cases htook : a.tookEffect
        · simp only [World.perform, htook, if_true]
          exact ⟨rfl, hset target true⟩
        · simp only [World.perform, htook]
          exact ⟨rfl, fun c hc => ⟨c, hc, rfl, rfl, rfl⟩⟩
    | _ => exact absurd rfl htouches

theorem host_owned (hstep : (host permitted).Step w e r w') :
    Owned w ≤ Owned w' := by
  obtain ⟨a, hallows, -, rfl⟩ := host_refines.performed hstep
  by_cases hrun : ∃ command, e = .dockerRun command
  · obtain ⟨command, rfl⟩ := hrun
    cases hcreated : a.created with
    | none =>
        simp only [World.perform, hcreated, World.withContainer]
        exact owned_of_containers rfl fun c hc => ⟨c, hc, rfl, rfl, rfl⟩
    | some created =>
        obtain ⟨id', running⟩ := created
        obtain ⟨hid, -, hname, -⟩ := World.allows_created hallows hcreated
        rintro b id ⟨hmem, hall⟩
        simp only [World.perform, hcreated, World.withContainer]
        refine ⟨List.mem_cons_of_mem _ hmem, fun c hc hanswers => ?_⟩
        rcases List.mem_append.mp hc with hc | hc
        · exact hall c hc hanswers
        · obtain rfl := List.mem_singleton.mp hc
          simp only [Container.answersTo, Bool.or_eq_true,
            decide_eq_true_eq] at hanswers
          rcases hanswers with rfl | rfl
          · exact absurd hmem hid
          · exact absurd hmem hname
  · obtain ⟨hissued, horigin⟩ :=
      World.perform_origin (w := w) (fun command heq => hrun ⟨command, heq⟩) a
    exact owned_of_containers (by exact hissued) horigin

theorem owned_minted {command : DockerRun} {completed : Completed}
    (hstep : (host permitted).Step w (.dockerRun command) (.ok completed) w')
    (hzero : completed.returncode = 0) :
    Owned w' command.owner (strip completed.stdout) := by
  obtain ⟨a, hallows, hanswer, rfl⟩ := host_refines.performed hstep
  have hresult : a.result = .ok completed := hanswer.symm
  have hcreated : a.created = some (strip completed.stdout, true) := by
    simp only [World.allows, hresult, hzero, Bool.and_eq_true] at hallows
    simpa using hallows.1
  obtain ⟨-, hname, -, hall⟩ := World.allows_created hallows hcreated
  simp only [World.perform, hcreated, World.withContainer]
  refine ⟨List.mem_cons_self .., fun c hc hanswers => ?_⟩
  rcases List.mem_append.mp hc with hc | hc
  · rw [(hall c hc).1] at hanswers
    cases hanswers
  · obtain rfl := List.mem_singleton.mp hc
    exact ⟨rfl, rfl⟩

/-! ## Records name containers of their own deployment -/

theorem Tenanted.belonging (h : Tenanted s w) : Belonging s (Owned w) w := by
  intro d runtime hget
  have hkey : runtime.deploymentId = d := Table.key_of_get? hget
  have hbelongs : Belongs s (Owned w) runtime.deploymentId runtime :=
    h d runtime (.inl hget)
  rwa [hkey] at hbelongs

theorem Tenanted.restart (h : Tenanted s w) : Tenanted s (w.restart s) :=
  OnRecord.restart h

theorem init_tenanted : Tenanted s (.init s) := init_onRecord

theorem Tenanted.step (h : Tenanted s w) (hlocal : Local s (Owned w) d e)
    (hstep : (host permitted).Step w e r w') :
    Typed s (Owned w') e r ∧ Owned w ≤ Owned w' ∧ Tenanted s w' := by
  have hle := host_owned hstep
  refine ⟨?_, hle, ?_⟩
  · refine host_typed_of_belonging (fun d runtime hget =>
      (h.belonging d runtime hget).grow hle) hstep ?_
    rintro command completed heq hzero
    cases heq
    exact owned_minted hstep hzero
  · have hwritten := host_onRecord h (fun runtime heq => ?_) hstep
    · exact fun d runtime hget => (hwritten d runtime hget).grow hle
    · subst heq
      have hbelongs := hlocal.belongs
      rwa [hbelongs.1]

theorem Tenanted.quiet (h : Tenanted s w) (he : e.owner = none)
    (hstep : (host permitted).Step w e r w') : Tenanted s w' := by
  have hwritten := host_onRecord h (fun runtime heq => by
    subst heq
    cases he) hstep
  exact fun d runtime hget => (hwritten d runtime hget).grow (host_owned hstep)

/-- A call for a deployment about its own containers, or one for none at all. -/
def Tended (s : Settings) (w : World) (e : Effect) : Prop :=
  Tenanted s w ∧ (Framing e ∨ ∃ d, Local s (Owned w) d e)

section Handlers

variable {α : Type} {p : Agent α} (hM : Refines M)
include hM

theorem sat_tenant (hp : ∀ own, Owned w ≤ own →
      Within (Typed s own) (Local s own d) p fun _ => True)
    (h : Tenanted s w) :
    Sat M (fun w' e => Tenanted s w' ∧ Local s (Owned w') d e) p
      (fun _ w' => Tenanted s w' ∧ Owned w ≤ Owned w') w := by
  have hsat : Sat M (fun w' e => (Tenanted s w' ∧ Owned w ≤ Owned w') ∧
        Local s (Owned w') d e) p
      (fun _ w' => (Tenanted s w' ∧ Owned w ≤ Owned w') ∧ True) w := by
    have hmono : ∀ own own' : String → String → Prop, own ≤ own' →
        ∀ e r, Typed s own e r → Typed s own' e r :=
      fun _ _ hle _ _ => Typed.grow hle
    have hlocal : ∀ own, Owned w ≤ own →
        Always (Typed s own) (Local s own d) p fun _ => True :=
      fun own hle => (hp own hle).always
    refine Always.sat_growing (k := Owned)
      (I := fun w' => Tenanted s w' ∧ Owned w ≤ Owned w')
      hmono ?_ hlocal ⟨h, le_rfl⟩
    intro w₁ e r w₂ h₁ he hstep
    obtain ⟨htyped, hle, htenanted⟩ := h₁.1.step he (hM.host hstep)
    exact ⟨htyped, hle, htenanted, h₁.2.trans hle⟩
  exact hsat.mono (fun w' e h => ⟨h.1.1, h.2⟩) fun r w' h => h.1

theorem keeps_tenant {w₀ : World} (hp : ∀ own, Owned w₀ ≤ own →
      Within (Typed s own) (Local s own d) p fun _ => True) :
    Keeps M (Tended s) (fun w => Tenanted s w ∧ Owned w₀ ≤ Owned w) p := by
  intro w h
  refine (sat_tenant hM (fun own hle => hp own (h.2.trans hle)) h.1).mono ?_ ?_
  · exact fun w' e h' => ⟨h'.1, .inr ⟨d, h'.2⟩⟩
  · exact fun r w' h' => ⟨h'.1, h.2.trans h'.2⟩

theorem keeps_quiet (e : Effect) (he : Framing e) :
    Keeps M (Tended s) (Tenanted s) (perform e) :=
  keeps_perform (fun _ h => ⟨h, .inl he⟩) fun _ _ _ h hstep =>
    h.quiet he.owner_eq_none (hM.host hstep)

theorem handleLease_tended (lease : LeaseAssignment) :
    Keeps M (Tended s) (Tenanted s) (handleLease s lease) := fun w h =>
  ((keeps_tenant hM fun _ _ => handleLease_local rfl) w ⟨h, le_rfl⟩).weaken
    fun _ _ h => h.1

theorem keeps_snapshot {f : List UnifiedRuntimeRecord → Agent α}
    (hf : ∀ w₀, (∀ runtime ∈ w₀.runtimes.snapshot,
        Belongs s (Owned w₀) runtime.deploymentId runtime) →
      Keeps M (Tended s) (fun w => Tenanted s w ∧ Owned w₀ ≤ Owned w)
        (f w₀.runtimes.snapshot)) :
    Keeps M (Tended s) (Tenanted s) (snapshotRuntimeItems >>= f) := by
  intro w h
  refine sat_step_bind hM ⟨h, .inl trivial⟩ fun a _ hstep => ?_
  have hafter := h.quiet rfl (hM.host hstep)
  have hle := host_owned (hM.host hstep)
  refine ((hf w fun runtime hmem => h.belonging _ _
    (Table.mem_snapshot_iff.mp hmem)) _ ⟨hafter, hle⟩).weaken ?_
  exact fun _ _ h => h.1

theorem reconcileOnce_tended (hotkey : String) :
    Keeps M (Tended s) (Tenanted s) (reconcileOnce s hotkey) := by
  refine keeps_pass (L := fun _ => True) (keeps_quiet hM)
    (fun _ _ _ _ => trivial) (fun _ _ lease _ _ => handleLease_tended hM lease)
    fun leases _ => keeps_snapshot hM fun w₀ hbelongs => ?_
  refine keeps_forEach fun runtime hmem => ?_
  exact keeps_tenant hM fun own hle =>
    cleanUp_local ((hbelongs runtime hmem).grow hle) _ _

theorem recoverRuntimeState_tended :
    Keeps M (Tended s) (Tenanted s) (recoverRuntimeState s) := by
  refine keeps_recovery (keeps_quiet hM)
    (keeps_snapshot hM fun w₀ hbelongs => ?_)
  have hloop : ∀ (m n : Nat) (runtimes : List UnifiedRuntimeRecord),
      (∀ runtime ∈ runtimes,
        Belongs s (Owned w₀) runtime.deploymentId runtime) →
      Keeps M (Tended s) (fun w => Tenanted s w ∧ Owned w₀ ≤ Owned w)
        (recoverLoop s m n runtimes) := by
    intro m n runtimes hall
    induction runtimes generalizing m n with
    | nil => exact keeps_pure _
    | cons runtime rest ih =>
        have hrest := fun m n => ih m n fun other hmem =>
          hall other (List.mem_cons_of_mem _ hmem)
        unfold recoverLoop
        split
        · exact hrest m n
        · refine keeps_bind (keeps_tenant hM fun own hle => Within.weaken
            (recoverRuntime_local ((hall runtime (by simp)).grow hle))
            fun _ _ => trivial) fun kept => ?_
          split
          · exact hrest _ _
          · exact hrest _ _
  exact hloop 0 0 _ hbelongs

theorem terminateDeployment_tended (d : String) :
    Keeps M (Tended s) (Tenanted s) (terminateDeployment s d) := fun w h =>
  ((keeps_tenant hM fun _ _ => terminateDeployment_local d rfl) w
    ⟨h, le_rfl⟩).weaken fun _ _ h => h.1

theorem request_tended (request : Request) :
    Keeps M (Tended s) (Tenanted s) (request.program s) := by
  cases request with
  | reconcile hotkey => exact reconcileOnce_tended hM hotkey
  | recover =>
      exact keeps_bind (recoverRuntimeState_tended hM) fun _ => keeps_pure _
  | terminate d =>
      exact keeps_bind (terminateDeployment_tended hM d) fun _ => keeps_pure _

end Handlers

theorem crashRun_tenanted (hM : Refines M) (h : CrashRun s M w) :
    Tenanted s w :=
  h.keeps init_tenanted (fun request _ _ hw => request_tended hM request _ hw)
    (fun _ _ h => h.1) fun _ hw => hw.restart

end NodeAgent
