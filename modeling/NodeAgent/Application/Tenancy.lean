import NodeAgent.Application.Ownership
import NodeAgent.Application.Progress

/-!
# What one deployment has on the host

The record of a deployment, the devices held for it and its containers, as
calls for that deployment move them while docker does what it is told.  Calls
for other deployments can only stop or remove its containers.
-/

namespace NodeAgent

open Effectful Program Agent

def dockerWorks : Permitted
  | .dockerRun _, r | .dockerRm _ _, r | .dockerStop _ _, r
  | .dockerStart _ _, r => World.exitedZero r = true
  | _, _ => True

def Works (permitted : Permitted) : Prop :=
  ∀ e r, permitted e r → dockerWorks e r

structure Tenancy where
  record : Option UnifiedRuntimeRecord
  /-- The record that the state file has. -/
  filed : Option UnifiedRuntimeRecord
  held : Finset Nat
  containers : List Container
  /-- A `docker start` went out, and since then no record got to the file. -/
  revived : Bool

def Event.revives (d : String) : Event → Option Bool
  | ⟨.dockerStart b _, _⟩ => if b = d then some true else none
  | ⟨.upsertRuntime runtime, r⟩ =>
      if runtime.deploymentId = d ∧ World.isOk r = true then some false else none
  | ⟨.removeRuntime b, r⟩ =>
      if b = d ∧ World.isOk r = true then some false else none
  | _ => none

def World.tenancy (w : World) (d : String) : Tenancy where
  record := w.runtimes.get? d
  filed := w.stateFile.get? d
  held := w.allocator.getAllocation d
  containers := w.containers.filter fun c => c.owner = d
  revived := ((w.log.filterMap (Event.revives d)).getLast?).getD false

/-- Each container is one that was there, and runs only if that one did. -/
def Shrinks (after before : List Container) : Prop :=
  ∀ c ∈ after, ∃ c' ∈ before, c.id = c'.id ∧ c.name = c'.name ∧
    c.owner = c'.owner ∧ c.gpus = c'.gpus ∧
    (c.running = true → c'.running = true)

theorem Shrinks.refl (containers : List Container) :
    Shrinks containers containers :=
  fun c hc => ⟨c, hc, rfl, rfl, rfl, rfl, id⟩

theorem Shrinks.trans {l₁ l₂ l₃ : List Container} (h : Shrinks l₂ l₁)
    (h' : Shrinks l₃ l₂) : Shrinks l₃ l₁ := by
  intro c hc
  obtain ⟨c', hc', hid, hname, howner, hgpus, hrunning⟩ := h' c hc
  obtain ⟨c'', hc'', hid', hname', howner', hgpus', hrunning'⟩ := h c' hc'
  exact ⟨c'', hc'', hid.trans hid', hname.trans hname', howner.trans howner',
    hgpus.trans hgpus', fun hr => hrunning' (hrunning hr)⟩

theorem shrinks_filter (p : Container → Bool) (containers : List Container) :
    Shrinks (containers.filter p) containers :=
  fun c hc => ⟨c, (List.mem_filter.mp hc).1, rfl, rfl, rfl, rfl, id⟩

theorem shrinks_stop (p : Container → Bool) (containers : List Container) :
    Shrinks (containers.map fun c =>
      if p c then { c with running := false } else c) containers := by
  intro c hc
  obtain ⟨c', hc', rfl⟩ := List.mem_map.mp hc
  refine ⟨c', hc', ?_⟩
  by_cases hp : p c' <;> simp [hp]

theorem filter_map_owner {f : Container → Container} {d : String}
    (hf : ∀ c, (f c).owner = c.owner) (containers : List Container) :
    (containers.map f).filter (fun c => c.owner = d) =
      (containers.filter fun c => c.owner = d).map f := by
  induction containers with
  | nil => rfl
  | cons c rest ih =>
      by_cases hc : c.owner = d <;> simp [hf, hc, ih]

namespace Tenancy

/--
The record and the devices stay, the state file keeps its record or gets this
one, and the containers shrink.
-/
structure Fades (before after : Tenancy) : Prop where
  record : after.record = before.record
  filed : after.filed = before.filed ∨ after.filed = before.record
  held : after.held = before.held
  revived : after.revived = before.revived
  containers : Shrinks after.containers before.containers

theorem Fades.refl (v : Tenancy) : Fades v v :=
  ⟨rfl, .inl rfl, rfl, rfl, .refl _⟩

theorem Fades.trans {v₁ v₂ v₃ : Tenancy} (h : Fades v₁ v₂)
    (h' : Fades v₂ v₃) : Fades v₁ v₃ where
  record := h'.record.trans h.record
  filed := by
    rcases h'.filed with hfiled | hfiled
    · rw [hfiled]
      exact h.filed
    · exact .inr (hfiled.trans h.record)
  held := h'.held.trans h.held
  revived := h'.revived.trans h.revived
  containers := h.containers.trans h'.containers

theorem fades_of_shrinks {v : Tenancy} {containers : List Container}
    (h : Shrinks containers v.containers) :
    Fades v { v with containers := containers } :=
  ⟨rfl, .inl rfl, rfl, rfl, h⟩

def recorded (v : Tenancy) (record : Option UnifiedRuntimeRecord)
    (written : Bool) : Tenancy :=
  { v with
    record := record
    filed := if written then record else v.filed
    revived := if written then false else v.revived }

def ran (v : Tenancy) (command : DockerRun) (id : String) : Tenancy :=
  { v with containers := v.containers ++ [⟨id, command.name, command.owner,
      command.gpus, command.publish, true⟩] }

def removed (v : Tenancy) (target : String) : Tenancy :=
  { v with containers := v.containers.filter fun c => !c.answersTo target }

def stopped (v : Tenancy) (target : String) : Tenancy :=
  { v with containers := v.containers.map fun c =>
      if c.answersTo target then { c with running := false } else c }

def started (v : Tenancy) (target : String) : Tenancy :=
  { v with
    containers := v.containers.map fun c =>
      if c.answersTo target then { c with running := true } else c
    revived := true }

def Names (s : Settings) (runtime : UnifiedRuntimeRecord) (id : String) :
    Prop :=
  runtime.containerId = some id ∧
    (runtime.workloadKind = .pod → s.podBackend = .process)

def OnFile (v : Tenancy) (runtime : UnifiedRuntimeRecord) : Prop :=
  v.record = some runtime ∨ v.filed = some runtime

/-- A call for `d`, and what it does to what `d` has. -/
def OwnStep (s : Settings) (v : Tenancy) :
    (e : Effect) → Except Exn e.Ret → Tenancy → Prop
  | .allocate _ n _, r, v' =>
      (n ≤ 0 ∧ r = .ok [] ∧ v' = v) ∨
      (∃ message, r = .error (.gpuAllocationError message) ∧ v' = v) ∨
      (0 < n ∧ ∃ devices : List Nat, r = .ok devices ∧
        devices.length = n.toNat ∧ v' = { v with held := devices.toFinset })
  | .allocateSpecific _ devices, r, v' =>
      (devices = [] ∧ r = .ok [] ∧ v' = v) ∨
      (∃ message, r = .error (.gpuAllocationError message) ∧ v' = v) ∨
      (r = .ok (GpuAllocator.sortedDevices devices) ∧
        v' = { v with held := devices.toFinset })
  | .release _, _, v' => v' = { v with held := ∅ }
  | .getRuntime _, r, v' => r = .ok v.record ∧ v' = v
  | .upsertRuntime runtime, r, v' =>
      v' = v.recorded (some runtime) (World.isOk r)
  | .removeRuntime _, r, v' => v' = v.recorded none (World.isOk r)
  | .dockerRun command, r, v' =>
      ∃ completed, r = .ok completed ∧ completed.returncode = 0 ∧
        (∀ c ∈ v.containers, c.answersTo (strip completed.stdout) = false ∧
          c.name ≠ command.name) ∧
        (∀ runtime, OnFile v runtime →
          ¬Names s runtime (strip completed.stdout) ∧
            ¬Names s runtime command.name) ∧
        v' = v.ran command (strip completed.stdout)
  | .dockerRm _ target, r, v' =>
      World.exitedZero r = true ∧ v' = v.removed target
  | .dockerStop _ target, r, v' =>
      World.exitedZero r = true ∧ v' = v.stopped target
  | .dockerStart _ target, r, v' =>
      World.exitedZero r = true ∧
        (∀ c ∈ v.containers, c.answersTo target = true → c.id = target) ∧
        v' = v.started target
  | _, _, v' => v' = v

def machine (s : Settings) (permitted : Permitted) :
    Machine Effect Effect.Ret Exn Tenancy where
  Step v e r v' :=
    permitted e r ∧ Typed s anyContainer e r ∧ OwnStep s v e r v'

end Tenancy

/-! ## The host moves what a deployment has -/

variable {s : Settings} {permitted : Permitted} {w w' : World}
variable {d b : String} {e : Effect} {r : Except Exn e.Ret}

theorem revived_append {event : Event} (hlog : w'.log = w.log ++ [event]) :
    (w'.tenancy d).revived =
      (event.revives d).getD (w.tenancy d).revived := by
  unfold World.tenancy
  rw [hlog, List.filterMap_append]
  cases hevent : event.revives d <;> simp [hevent]

theorem World.perform_allocations {e : Effect}
    (he : touchesBooks e = false) (w : World) (a : Answer e) (d : String) :
    (w.perform e a).2.allocator.getAllocation d =
      w.allocator.getAllocation d := by
  rw [(perform_books he w a).2.2.1]

theorem tenancy_of_untouched (hbooks : World.touchesBooks e = false)
    (hcontainers : World.touchesContainers e = false)
    (hstep : (host permitted).Step w e r w') (d : String) :
    w'.tenancy d = w.tenancy d := by
  obtain ⟨a, -, rfl, rfl⟩ := host_refines.performed hstep
  have hrevived : (Event.mk e (w.perform e a).1).revives d = none := by
    cases e with
    | upsertRuntime runtime => simp [World.touchesBooks] at hbooks
    | removeRuntime c => simp [World.touchesBooks] at hbooks
    | dockerStart owner target => simp [World.touchesContainers] at hcontainers
    | _ => rfl
  have hsame : ((w.answer e a).2.tenancy d).revived =
      ((Event.mk e (w.perform e a).1).revives d).getD (w.tenancy d).revived :=
    revived_append rfl
  rw [hrevived, World.answer] at hsame
  unfold World.tenancy at hsame ⊢
  simp only [(World.perform_books hbooks w a).1,
    (World.perform_books hbooks w a).2.1, World.perform_allocations hbooks w a,
    (World.perform_containers hcontainers w a).1] at hsame ⊢
  rw [hsame]
  rfl

theorem exitedZero_ok {r : Except Exn Completed}
    (h : World.exitedZero r = true) :
    ∃ completed, r = .ok completed ∧ completed.returncode = 0 := by
  cases r with
  | ok completed => exact ⟨completed, rfl, by simpa [World.exitedZero] using h⟩
  | error x => cases h

theorem allocate_tenancy (n : Int) (avoid : Finset Nat)
    (a : Answer (.allocate d n avoid)) :
    Tenancy.OwnStep s (w.tenancy d) (.allocate d n avoid)
      (w.perform (.allocate d n avoid) a).1
      ((w.answer (.allocate d n avoid) a).2.tenancy d) := by
  rcases w.allocator.allocate_cases d n avoid with
    ⟨hn, h⟩ | ⟨-, message, h⟩ | ⟨hn, hle, h⟩
  · exact .inl ⟨hn, by simp [World.perform, h],
      by simp [World.answer, World.perform, World.tenancy, h, Event.revives]⟩
  · exact .inr (.inl ⟨message, by simp [World.perform, h],
      by simp [World.answer, World.perform, World.tenancy, h, Event.revives]⟩)
  · refine .inr (.inr ⟨hn, (w.allocator.usable avoid).take n.toNat,
      by simp [World.perform, h], ?_,
      by simp [World.answer, World.perform, World.tenancy, h,
        Event.revives]⟩)
    rw [List.length_take]
    omega

theorem allocateSpecific_tenancy (devices : List Nat)
    (a : Answer (.allocateSpecific d devices)) :
    Tenancy.OwnStep s (w.tenancy d) (.allocateSpecific d devices)
      (w.perform (.allocateSpecific d devices) a).1
      ((w.answer (.allocateSpecific d devices) a).2.tenancy d) := by
  rcases w.allocator.allocateSpecific_cases d devices with
    ⟨hn, h⟩ | ⟨-, ⟨message, h⟩, -⟩ | ⟨-, -, h⟩
  · exact .inl ⟨hn, by simp [World.perform, h],
      by simp [World.answer, World.perform, World.tenancy, h, Event.revives]⟩
  · exact .inr (.inl ⟨message, by simp [World.perform, h],
      by simp [World.answer, World.perform, World.tenancy, h, Event.revives]⟩)
  · exact .inr (.inr ⟨by simp [World.perform, h],
      by simp [World.answer, World.perform, World.tenancy, h,
        Event.revives]⟩)

theorem dockerRun_tenancy {command : DockerRun} (h : Tenanted s w)
    {a : Answer (.dockerRun command)}
    (hallows : w.allows (.dockerRun command) a = true)
    (hexit : World.exitedZero (w.perform (.dockerRun command) a).1 = true) :
    Tenancy.OwnStep s (w.tenancy command.owner) (.dockerRun command)
      (w.perform (.dockerRun command) a).1
      ((w.answer (.dockerRun command) a).2.tenancy command.owner) := by
  obtain ⟨completed, hresult, hzero⟩ := exitedZero_ok hexit
  have hcreated : a.created = some (strip completed.stdout, true) := by
    simp only [World.perform] at hresult
    simp only [World.allows, hresult, hzero, Bool.and_eq_true] at hallows
    simpa using hallows.1
  obtain ⟨hfresh, -, hname, hall⟩ := World.allows_created hallows hcreated
  have hissued : ∀ runtime, (w.tenancy command.owner).OnFile runtime →
      ∀ target, Tenancy.Names s runtime target → target ∈ w.issuedIds :=
    fun runtime hfile target hnames =>
      ((h _ runtime hfile).2 target hnames.1 hnames.2).1
  refine ⟨completed, hresult, hzero, fun c hc => ?_, ?_, ?_⟩
  · exact hall c (List.mem_filter.mp hc).1
  · exact fun runtime hfile =>
      ⟨fun hnames => hfresh (hissued runtime hfile _ hnames),
        fun hnames => hname (hissued runtime hfile _ hnames)⟩
  · simp [World.answer, World.perform, World.tenancy, hcreated,
      World.withContainer, Tenancy.ran, Event.revives, List.filter_append]

theorem filter_setRunning (w : World) (d target : String) (running : Bool) :
    (w.setRunning target running).containers.filter (·.owner = d) =
      (w.containers.filter (·.owner = d)).map fun c =>
        if c.answersTo target then { c with running := running } else c :=
  filter_map_owner (fun c => by
    by_cases hc : c.answersTo target = true <;> simp [hc]) w.containers

theorem host_tenancy (hworks : Works permitted) (h : Tenanted s w)
    (hlocal : Local s (Owned w) d e) (hstep : (host permitted).Step w e r w') :
    Tenancy.OwnStep s (w.tenancy d) e r (w'.tenancy d) := by
  have huntouched := fun hbooks hcontainers =>
    tenancy_of_untouched hbooks hcontainers hstep d
  have hr := hstep.1
  have hdocker := hworks e r hr
  obtain ⟨a, hallows, rfl, rfl⟩ := host_refines.performed hstep
  cases e with
  | allocate c n avoid =>
      obtain rfl : c = d := hlocal.owner_eq rfl
      exact allocate_tenancy n avoid a
  | allocateSpecific c devices =>
      obtain rfl : c = d := hlocal.owner_eq rfl
      exact allocateSpecific_tenancy devices a
  | release c =>
      obtain rfl : c = d := hlocal.owner_eq rfl
      simp [Tenancy.OwnStep, World.perform, World.tenancy, Event.revives]
  | getRuntime c =>
      obtain rfl : c = d := hlocal.owner_eq rfl
      exact ⟨rfl, huntouched rfl rfl⟩
  | upsertRuntime runtime =>
      obtain rfl : runtime.deploymentId = d := hlocal.owner_eq rfl
      cases hok : World.isOk a.result <;>
        simp [Tenancy.OwnStep, Tenancy.recorded, World.perform, World.tenancy,
          World.saved, Event.revives, Table.get?_upsert, hok]
  | removeRuntime c =>
      obtain rfl : c = d := hlocal.owner_eq rfl
      cases hok : World.isOk a.result <;>
        simp [Tenancy.OwnStep, Tenancy.recorded, World.perform, World.tenancy,
          World.saved, Event.revives, Table.get?_remove, hok]
  | dockerRun command =>
      obtain rfl : command.owner = d := hlocal.owner_eq rfl
      exact dockerRun_tenancy h hallows hdocker
  | dockerRm owner target =>
      obtain ⟨completed, hresult, hzero⟩ := exitedZero_ok hdocker
      have htook : a.tookEffect = true := by
        simp only [World.perform] at hresult
        simpa [World.allows, hresult, World.exitedZero, hzero] using hallows
      refine ⟨hdocker, ?_⟩
      simp [World.perform, World.tenancy, htook, World.withoutContainer,
        Tenancy.removed, Event.revives, List.filter_filter, Bool.and_comm]
  | dockerStop owner target =>
      obtain ⟨completed, hresult, hzero⟩ := exitedZero_ok hdocker
      have htook : a.tookEffect = true := by
        simp only [World.perform] at hresult
        simpa [World.allows, hresult, World.exitedZero, hzero] using hallows
      refine ⟨hdocker, ?_⟩
      simp only [World.perform, World.tenancy, htook, if_true, Tenancy.stopped,
        filter_setRunning]
      simp [Event.revives, World.setRunning]
  | dockerStart owner target =>
      obtain ⟨completed, hresult, hzero⟩ := exitedZero_ok hdocker
      obtain ⟨rfl, hown⟩ := hlocal.starts_own
      have htook : a.tookEffect = true := by
        simp only [World.perform] at hresult
        simp only [World.allows, hresult, World.exitedZero, hzero,
          decide_true, Bool.not_true, Bool.false_or, Bool.and_eq_true] at hallows
        exact hallows.1
      refine ⟨hdocker, fun c hc hanswers => ?_, ?_⟩
      · exact (hown.2 c (List.mem_filter.mp hc).1 hanswers).1
      · simp only [World.perform, World.tenancy, htook, if_true,
          Tenancy.started, filter_setRunning]
        simp [Event.revives, World.setRunning]
  | updateDeploymentStatus update =>
      simp [Tenancy.OwnStep, World.perform, World.tenancy, Event.revives]
  | _ => exact huntouched rfl rfl

theorem stateFile_perform {own : String → String → Prop}
    (hlocal : Local s own b e) (hb : d ≠ b) (a : Answer e) :
    (w.perform e a).2.stateFile.get? d = w.stateFile.get? d ∨
      (w.perform e a).2.stateFile.get? d = w.runtimes.get? d := by
  by_cases hbooks : World.touchesBooks e = false
  · exact .inl (congrArg (·.get? d) (World.perform_books hbooks w a).2.1)
  · cases e with
    | upsertRuntime runtime =>
        obtain rfl : runtime.deploymentId = b := hlocal.owner_eq rfl
        cases hok : World.isOk a.result <;>
          simp [World.perform, World.saved, hok, Table.get?_upsert, hb.symm]
    | removeRuntime c =>
        obtain rfl : c = b := hlocal.owner_eq rfl
        cases hok : World.isOk a.result <;>
          simp [World.perform, World.saved, hok, Table.get?_remove, hb.symm]
    | _ => first | exact .inl rfl | exact absurd rfl hbooks

theorem revives_of_local {own : String → String → Prop}
    (hlocal : Local s own b e) (hb : d ≠ b) :
    (Event.mk e r).revives d = none := by
  have hother : ∀ c, e.owner = some c → c ≠ d :=
    fun c hc heq => hb (heq ▸ hlocal.owner_eq hc)
  cases e with
  | dockerStart owner target => simp [Event.revives, hother owner rfl]
  | upsertRuntime runtime => simp [Event.revives, hother _ rfl]
  | removeRuntime c => simp [Event.revives, hother c rfl]
  | _ => rfl

theorem shrinks_perform (hlocal : Local s (Owned w) b e) (hb : d ≠ b)
    (a : Answer e) :
    Shrinks ((w.perform e a).2.tenancy d).containers
      (w.tenancy d).containers := by
  by_cases hcontainers : World.touchesContainers e = false
  · simp only [World.tenancy, (World.perform_containers hcontainers w a).1]
    exact .refl _
  · cases e with
    | dockerRun command =>
        obtain rfl : command.owner = b := hlocal.owner_eq rfl
        cases hcreated : a.created <;>
          simp [World.tenancy, World.perform, World.withContainer, hcreated,
            List.filter_append, hb.symm, Shrinks.refl]
    | dockerRm owner target =>
        by_cases htook : a.tookEffect
        · simp only [World.tenancy, World.perform, htook, if_true,
            World.withoutContainer]
          rw [List.filter_comm]
          exact shrinks_filter _ _
        · simp [World.tenancy, World.perform, htook, Shrinks.refl]
    | dockerStop owner target =>
        by_cases htook : a.tookEffect
        · simp only [World.tenancy, World.perform, htook, if_true,
            World.setRunning]
          rw [filter_map_owner (by intro c; split <;> rfl)]
          exact shrinks_stop _ _
        · simp [World.tenancy, World.perform, htook, Shrinks.refl]
    | dockerStart owner target =>
        by_cases htook : a.tookEffect
        · obtain ⟨rfl, hown⟩ := hlocal.starts_own
          simp only [World.tenancy, World.perform, htook, if_true,
            World.setRunning]
          rw [filter_map_owner (by intro c; split <;> rfl)]
          -- The target is a container of another deployment.
          have hsame : ∀ c ∈ w.containers.filter (fun c => c.owner = d),
              (if c.answersTo target then { c with running := true } else c) =
                id c := by
            intro c hc
            obtain ⟨hmem, howner⟩ := List.mem_filter.mp hc
            have howner : c.owner = d := by simpa using howner
            rw [if_neg]
            · rfl
            · exact fun hanswers =>
                hb (howner.symm.trans (hown.2 c hmem hanswers).2)
          rw [List.map_congr_left hsame, List.map_id]
          exact .refl _
        · simp [World.tenancy, World.perform, htook, Shrinks.refl]
    | _ => exact absurd rfl hcontainers

theorem host_fades (hlocal : Local s (Owned w) b e) (hb : d ≠ b)
    (hstep : (host permitted).Step w e r w') :
    Tenancy.Fades (w.tenancy d) (w'.tenancy d) := by
  have hframe := host_frame hlocal hstep hb
  obtain ⟨a, -, rfl, rfl⟩ := host_refines.performed hstep
  refine ⟨congrArg Ledger.record hframe, stateFile_perform hlocal hb a,
    congrArg Ledger.held hframe, ?_, shrinks_perform hlocal hb a⟩
  rw [revived_append rfl, revives_of_local hlocal hb]
  rfl

/-! ## Handlers -/

/-- Every other deployment has what it had, but for containers that stopped. -/
def Beside (d : String) (w w' : World) : Prop :=
  ∀ b, b ≠ d → Tenancy.Fades (w.tenancy b) (w'.tenancy b)

section Handlers

variable {α : Type} {p : Agent α}
variable {M : Machine Effect Effect.Ret Exn World}
variable {N : Machine Effect Effect.Ret Exn Tenancy}

theorem sat_tenancy (hM : Refines M)
    (hsim : ∀ w (e : Effect) r w', Tenanted s w → Local s (Owned w) d e →
      M.Step w e r w' → N.Step (w.tenancy d) e r (w'.tenancy d))
    (hp : ∀ own, Owned w ≤ own →
      Within (Typed s own) (Local s own d) p fun _ => True)
    (h : Tenanted s w) {guard : Tenancy → Effect → Prop}
    {post : Except Exn α → Tenancy → Prop}
    (hN : Sat N guard p post (w.tenancy d)) :
    Sat M (fun w' e => Tenanted s w' ∧ Local s (Owned w') d e ∧
        Beside d w w' ∧ guard (w'.tenancy d) e) p
      (fun r w' => Tenanted s w' ∧ Owned w ≤ Owned w' ∧ Beside d w w' ∧
        post r (w'.tenancy d)) w := by
  have htenant := sat_tenant hM hp h
  refine (htenant.both (Sat.simulate (R := fun w' v =>
    v = w'.tenancy d ∧ Beside d w w') ?_ ⟨rfl, fun _ _ => .refl _⟩
    (htenant.weaken fun _ _ _ => trivial) hN)).mono ?_ ?_
  · rintro w₁ _ e r w₂ ⟨rfl, hbeside⟩ ⟨htenanted, hlocal⟩ hstep
    refine ⟨_, hsim w₁ e r w₂ htenanted hlocal hstep, rfl, fun b hb => ?_⟩
    exact (hbeside b hb).trans (host_fades hlocal hb (hM.host hstep))
  · rintro w₁ e ⟨hcall, -, _, ⟨rfl, hbeside⟩, hguard⟩
    exact ⟨hcall.1, hcall.2, hbeside, hguard⟩
  · rintro r w₁ ⟨⟨htenanted, hle⟩, _, ⟨rfl, hbeside⟩, hpost⟩
    exact ⟨htenanted, hle, hbeside, hpost⟩

/-- A condition on what a deployment has that others cannot break. -/
def Enduring (P : Tenancy → Prop) : Prop :=
  ∀ v v', Tenancy.Fades v v' → P v → P v'

/-- Records name their own containers, and `d` has what the condition says. -/
def Tenants (s : Settings) (d : String) (P : Tenancy → Prop) (w : World) :
    Prop :=
  Tenanted s w ∧ P (w.tenancy d)

variable {P : Tenancy → Prop}

theorem tenants_undisturbed (hM : Refines M) :
    Undisturbed M (Tenants s d P) := by
  intro e he w r w' h hstep
  have hhost := hM.host hstep
  have hcontainers : World.touchesContainers e = false := by
    cases e <;> first | rfl | simp [Effect.owner] at he
  refine ⟨h.1.quiet he hhost, ?_⟩
  rw [tenancy_of_untouched (World.untouched_of_owner he) hcontainers hhost]
  exact h.2

variable (s) in
/-- Calls for other deployments keep what the condition says of `d`. -/
def Unaffected (M : Machine Effect Effect.Ret Exn World) (d : String)
    (P : Tenancy → Prop) : Prop :=
  ∀ b, b ≠ d → ∀ w (e : Effect) r w', Local s (Owned w) b e →
    M.Step w e r w' → P (w.tenancy d) → P (w'.tenancy d)

theorem Enduring.unaffected (hP : Enduring P) (hM : Refines M) :
    Unaffected s M d P :=
  fun _ hb _ _ _ _ hlocal hstep =>
    hP _ _ (host_fades hlocal hb.symm (hM.host hstep))

theorem sat_other (hM : Refines M) (hP : Unaffected s M d P) (hb : b ≠ d)
    (hp : ∀ own, Owned w ≤ own →
      Within (Typed s own) (Local s own b) p fun _ => True)
    (h : Tenants s d P w) :
    Sat M (fun w' _ => Tenants s d P w') p
      (fun _ w' => Tenants s d P w' ∧ Owned w ≤ Owned w') w := by
  have htenant := sat_tenant hM hp h.1
  refine (htenant.both (htenant.keeping (I := fun w' => P (w'.tenancy d)) ?_
    h.2)).mono (fun _ _ h' => ⟨h'.1.1, h'.2⟩)
    fun r w' h' => ⟨⟨h'.1.1, h'.2.2⟩, h'.1.2⟩
  exact fun w₁ e r w₂ hw₁ hguard hstep => hP b hb w₁ e r w₂ hguard.2 hstep hw₁

theorem cleanUp_other (hM : Refines M) (hP : Unaffected s M d P)
    {active fleet : List String} (hactive : d ∈ active)
    {runtimes : List UnifiedRuntimeRecord} {w₀ : World}
    (hbelongs : ∀ runtime ∈ runtimes,
      Belongs s (Owned w₀) runtime.deploymentId runtime) :
    Turns M (fun w => Tenants s d P w ∧ Owned w₀ ≤ Owned w) (Tenants s d P)
      (forEach (cleanUp s active fleet) runtimes) := by
  intro w h
  refine Sat.weaken (sat_forEach_ok (J := fun w =>
    Tenants s d P w ∧ Owned w₀ ≤ Owned w) (fun runtime hmem w₁ h₁ => ?_) h)
    fun r w' h' heq => (h' heq).1
  by_cases hid : runtime.deploymentId = d
  · rw [cleanUp, if_pos (hid ▸ hactive)]
    exact fun _ => h₁
  · refine (sat_other hM hP hid (fun own hle => cleanUp_local
      ((hbelongs runtime hmem).grow (h₁.2.trans hle)) _ _) h₁.1).mono
      (fun _ _ _ => trivial) ?_
    exact fun r w₂ h₂ _ => ⟨h₂.1, h₁.2.trans h₂.2⟩

theorem turns_held (hM : Refines M) {Q : Tenancy → Prop}
    (hP : Unaffected s M d P) (hQ : Unaffected s M d Q) {hotkey : String}
    {leases : List LeaseAssignment}
    (hlist : ∀ w r w', M.Step w (.listLeases hotkey) r w' → r = .ok leases)
    (hmine : ∃ lease ∈ leases, isMine s lease = true ∧ lease.deploymentId = d)
    (hhandle : ∀ lease ∈ leases, isMine s lease = true →
      lease.deploymentId = d →
      Turns M (Tenants s d P) (Tenants s d Q) (handleLease s lease))
    (hagain : ∀ lease ∈ leases, isMine s lease = true →
      lease.deploymentId = d →
      Turns M (Tenants s d Q) (Tenants s d Q) (handleLease s lease)) :
    Turns M (fun w => Tenants s d P w ∧ w.reconcileLock = false)
      (Tenants s d Q) (reconcileOnce s hotkey) := by
  have hother : ∀ {R : Tenancy → Prop}, Unaffected s M d R →
      ∀ lease : LeaseAssignment, lease.deploymentId ≠ d →
      Turns M (Tenants s d R) (Tenants s d R) (handleLease s lease) :=
    fun hR lease hne w h => (sat_other hM hR hne
      (fun _ _ => handleLease_local rfl) h).mono (fun _ _ _ => trivial)
      fun _ _ h' _ => h'.1
  refine turns_reconcileOnce (J := Tenants s d Q) hM hlist
    (tenants_undisturbed hM) (tenants_undisturbed hM)
    (tenants_undisturbed hM) (fun w hw => ?_) fun runtimes w hw => ?_
  · refine sat_forEach_once (P := fun lease => lease.deploymentId = d) ?_
      (fun lease _ hne => hother hP lease hne) (fun lease hmem hid => ?_)
      (fun lease hmem => ?_) hw
    · obtain ⟨lease, hmem, hmine, hid⟩ := hmine
      exact ⟨lease, List.mem_filter.mpr ⟨hmem, hmine⟩, hid⟩
    · obtain ⟨hmem, hmine⟩ := List.mem_filter.mp hmem
      exact hhandle lease hmem hmine hid
    · obtain ⟨hmem, hmine⟩ := List.mem_filter.mp hmem
      by_cases hid : lease.deploymentId = d
      · exact hagain lease hmem hmine hid
      · exact hother hQ lease hid
  · obtain ⟨hw, rfl⟩ := hw
    obtain ⟨lease, hmem, hmine, hid⟩ := hmine
    refine cleanUp_other hM hQ (List.mem_map.mpr
      ⟨lease, List.mem_filter.mpr ⟨hmem, hmine⟩, hid⟩) ?_ w ⟨hw, le_rfl⟩
    exact fun runtime hmem => hw.1.belonging _ _ (Table.mem_snapshot_iff.mp hmem)

end Handlers

end NodeAgent
