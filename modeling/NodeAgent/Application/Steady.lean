import NodeAgent.Application.Launch

/-!
# Records that account for running containers

In memory and in the state file, a deployment's record lists the GPUs of its
containers that run, before a container can run and until it is stopped.
-/

namespace NodeAgent

open Effectful Program Agent

namespace Tenancy

variable {s : Settings} {permitted : Permitted} {d : String} {α β : Type}
variable {v v' : Tenancy} {runtime : UnifiedRuntimeRecord} {c : Container}
variable {N : Machine Effect Effect.Ret Exn Tenancy}

def Uses (s : Settings) (c : Container) : Prop :=
  c.running = true ∧ c.devices s.gpuCount ≠ ∅

def Idle (s : Settings) (v : Tenancy) : Prop :=
  ∀ c ∈ v.containers, ¬Uses s c

/-- The record lists the container's GPUs. -/
def Lists (s : Settings) (runtime : UnifiedRuntimeRecord) (c : Container) :
    Prop :=
  c.devices s.gpuCount ⊆ (originalDevices runtime).toFinset

/-- A restart from the record gives the container's GPUs back. -/
def Secures (s : Settings) (runtime : UnifiedRuntimeRecord) (c : Container) :
    Prop :=
  holdsGpusOnRestart runtime = true ∧ Lists s runtime c

/-- A pod's record lists the GPUs of the container that it names. -/
def Pins (s : Settings) (runtime : UnifiedRuntimeRecord) (v : Tenancy) : Prop :=
  runtime.workloadKind = .pod → ∀ c ∈ v.containers, Names s runtime c.id →
    Lists s runtime c

/--
What memory and the state file have to say of the containers that use GPUs.  A
pod that is just being revived may have a record that is suspended.
-/
structure Steady (s : Settings) (v : Tenancy) : Prop where
  recorded : ∀ c ∈ v.containers, Uses s c → ∃ runtime,
    v.record = some runtime ∧ (Secures s runtime c ∨
      v.revived = true ∧ runtime.workloadKind = .pod ∧ Lists s runtime c)
  filed : ∀ c ∈ v.containers, Uses s c → v.revived = true ∨
    ∃ runtime, v.filed = some runtime ∧ Secures s runtime c
  pinned : ∀ runtime, OnFile v runtime → Pins s runtime v

/-- Calls that leave what is steady steady. -/
def Permits (s : Settings) (v : Tenancy) : Effect → Prop
  | .upsertRuntime runtime =>
      (∀ c ∈ v.containers, Uses s c → Secures s runtime c) ∧ Pins s runtime v
  | .removeRuntime _ => Idle s v
  | .dockerRun command => command.gpus.deviceSet s.gpuCount = ∅ ∨
      ∃ runtime, v.record = some runtime ∧ v.filed = some runtime ∧
        holdsGpusOnRestart runtime = true ∧
        command.gpus.deviceSet s.gpuCount ⊆ (originalDevices runtime).toFinset
  | .dockerStart _ target => ∃ runtime, v.record = some runtime ∧
      runtime.workloadKind = .pod ∧ Names s runtime target
  | _ => True

/-! ## Steps -/

theorem uses_of_shrinks {after before : List Container}
    (h : Shrinks after before) (hc : c ∈ after) (huses : Uses s c) :
    ∃ c' ∈ before, c.id = c'.id ∧ c.name = c'.name ∧
      c.devices s.gpuCount = c'.devices s.gpuCount ∧ Uses s c' := by
  obtain ⟨c', hc', hid, hname, -, hgpus, hrunning⟩ := h c hc
  have hdevices : c.devices s.gpuCount = c'.devices s.gpuCount :=
    congrArg (·.deviceSet s.gpuCount) hgpus
  exact ⟨c', hc', hid, hname, hdevices, hrunning huses.1,
    hdevices ▸ huses.2⟩

theorem Lists.of_eq {c' : Container}
    (h : Lists s runtime c) (heq : c'.devices s.gpuCount = c.devices s.gpuCount) :
    Lists s runtime c' := by
  rwa [Lists, heq]

theorem Pins.of_none (hid : runtime.containerId = none) :
    Pins s runtime v := by
  intro _ c _ hnames
  rw [hnames.1] at hid
  cases hid

theorem Pins.of_kind (hkind : runtime.workloadKind ≠ .pod) :
    Pins s runtime v := fun h => absurd h hkind

theorem Idle.fades (h : Idle s v) (hfades : Fades v v') : Idle s v' := by
  intro c hc huses
  obtain ⟨c', hc', -, -, -, huses'⟩ :=
    uses_of_shrinks hfades.containers hc huses
  exact h c' hc' huses'

theorem Pins.fades (h : Pins s runtime v) (hfades : Fades v v') :
    Pins s runtime v' := by
  intro hkind c hc hnames
  obtain ⟨c', hc', hid, -, -, hgpus, -⟩ := hfades.containers c hc
  exact (h hkind c' hc' (hid ▸ hnames)).of_eq
    (congrArg (·.deviceSet s.gpuCount) hgpus)

theorem steady_enduring : Enduring (Steady s) := by
  intro v v' hfades h
  have hrecorded : ∀ c ∈ v'.containers, Uses s c → ∃ runtime,
      v.record = some runtime ∧ (Secures s runtime c ∨
        v.revived = true ∧ runtime.workloadKind = .pod ∧ Lists s runtime c) := by
    intro c hc huses
    obtain ⟨c', hc', -, -, hdevices, huses'⟩ :=
      uses_of_shrinks hfades.containers hc huses
    obtain ⟨runtime, hget, hcovers⟩ := h.recorded c' hc' huses'
    refine ⟨runtime, hget, hcovers.imp ?_ ?_⟩
    · exact fun hsecures => ⟨hsecures.1, hsecures.2.of_eq hdevices⟩
    · exact fun ⟨hrevived, hkind, hlists⟩ =>
        ⟨hrevived, hkind, hlists.of_eq hdevices⟩
  constructor
  · rw [hfades.record, hfades.revived]
    exact hrecorded
  · intro c hc huses
    rw [hfades.revived]
    rcases hfades.filed with hfiled | hfiled
    · obtain ⟨c', hc', -, -, hdevices, huses'⟩ :=
        uses_of_shrinks hfades.containers hc huses
      rw [hfiled]
      refine (h.filed c' hc' huses').imp_right ?_
      exact fun ⟨runtime, hget, hsecures⟩ =>
        ⟨runtime, hget, hsecures.1, hsecures.2.of_eq hdevices⟩
    · rw [hfiled]
      obtain ⟨runtime, hget, hsecures | ⟨hrevived, -⟩⟩ := hrecorded c hc huses
      · exact .inr ⟨runtime, hget, hsecures⟩
      · exact .inl hrevived
  · intro runtime hfile
    refine Pins.fades (h.pinned runtime ?_) hfades
    rcases hfile with hget | hget
    · exact .inl (hfades.record ▸ hget)
    · rcases hfades.filed with hfiled | hfiled
      · exact .inr (hfiled ▸ hget)
      · exact .inl (hfiled ▸ hget)

theorem Steady.of_held (h : Steady s v) (held : Finset Nat) :
    Steady s { v with held := held } :=
  ⟨h.recorded, h.filed, h.pinned⟩

theorem Steady.recorded_step {record : Option UnifiedRuntimeRecord}
    {written : Bool} (h : Steady s v)
    (hsecures : ∀ c ∈ v.containers, Uses s c → ∃ runtime,
      record = some runtime ∧ Secures s runtime c)
    (hpins : ∀ runtime, record = some runtime → Pins s runtime v) :
    Steady s (v.recorded record written) := by
  constructor
  · intro c hc huses
    obtain ⟨runtime, hget, hsecures⟩ := hsecures c hc huses
    exact ⟨runtime, hget, .inl hsecures⟩
  · cases written with
    | true => exact fun c hc huses => .inr (hsecures c hc huses)
    | false => exact h.filed
  · rintro runtime (hget | hget)
    · exact hpins runtime hget
    · cases written with
      | true => exact hpins runtime hget
      | false => exact h.pinned runtime (.inr hget)

theorem Steady.ran (h : Steady s v) {command : DockerRun} {id : String}
    (hpermits : Permits s v (.dockerRun command))
    (hfresh : ∀ runtime, OnFile v runtime → ¬Names s runtime id) :
    Steady s (v.ran command id) := by
  have hnew : Uses s ⟨id, command.name, command.owner, command.gpus,
      command.publish, true⟩ → ∃ runtime, v.record = some runtime ∧
        v.filed = some runtime ∧ Secures s runtime ⟨id, command.name,
          command.owner, command.gpus, command.publish, true⟩ := by
    intro huses
    rcases hpermits with hnone | ⟨runtime, hrecord, hfiled, hholds, hlists⟩
    · exact absurd hnone huses.2
    · exact ⟨runtime, hrecord, hfiled, hholds, hlists⟩
  constructor
  · intro c hc huses
    rcases List.mem_append.mp hc with hc | hc
    · exact h.recorded c hc huses
    · obtain rfl := List.mem_singleton.mp hc
      obtain ⟨runtime, hrecord, -, hsecures⟩ := hnew huses
      exact ⟨runtime, hrecord, .inl hsecures⟩
  · intro c hc huses
    rcases List.mem_append.mp hc with hc | hc
    · exact h.filed c hc huses
    · obtain rfl := List.mem_singleton.mp hc
      obtain ⟨runtime, -, hfiled, hsecures⟩ := hnew huses
      exact .inr ⟨runtime, hfiled, hsecures⟩
  · intro runtime hfile hkind c hc hnames
    rcases List.mem_append.mp hc with hc | hc
    · exact h.pinned runtime hfile hkind c hc hnames
    · obtain rfl := List.mem_singleton.mp hc
      exact absurd hnames (hfresh runtime hfile)

theorem Steady.started (h : Steady s v) {target : String}
    (hget : v.record = some runtime) (hkind : runtime.workloadKind = .pod)
    (hnames : Names s runtime target)
    (hids : ∀ c ∈ v.containers, c.answersTo target = true → c.id = target) :
    Steady s (v.started target) := by
  have hmem : ∀ c ∈ (v.started target).containers, ∃ c' ∈ v.containers,
      c.id = c'.id ∧ c.gpus = c'.gpus ∧
        (c.running = c'.running ∨ c'.answersTo target = true) := by
    intro c hc
    obtain ⟨c', hc', rfl⟩ := List.mem_map.mp hc
    by_cases hanswers : c'.answersTo target = true
    · exact ⟨c', hc', by simp [hanswers], by simp [hanswers], .inr hanswers⟩
    · exact ⟨c', hc', by simp [hanswers], by simp [hanswers],
        .inl (by simp [hanswers])⟩
  constructor
  · intro c hc huses
    obtain ⟨c', hc', -, hgpus, hrunning⟩ := hmem c hc
    have hdevices : c.devices s.gpuCount = c'.devices s.gpuCount :=
      congrArg (·.deviceSet s.gpuCount) hgpus
    rcases hrunning with hrunning | hanswers
    · obtain ⟨other, hother, hcovers⟩ := h.recorded c' hc'
        ⟨hrunning ▸ huses.1, hdevices ▸ huses.2⟩
      refine ⟨other, hother, hcovers.imp ?_ ?_⟩
      · exact fun hsecures => ⟨hsecures.1, hsecures.2.of_eq hdevices⟩
      · exact fun ⟨_, hkind, hlists⟩ => ⟨rfl, hkind, hlists.of_eq hdevices⟩
    · refine ⟨runtime, hget, .inr ⟨rfl, hkind, ?_⟩⟩
      refine (h.pinned runtime (.inl hget) hkind c' hc' ?_).of_eq hdevices
      rwa [hids c' hc' hanswers]
  · exact fun _ _ _ => .inl rfl
  · intro other hfile hother c hc hid
    obtain ⟨c', hc', hsame, hgpus, -⟩ := hmem c hc
    exact (h.pinned other hfile hother c' hc' (hsame ▸ hid)).of_eq
      (congrArg (·.deviceSet s.gpuCount) hgpus)

theorem Steady.step {e : Effect} {r : Except Exn e.Ret} (h : Steady s v)
    (hpermits : Permits s v e) (hstep : OwnStep s v e r v') : Steady s v' := by
  cases e with
  | allocate owner n avoid =>
      rcases hstep with ⟨-, -, rfl⟩ | ⟨_, -, rfl⟩ | ⟨-, _, -, -, rfl⟩
      · exact h
      · exact h
      · exact h.of_held _
  | allocateSpecific owner devices =>
      rcases hstep with ⟨-, -, rfl⟩ | ⟨_, -, rfl⟩ | ⟨-, rfl⟩
      · exact h
      · exact h
      · exact h.of_held _
  | release owner =>
      obtain rfl := hstep
      exact h.of_held _
  | getRuntime owner =>
      obtain ⟨-, rfl⟩ := hstep
      exact h
  | upsertRuntime runtime =>
      obtain rfl := hstep
      refine h.recorded_step ?_ ?_
      · exact fun c hc huses => ⟨runtime, rfl, hpermits.1 c hc huses⟩
      · rintro _ ⟨⟩
        exact hpermits.2
  | removeRuntime owner =>
      obtain rfl := hstep
      exact h.recorded_step (fun c hc huses => absurd huses (hpermits c hc))
        (by simp)
  | dockerRun command =>
      obtain ⟨completed, -, -, -, hfresh, rfl⟩ := hstep
      exact h.ran hpermits fun runtime hfile => (hfresh runtime hfile).1
  | dockerRm owner target =>
      obtain ⟨-, rfl⟩ := hstep
      exact steady_enduring _ _ (fades_of_shrinks (shrinks_filter _ _)) h
  | dockerStop owner target =>
      obtain ⟨-, rfl⟩ := hstep
      exact steady_enduring _ _ (fades_of_shrinks (shrinks_stop _ _)) h
  | dockerStart owner target =>
      obtain ⟨-, hids, rfl⟩ := hstep
      obtain ⟨runtime, hget, hkind, hnames⟩ := hpermits
      exact h.started hget hkind hnames hids
  | _ =>
      obtain rfl := hstep
      exact h

/-! ## Launches -/

theorem names_of_stops (h : Stops s runtime c) :
    Names s runtime c.id ∨ Names s runtime c.name := by
  obtain ⟨htruthy, hanswers, hbackend⟩ := h
  have hprocess : runtime.workloadKind = .pod → s.podBackend = .process := by
    rintro hkind
    rcases hbackend with ⟨-, hs⟩ | ⟨hinference, -⟩
    · exact hs
    · rw [hkind] at hinference
      cases hinference
  cases hid : runtime.containerId with
  | none => simp [hid, truthy] at htruthy
  | some target =>
      rw [hid] at hanswers
      simp only [Option.getD_some, Container.answersTo, Bool.or_eq_true,
        decide_eq_true_eq] at hanswers
      rcases hanswers with rfl | rfl
      · exact .inl ⟨hid, hprocess⟩
      · exact .inr ⟨hid, hprocess⟩

theorem Stops.of_eq {c' : Container} (h : Stops s runtime c)
    (hid : c.id = c'.id) (hname : c.name = c'.name) : Stops s runtime c' :=
  ⟨h.1, answersTo_of_eq hid hname h.2.1, h.2.2⟩

/-- None of the containers that use GPUs is one that the record stops. -/
def Loose (s : Settings) (v : Tenancy) : Prop :=
  ∀ c ∈ v.containers, Uses s c → ∀ runtime, v.record = some runtime →
    ¬Stops s runtime c

theorem Idle.loose (h : Idle s v) : Loose s v :=
  fun c hc huses => absurd huses (h c hc)

section Launch

variable {docker : Prop} {name : String} {gpus : GpuRequest}
variable {r : Except Exn UnifiedRuntimeRecord}
variable (h : Outset s docker name gpus v r v') (hidle : Idle s v)
include h hidle

theorem Outset.uses (hc : c ∈ v'.containers) (huses : Uses s c) :
    c.gpus = gpus ∧ ∀ runtime, v'.record = some runtime →
      ¬Stops s runtime c := by
  rcases h with ⟨-, hfades⟩ | ⟨command, id, -, hgpus, hlaunched, -⟩
  · exact absurd huses (hidle.fades hfades c hc)
  · obtain ⟨v₁, hbefore, hfresh, hnames, hafter⟩ := hlaunched
    obtain ⟨c', hc', hid, hname, -, hsame, hrunning⟩ :=
      hafter.containers c hc
    have huses' : Uses s c' := ⟨hrunning huses.1, by
      rw [Container.devices, ← hsame]
      exact huses.2⟩
    rcases List.mem_append.mp hc' with hold | hnew
    · exact absurd huses' (hidle.fades hbefore c' hold)
    · obtain rfl := List.mem_singleton.mp hnew
      refine ⟨hsame.trans hgpus, fun runtime hget hstops => ?_⟩
      have hrecord : OnFile v₁ runtime := .inl (hafter.record ▸ hget)
      rcases names_of_stops (hstops.of_eq hid hname) with hnamed | hnamed
      · exact (hnames runtime hrecord).1 hnamed
      · exact (hnames runtime hrecord).2 hnamed

theorem Outset.loose : Loose s v' :=
  fun _ hc huses => (h.uses hidle hc huses).2

omit hidle in
theorem Outset.named {started : UnifiedRuntimeRecord}
    (hstarted : r = .ok started) (hdocker : docker) (hc : c ∈ v'.containers)
    (hid : started.containerId = some c.id) : c.gpus = gpus := by
  rcases h with ⟨hraises, -⟩ | ⟨command, id, -, hgpus, hlaunched, hnamed⟩
  · obtain ⟨x, hx⟩ := hraises hdocker
    rw [hstarted] at hx
    cases hx
  · obtain ⟨v₁, hbefore, hfresh, -, hafter⟩ := hlaunched
    obtain ⟨c', hc', hsame, -, -, hgpus', -⟩ := hafter.containers c hc
    have hnew : c.id = id := by
      have := (hnamed started hstarted).symm.trans hid
      simpa using this.symm
    rcases List.mem_append.mp hc' with hold | hnew'
    · have hanswers := (hfresh c' hold).1
      rw [Container.answersTo, ← hsame, hnew] at hanswers
      simp at hanswers
    · obtain rfl := List.mem_singleton.mp hnew'
      exact hgpus'.trans hgpus

end Launch

theorem secures_of_lists (hservice : InService runtime) (huses : Uses s c)
    (hlists : Lists s runtime c) : Secures s runtime c := by
  refine ⟨?_, hlists⟩
  have hdevices : originalDevices runtime ≠ [] := by
    intro hnone
    apply huses.2
    rw [Lists, hnone] at hlists
    simpa using hlists
  rcases hservice with hstatus | hstatus <;>
    simp [holdsGpusOnRestart, hstatus, hdevices]

theorem permits_launching {d : String} {gpus : GpuRequest}
    (hrecord : v.record = some runtime) (hfiled : v.filed = some runtime)
    (hservice : InService runtime)
    (hlisted : gpus.deviceSet s.gpuCount ⊆
      (originalDevices runtime).toFinset) {e : Effect}
    (h : Launching d gpus v v' e) : Permits s v' e := by
  cases e with
  | dockerRun command =>
      obtain ⟨rfl, hfades⟩ := h
      have hfiled' : v'.filed = some runtime := by
        rcases hfades.filed with heq | heq
        · exact heq.trans hfiled
        · exact heq.trans hrecord
      by_cases hnone : command.gpus.deviceSet s.gpuCount = ∅
      · exact .inl hnone
      · have hsecures := secures_of_lists (s := s) (c := ⟨"", "", "",
          command.gpus, [], true⟩) hservice ⟨rfl, hnone⟩ hlisted
        exact .inr ⟨runtime, hfades.record.trans hrecord, hfiled',
          hsecures.1, hlisted⟩
  | upsertRuntime _ => exact h.elim
  | removeRuntime _ => exact h.elim
  | dockerStart _ _ => exact h.elim
  | _ => exact trivial

theorem Outset.permits_ready {docker : Prop} {name : String} {gpus : GpuRequest}
    {started ready : UnifiedRuntimeRecord}
    (h : Outset s docker name gpus v (.ok started) v') (hidle : Idle s v)
    (hlisted : gpus.deviceSet s.gpuCount ⊆ (originalDevices ready).toFinset)
    (hservice : InService ready)
    (hid : ready.containerId = started.containerId)
    (hdocker : ready.workloadKind = .pod → s.podBackend = .process → docker) :
    Permits s v' (.upsertRuntime ready) := by
  have hlists : ∀ c : Container, c.gpus = gpus → Lists s ready c := by
    rintro c rfl
    exact hlisted
  constructor
  · intro c hc huses
    exact secures_of_lists hservice huses
      (hlists c (h.uses hidle hc huses).1)
  · intro hkind c hc hnames
    exact hlists c (h.named rfl (hdocker hkind (hnames.2 hkind)) hc
      (hid.symm.trans hnames.1))

/-! ## Handlers -/

def Releasable (s : Settings) (v : Tenancy) : Prop :=
  ∀ c ∈ v.containers, Uses s c → ∃ runtime, v.record = some runtime ∧
    Stops s runtime c

structure Prudent (s : Settings) (permitted : Permitted)
    (N : Machine Effect Effect.Ret Exn Tenancy) : Prop where
  obeys : Obeys s permitted N
  releases : ∀ v b r v', N.Step v (.release b) r v' → Releasable s v

theorem permits_of_stopCall {e : Effect} (h : StopCall anyContainer d e) :
    Permits s v e := by
  cases e <;> first | exact trivial | exact h.elim

theorem idle_of_halted (hget : v.record = some runtime)
    (hreleasable : Releasable s v) (hfades : Fades v v')
    (hhalted : Halted s runtime v') : Idle s v' := by
  intro c hc huses
  obtain ⟨c', hc', hid, hname, -, huses'⟩ :=
    uses_of_shrinks hfades.containers hc huses
  obtain ⟨recorded, hrecord, hstops⟩ := hreleasable c' hc' huses'
  obtain rfl : recorded = runtime := by
    simpa using hrecord.symm.trans hget
  have hstopped := hhalted c hc (hstops.of_eq hid.symm hname.symm)
  rw [huses.1] at hstopped
  cases hstopped

theorem typed_of_stopCall {own : String → String → Prop} {e : Effect}
    {r : Except Exn e.Ret} (he : StopCall own d e)
    (h : Typed s anyContainer e r) : Typed s own e r := by
  cases e with
  | popVolumeRecord b => rcases r with _ | _ | _ <;> exact h
  | getRuntime b => exact he.elim
  | snapshotRuntimeItems => exact he.elim
  | dockerRun command => exact he.elim
  | _ => trivial

section Handlers

variable (hN : Prudent s permitted N)
include hN

theorem permits_own {e : Effect} {post : Except Exn e.Ret → Tenancy → Prop}
    (he : Permits s v e)
    (h : ∀ r v', permitted e r → OwnStep s v e r v' → post r v') :
    Sat N (Permits s) (perform e) post v :=
  ⟨he, fun r v' hstep => h r v' (hN.obeys _ _ _ _ hstep).1
    (hN.obeys _ _ _ _ hstep).2.2⟩

theorem permits_files {p : Agent α} {Q : α → Prop}
    (hp : Within (Typed s anyContainer) (FileCall d) p Q) :
    Sat N (Permits s) p (fun r v' => (∀ a, r = .ok a → Q a) ∧ v' = v) v :=
  sat_files hN.obeys hp fun _ he => permits_of_stopCall he.stopCall

theorem permits_report (update : DeploymentStatusUpdate) :
    Sat N (Permits s) (report update) (fun _ v' => v' = v) v := by
  refine sat_ignoring.mpr (permits_own hN trivial ?_)
  rintro r v' - rfl
  cases r with
  | ok => rfl
  | error x => by_cases hx : x.isControlPlaneHTTPError <;> simp [hx]

theorem permits_release (b : String) :
    Sat N (Permits s) (release b) (fun _ v' => Releasable s v' ∧
      v' = { v with held := ∅ }) v := by
  refine ⟨trivial, fun r v' hstep => ?_⟩
  have hreleasable := hN.releases _ _ _ _ hstep
  obtain rfl := (hN.obeys _ _ _ _ hstep).2.2
  exact ⟨hreleasable, rfl⟩

theorem permits_abides {p : Agent α} {ends : Except Exn α → Prop}
    {post : Except Exn α → Tenancy → Prop}
    (h : Abides N (fun _ => True) p post v)
    (hp : Always (Typed s anyContainer) (StopCall anyContainer d) p ends) :
    Sat N (Permits s) p (fun r v' => post r v' ∧ ends r) v :=
  (h.both (sat_stops hN.obeys hp fun _ _ he => permits_of_stopCall he)).mono
    (fun _ _ h => h.2) fun _ _ h => ⟨h.1, h.2.1⟩

theorem failRuntime_permits (error : String) (hloose : Loose s v)
    (hpins : Pins s runtime v) :
    Sat N (Permits s) (failRuntime runtime error) (fun _ _ => True) v := by
  unfold failRuntime
  refine Sat.andThen (permits_release hN _) (by simp) fun _ v₁ h₁ => ?_
  obtain ⟨hreleasable, rfl⟩ := h₁
  have hidle : ∀ c ∈ v.containers, ¬Uses s c := by
    intro c hc huses
    obtain ⟨recorded, hget, hstops⟩ := hreleasable c hc huses
    exact hloose c hc huses recorded hget hstops
  refine Sat.andThen (m := fun _ _ => True) (permits_own hN ⟨?_, hpins⟩
    fun _ _ _ _ => trivial) (by simp) fun _ v₂ _ => ?_
  · exact fun c hc huses => absurd huses (hidle c hc)
  · exact (permits_report hN _).weaken fun _ _ _ => trivial

theorem terminateRuntime_permits (reported : Bool)
    (hget : v.record = some runtime) (hpins : Pins s runtime v) :
    Sat N (Permits s) (terminateRuntime s runtime reported)
      (fun r v' => r = .ok () → Idle s v') v := by
  have hany : Enduring fun _ => True := fun _ _ _ _ => trivial
  unfold terminateRuntime
  refine Sat.andThen (permits_release hN _) (by simp) fun _ v₁ h₁ => ?_
  obtain ⟨hreleasable, rfl⟩ := h₁
  have hpins₁ : Pins s runtime { v with held := ∅ } := hpins
  have hstop : Sat N (Permits s)
      (ignoring (fun _ => true) (stopBackend s runtime))
      (fun _ v' => Idle s v' ∧ Pins s runtime v') { v with held := ∅ } := by
    refine sat_ignoring.mpr ((permits_abides hN
      (stopBackend_abides hN.obeys hany rfl trivial)
      (stopBackend_stops (Ledger.belongs_any runtime)).always).weaken ?_)
    rintro r v' ⟨⟨hfades, hhalted⟩, -⟩
    have hidle := idle_of_halted (by exact hget) hreleasable hfades hhalted
    cases r <;> exact ⟨hidle, hpins₁.fades hfades⟩
  refine Sat.andThen hstop (by simp) fun _ v₂ h₂ => ?_
  have hwrite : Sat N (Permits s) (upsertRuntime { runtime with
      status := .terminated, currentStage := "terminated" })
      (fun _ v' => Idle s v') v₂ := by
    refine permits_own hN ⟨fun c hc huses => absurd huses (h₂.1 c hc), h₂.2⟩ ?_
    rintro r v' - rfl
    exact h₂.1
  refine Sat.andThen hwrite (by simp) fun _ v₃ h₃ => ?_
  refine sat_onlyIf.mpr ?_
  split
  · refine (permits_report hN _).weaken ?_
    rintro r v' rfl -
    exact h₃
  · exact fun _ => h₃

theorem suspendRuntime_permits (hget : v.record = some runtime)
    (hpins : Pins s runtime v) :
    Sat N (Permits s) (suspendRuntime s runtime) (fun _ _ => True) v := by
  have hany : Enduring fun _ => True := fun _ _ _ _ => trivial
  unfold suspendRuntime
  refine Sat.andThen (permits_release hN _) (by simp) fun _ v₁ h₁ => ?_
  obtain ⟨hreleasable, rfl⟩ := h₁
  have hpins₁ : Pins s runtime { v with held := ∅ } := hpins
  -- The record that is written names no container but the one it named.
  have hnamed : Belongs s (fun _ id => Names s runtime id)
      runtime.deploymentId runtime := ⟨rfl, fun c hid hkind => ⟨hid, hkind⟩⟩
  have hmarked : Always (Typed s anyContainer)
      (StopCall anyContainer runtime.deploymentId) (pausedOrMarked s runtime)
      _ := Always.widen ((pausedOrMarked_always hnamed).narrow fun e r he =>
        typed_of_stopCall he) fun e he => by
          cases e <;> first | exact he | exact ⟨he.1, .inr (.inr trivial)⟩
  have hpause : Abides N (fun _ => True) (pausedOrMarked s runtime)
      (fun _ v' => Idle s v' ∧ Pins s runtime v') { v with held := ∅ } := by
    refine sat_bind'.mpr (sat_attempt.mpr
      ((pauseBackend_abides hN.obeys hany rfl trivial).weaken ?_))
    rintro r v' ⟨hfades, hhalted⟩
    have hidle := idle_of_halted (by exact hget) hreleasable hfades hhalted
    cases r <;> exact ⟨hidle, hpins₁.fades hfades⟩
  refine Sat.andThen (permits_abides hN hpause hmarked) (by simp) ?_
  rintro _ v₂ ⟨⟨hidle, hpins₂⟩, paused, heq, ⟨-, hbelongs⟩, hkept, -⟩
  cases heq
  refine Sat.andThen (m := fun _ _ => True) (permits_own hN ⟨?_, ?_⟩
    fun _ _ _ _ => trivial) (by simp) fun _ v₃ _ => ?_
  · exact fun c hc huses => absurd huses (hidle c hc)
  · intro hkind c hc hnames
    have hlists := hpins₂ (hkept.workloadKind ▸ hkind) c hc
      (hbelongs c.id hnames.1 hnames.2)
    rwa [Lists, originalDevices, hkept.gpuDevices]
  · exact (permits_report hN _).weaken fun _ _ _ => trivial

/-! ### Starts -/

theorem allocateOrFail_permits (n : Int) (hidle : Idle s v)
    (hpins : Pins s runtime v) :
    Sat N (Permits s) (allocateOrFail runtime n) (fun r v' =>
      ∀ devices, r = .ok (some devices) →
        (∃ held, v' = { v with held := held }) ∧ (devices = [] → n ≤ 0)) v := by
  unfold allocateOrFail
  refine Sat.andThen (permits_files (d := runtime.deploymentId) hN
    (foreignBusyDevices_within fileCall_probe trivial)) (by simp)
    fun avoid v₁ h₁ => ?_
  obtain ⟨-, rfl⟩ := h₁
  refine sat_bind'.mpr (sat_attempt.mpr (permits_own hN trivial ?_))
  rintro r v' - hstep
  rw [andThen_ok]
  have hfail : ∀ text, v' = v₁ → Sat N (Permits s) (do
      failRuntime runtime text
      pure none) (fun r v' => ∀ devices : List Nat, r = .ok (some devices) →
        (∃ held, v' = { v₁ with held := held }) ∧ (devices = [] → n ≤ 0))
        v' := by
    rintro text rfl
    exact Sat.andThen (failRuntime_permits hN _ hidle.loose hpins) (by simp)
      fun _ _ _ => by simp
  rcases hstep with ⟨hn, rfl, rfl⟩ | ⟨message, rfl, rfl⟩ |
    ⟨hn, devices, rfl, hlength, rfl⟩
  · rintro devices heq
    cases heq
    exact ⟨⟨v'.held, rfl⟩, fun _ => hn⟩
  · exact hfail _ rfl
  · rintro _ heq
    cases heq
    refine ⟨⟨_, rfl⟩, fun hnone => ?_⟩
    subst hnone
    simp at hlength
    omega

theorem writeReady_permits {ready : UnifiedRuntimeRecord}
    (h : Permits s v (.upsertRuntime ready)) :
    Sat N (Permits s) (do
      upsertRuntime ready
      reportDeploymentReady ready) (fun _ _ => True) v := by
  refine Sat.andThen (m := fun _ _ => True)
    (permits_own hN h fun _ _ _ _ => trivial) (by simp) fun _ v₁ _ => ?_
  exact (permits_report hN _).weaken fun _ _ _ => trivial

theorem upsert_permits (hidle : Idle s v) (hpins : Pins s runtime v) :
    Sat N (Permits s) (upsertRuntime runtime) (fun r v' => r = .ok () →
      Idle s v' ∧ v'.record = some runtime ∧ v'.filed = some runtime) v := by
  refine permits_own hN
    ⟨fun c hc huses => absurd huses (hidle c hc), hpins⟩ ?_
  rintro r v' - rfl rfl
  exact ⟨hidle, rfl, rfl⟩

theorem launchInference_permits (hkind : runtime.workloadKind = .inference)
    (hidle : Idle s v) (hdevices : originalDevices runtime ≠ [])
    (workload : WorkloadSpec) (artifact : ArtifactBundle) :
    Sat N (Permits s) (launchInference s runtime workload artifact)
      (fun _ _ => True) v := by
  unfold launchInference
  have hpod : ∀ other : UnifiedRuntimeRecord,
      other.workloadKind = .inference → other.workloadKind ≠ .pod := by
    intro other h
    rw [h]
    nofun
  refine Sat.andThen (permits_files (d := runtime.deploymentId) hN
    (Q := fun _ => True) (within_perform rfl fun _ _ => trivial)) (by simp)
    fun dir v₁ h₁ => ?_
  obtain ⟨-, rfl⟩ := h₁
  generalize hstarting :
    startingInference s runtime workload artifact dir = starting
  have hstart : starting.workloadKind = .inference ∧
      starting.status = .starting ∧
      originalDevices starting = originalDevices runtime := by
    subst hstarting
    exact ⟨hkind, rfl, rfl⟩
  refine Sat.andThen (upsert_permits hN hidle
    (.of_kind (hpod _ hstart.1))) (by simp) fun _ v₂ h₂ => ?_
  obtain ⟨hidle₂, hrecord, hfiled⟩ := h₂ rfl
  have hlisted := (gpuDockerFlags_deviceSet
    (show originalDevices starting ≠ [] from hstart.2.2 ▸ hdevices)
    s.gpuCount).le
  have hbelongs := Ledger.belongs_any (s := s) starting
  refine sat_bind'.mpr (sat_attempt.mpr (((startRuntime_outset hN.obeys
    hstart.1 artifact).mono (fun v e h => permits_launching hrecord hfiled
      (.inl hstart.2.1) hlisted h) (fun _ _ h => h)).both
    ((startRuntime_within hstart.1 hbelongs artifact).sat (M := N)
      fun v e r v' _ hstep => (hN.obeys v e r v' hstep).2.1) |>.mono
    (fun _ _ h => h.1) ?_))
  rintro r v₃ ⟨houtset, hstarted⟩
  rw [andThen_ok]
  split
  · rename_i started
    obtain ⟨-, hkept, hstatus⟩ := hstarted started rfl
    refine writeReady_permits hN (houtset.permits_ready hidle₂ ?_ (.inr rfl)
      rfl fun hkind => ?_)
    · rwa [show originalDevices (readyInference s started) =
        originalDevices starting from hkept.originalDevices]
    · exact absurd hkind (hpod _ (hkept.workloadKind.trans hstart.1))
  · exact failRuntime_permits hN _ (houtset.loose hidle₂)
      (.of_kind (hpod _ hstart.1))
  · trivial

theorem startInferenceRuntime_permits
    (hkind : runtime.workloadKind = .inference) (hidle : Idle s v)
    {workload : WorkloadSpec} (hfloor : 1 ≤ requestedGpus workload) :
    Sat N (Permits s) (startInferenceRuntime s runtime workload)
      (fun _ _ => True) v := by
  have hpod : runtime.workloadKind ≠ .pod := by
    rw [hkind]
    nofun
  unfold startInferenceRuntime
  refine Sat.andThen (allocateOrFail_permits hN (requestedGpus workload) hidle
    (.of_kind hpod)) (by simp) fun found v₁ h₁ => ?_
  cases found with
  | none => trivial
  | some devices =>
      obtain ⟨⟨held, rfl⟩, hsome⟩ := h₁ devices rfl
      have hidle₁ : Idle s { v with held := held } := hidle
      dsimp only
      generalize hallocated : ({ withGpus runtime devices
        (requestedGpus workload) with
          gpuFraction := (requestedGpus workload : ℚ) } :
            UnifiedRuntimeRecord) = allocated
      have hallocated : allocated.workloadKind = .inference ∧
          originalDevices allocated ≠ [] := by
        subst hallocated
        refine ⟨hkind, fun hnone => ?_⟩
        have := hsome hnone
        omega
      refine sat_bind'.mpr (sat_attempt.mpr ((permits_files hN
        (stageFor_files rfl workload)).weaken fun r v₂ h₂ => ?_))
      obtain ⟨-, rfl⟩ := h₂
      rw [andThen_ok]
      split
      · exact launchInference_permits hN hallocated.1 hidle₁ hallocated.2 _ _
      · refine failRuntime_permits hN _ hidle₁.loose (.of_kind ?_)
        rw [hallocated.1]
        nofun
      · trivial

theorem launchPod_permits (hkind : runtime.workloadKind = .pod)
    (hid : runtime.containerId = none) (hidle : Idle s v)
    (workload : WorkloadSpec) {setup : PodSetup}
    (hsetup : setup.devices = [] → setup.gpuCount ≤ 0) :
    Sat N (Permits s) (launchPod s runtime workload setup)
      (fun _ _ => True) v := by
  unfold launchPod
  generalize hstarting : startingPod s runtime workload setup = starting
  have hstart : starting.workloadKind = .pod ∧ starting.containerId = none ∧
      starting.status = .starting ∧
      (originalDevices starting = [] → starting.gpuFraction ≤ 0) := by
    subst hstarting
    refine ⟨hkind, hid, rfl, fun hnone => ?_⟩
    have hcount : (setup.gpuCount : ℚ) ≤ 0 := by exact_mod_cast hsetup hnone
    exact hcount
  refine Sat.andThen (upsert_permits hN hidle (.of_none hstart.2.1)) (by simp)
    fun _ v₁ h₁ => ?_
  obtain ⟨hidle₁, hrecord, hfiled⟩ := h₁ rfl
  have hlisted := (podGpus_deviceSet hstart.2.2.2 s.gpuCount).le
  have hbelongs := Ledger.belongs_any (s := s) starting
  refine sat_bind'.mpr (sat_attempt.mpr (((startPod_outset hN.obeys
    workload).mono (fun v e h => permits_launching hrecord hfiled
      (.inl hstart.2.2.1) hlisted h) (fun _ _ h => h)).both
    ((startPod_within hstart.1 hbelongs workload).sat (M := N)
      fun v e r v' _ hstep => (hN.obeys v e r v' hstep).2.1) |>.mono
    (fun _ _ h => h.1) ?_))
  rintro r v₂ ⟨houtset, hstarted⟩
  rw [andThen_ok]
  split
  · rename_i started
    obtain ⟨-, hkept, hstatus⟩ := hstarted started rfl
    refine Sat.andThen (permits_files (d := runtime.deploymentId) hN
      (waitForReady_within fileCall_probe s started)) (by simp)
      fun verified v₃ h₃ => ?_
    obtain ⟨-, rfl⟩ := h₃
    refine writeReady_permits hN (houtset.permits_ready hidle₁ ?_
      (.inr hstatus) rfl fun _ hs => hs)
    rwa [show originalDevices (readyPod started verified) =
      originalDevices starting from hkept.originalDevices]
  · exact failRuntime_permits hN _ (houtset.loose hidle₁) (.of_none hstart.2.1)
  · trivial

theorem startPodRuntime_permits (hkind : runtime.workloadKind = .pod)
    (hid : runtime.containerId = none) (hidle : Idle s v)
    (workload : WorkloadSpec) :
    Sat N (Permits s) (startPodRuntime s runtime workload)
      (fun _ _ => True) v := by
  have hprobe : ∀ question, FileCall runtime.deploymentId (.probe question) :=
    fileCall_probe
  unfold startPodRuntime
  refine sat_bind'.mpr (sat_attempt.mpr ((permits_files hN
    (setUpSsh_within hprobe s)).weaken fun r v₁ h₁ => ?_))
  obtain ⟨-, rfl⟩ := h₁
  rw [andThen_ok]
  cases r with
  | error x =>
      dsimp only
      split
      · exact failRuntime_permits hN _ hidle.loose (.of_none hid)
      · trivial
  | ok ssh =>
      obtain ⟨sshPort, privateKey, publicKey⟩ := ssh
      refine Sat.andThen (permits_files hN (assignPorts_within hprobe _ _ _))
        (by simp) fun ports v₂ h₂ => ?_
      obtain ⟨-, rfl⟩ := h₂
      refine Sat.andThen (allocateOrFail_permits hN _ hidle (.of_none hid))
        (by simp) fun found v₃ h₃ => ?_
      cases found with
      | none => trivial
      | some devices =>
          obtain ⟨⟨held, rfl⟩, hsome⟩ := h₃ devices rfl
          dsimp only
          split
          · trivial
          · refine sat_bind'.mpr (sat_attempt.mpr (permits_own hN trivial ?_))
            rintro r v₄ - rfl
            rw [andThen_ok]
            split
            · split
              · exact failRuntime_permits hN _ (Idle.loose hidle)
                  (.of_none hid)
              · trivial
            · refine Sat.andThen (m := fun _ v' => Idle s v')
                (permits_own hN trivial ?_) (by simp) fun _ v₅ h₅ => ?_
              · rintro r v₅ - rfl
                exact hidle
              · exact launchPod_permits hN hkind hid h₅ workload hsome

theorem startVmRuntime_permits (hkind : runtime.workloadKind ≠ .pod)
    (hidle : Idle s v) (workload : WorkloadSpec) :
    Sat N (Permits s) (startVmRuntime s runtime workload)
      (fun _ _ => True) v := by
  unfold startVmRuntime
  refine Sat.andThen (allocateOrFail_permits hN (requestedGpus workload) hidle
    (.of_kind hkind)) (by simp) fun found v₁ h₁ => ?_
  cases found with
  | none => trivial
  | some devices =>
      obtain ⟨⟨held, rfl⟩, -⟩ := h₁ devices rfl
      dsimp only
      generalize hstarting :
        startingVm runtime devices (requestedGpus workload) = starting
      have hstart : starting.workloadKind ≠ .pod := by
        subst hstarting
        exact hkind
      refine Sat.andThen (upsert_permits hN (by exact hidle)
        (.of_kind hstart)) (by simp) fun _ v₂ h₂ => ?_
      obtain ⟨hidle₂, -, -⟩ := h₂ rfl
      have hbelongs := Ledger.belongs_any (s := s) starting
      refine sat_bind'.mpr (sat_attempt.mpr ((permits_files hN
        (startVm_files hbelongs)).weaken fun r v₃ h₃ => ?_))
      obtain ⟨hstarted, rfl⟩ := h₃
      rw [andThen_ok]
      split
      · rename_i started
        obtain ⟨-, hkept, -⟩ := hstarted started rfl
        refine writeReady_permits hN
          ⟨fun c hc huses => absurd huses (hidle₂ c hc), .of_kind ?_⟩
        rw [show (readyVm s started).workloadKind = starting.workloadKind
          from hkept.workloadKind]
        exact hstart
      · exact failRuntime_permits hN _ hidle₂.loose (.of_kind hstart)
      · trivial

theorem dispatch_permits (hid : runtime.containerId = none)
    {workload : WorkloadSpec} (hkind : runtime.workloadKind = workload.kind)
    (hidle : Idle s v) (hgpus : 1 ≤ requestedGpus workload) :
    Sat N (Permits s) (dispatch s runtime workload) (fun _ _ => True) v := by
  unfold dispatch
  split
  · exact startInferenceRuntime_permits hN (hkind.trans (by assumption)) hidle
      hgpus
  · exact startPodRuntime_permits hN (hkind.trans (by assumption)) hid hidle _
  · refine startVmRuntime_permits hN ?_ hidle _
    rw [hkind.trans (by assumption)]
    nofun
  · exact failRuntime_permits hN _ hidle.loose (.of_none hid)

variable (hfloor : Floored permitted)
include hfloor

theorem startLease_permits (lease : LeaseAssignment) (hidle : Idle s v) :
    Sat N (Permits s) (startLease s lease) (fun _ _ => True) v := by
  have hupdate : ∀ (update : DeploymentStatusUpdate) v₁,
      Sat N (Permits s) (updateDeploymentStatus update) (fun _ _ => True) v₁ :=
    fun update v₁ => permits_own hN trivial fun _ _ _ _ => trivial
  have hreconcile : Sat N (Permits s) (reconcileWorkload s lease)
      (fun _ _ => True) v := by
    unfold reconcileWorkload
    refine Sat.andThen (m := fun r v' => v' = v ∧ ∀ workload,
      r = .ok (some workload) → 1 ≤ requestedGpus workload)
      (permits_own hN trivial ?_) (by simp) ?_
    · rintro r v' hr rfl
      refine ⟨rfl, ?_⟩
      rintro workload rfl
      exact hfloor _ _ hr
    · rintro found _ ⟨rfl, hgpus⟩
      cases found with
      | none => exact hupdate _ _
      | some workload =>
          refine Sat.andThen (upsert_permits hN hidle (.of_none rfl))
            (by simp) fun _ v₂ h₂ => ?_
          exact dispatch_permits hN rfl rfl (h₂ rfl).1
            (hgpus workload rfl)
  unfold startLease
  refine sat_bind'.mpr (sat_attempt.mpr (hreconcile.weaken fun r v₁ _ => ?_))
  rw [andThen_ok]
  cases r with
  | ok => trivial
  | error x =>
      refine sat_ignoring.mpr ((hupdate _ _).weaken fun r v₂ _ => ?_)
      cases r <;> simp

/-! ### Resuming -/

omit hN hfloor in
theorem Steady.lists_of_suspended (h : Steady s v)
    (hget : v.record = some runtime) (hstatus : runtime.status = .suspended)
    (hc : c ∈ v.containers) (huses : Uses s c) :
    runtime.workloadKind = .pod ∧ Lists s runtime c := by
  obtain ⟨recorded, hrecord, hcovers⟩ := h.recorded c hc huses
  obtain rfl : recorded = runtime := by simpa using hrecord.symm.trans hget
  rcases hcovers with hsecures | ⟨-, hkind, hlists⟩
  · simp [Secures, holdsGpusOnRestart, hstatus] at hsecures
  · exact ⟨hkind, hlists⟩

omit hN hfloor in
theorem Steady.idle_of_none (h : Steady s v) (hget : v.record = none) :
    Idle s v := by
  intro c hc huses
  obtain ⟨recorded, hrecord, -⟩ := h.recorded c hc huses
  rw [hget] at hrecord
  cases hrecord

omit hN hfloor in
theorem Lists.of_devices {other : UnifiedRuntimeRecord}
    (h : Lists s runtime c) (hdevices : originalDevices runtime ≠ [] →
      (originalDevices other).toFinset = (originalDevices runtime).toFinset) :
    Lists s other c := by
  by_cases hnone : originalDevices runtime = []
  · have hempty : c.devices s.gpuCount = ∅ := by
      rw [Lists, hnone] at h
      simpa using h
    rw [Lists, hempty]
    exact Finset.empty_subset _
  · rwa [Lists, hdevices hnone]

omit hfloor in
theorem reacquire_permits :
    Sat N (Permits s) (reacquire runtime) (fun r v' =>
      (∃ held, v' = { v with held := held }) ∧ ∀ devices, r = .ok devices →
        runtime.workloadKind = .pod → originalDevices runtime ≠ [] →
          devices.toFinset = (originalDevices runtime).toFinset) v := by
  unfold reacquire
  split
  · refine permits_own hN trivial ?_
    rintro r v' - (⟨hnone, rfl, rfl⟩ | ⟨message, rfl, rfl⟩ | ⟨rfl, rfl⟩)
    · exact ⟨⟨v'.held, rfl⟩, fun _ heq _ hsome => absurd hnone hsome⟩
    · exact ⟨⟨v'.held, rfl⟩, by simp⟩
    · refine ⟨⟨_, rfl⟩, fun devices heq _ _ => ?_⟩
      cases heq
      ext x
      simp [GpuAllocator.sortedDevices, List.mem_insertionSort]
  · rename_i hpinned
    have hother : ∀ devices : List Nat, runtime.workloadKind = .pod →
        originalDevices runtime ≠ [] →
          devices.toFinset = (originalDevices runtime).toFinset :=
      fun _ hkind hsome => absurd ⟨hkind, hsome⟩ hpinned
    refine Sat.bind (permits_files (d := runtime.deploymentId) hN
      (foreignBusyDevices_within fileCall_probe trivial)) ?_ ?_
    · rintro avoid v₁ ⟨-, rfl⟩
      refine permits_own hN trivial ?_
      rintro r v' - (⟨-, rfl, rfl⟩ | ⟨_, rfl, rfl⟩ | ⟨-, _, rfl, -, rfl⟩)
      · exact ⟨⟨v'.held, rfl⟩, fun devices _ => hother devices⟩
      · exact ⟨⟨v'.held, rfl⟩, by simp⟩
      · exact ⟨⟨_, rfl⟩, fun devices _ => hother devices⟩
    · rintro x v₁ ⟨-, rfl⟩
      exact ⟨⟨v₁.held, rfl⟩, by simp⟩

omit hfloor in
theorem resumePod_permits {resuming : UnifiedRuntimeRecord}
    (hsteady : Steady s v) (hget : v.record = some runtime)
    (hkind : runtime.workloadKind = .pod)
    (hid : resuming.containerId = runtime.containerId) :
    Sat N (Permits s) (PodBackend.resumePod s resuming) (fun r v' =>
      Steady s v' ∧ v'.record = some runtime ∧ r = .ok { resuming with
        status := .ready, currentStage := "ready" }) v := by
  unfold PodBackend.resumePod
  split
  · rename_i hs
    unfold ProcessPodBackend.resumePod ProcessPodBackend.restartContainer
    split
    · rename_i hcontainer
      have hnames : Names s runtime (resuming.containerId.getD "") := by
        refine ⟨?_, fun _ => hs⟩
        rw [hid] at hcontainer ⊢
        cases hnone : runtime.containerId with
        | none => simp [hnone, truthy] at hcontainer
        | some target => rfl
      have hstart : Sat N (Permits s)
          (dockerStart resuming.deploymentId (resuming.containerId.getD ""))
          (fun r v' => ∃ completed, r = .ok completed ∧
            completed.returncode = 0 ∧ Steady s v' ∧
              v'.record = some runtime) v := by
        refine permits_own hN ⟨runtime, hget, hkind, hnames⟩ ?_
        rintro r v' - ⟨hzero, hids, rfl⟩
        obtain ⟨completed, rfl, hcode⟩ := exitedZero_ok hzero
        exact ⟨completed, rfl, hcode, hsteady.started hget hkind hnames hids,
          hget⟩
      unfold orNotAvailable
      refine sat_bind'.mpr (sat_bind'.mpr (sat_bind'.mpr (sat_attempt.mpr
        (hstart.weaken ?_))))
      rintro r v' ⟨completed, rfl, hcode, hsteady', hget'⟩
      simp only [andThen_ok, sat_pure, hcode]
      exact ⟨hsteady', hget', rfl⟩
    · exact ⟨hsteady, hget, rfl⟩
  · exact ⟨hsteady, hget, rfl⟩

omit hfloor in
theorem resumePodRuntime_permits {resuming : UnifiedRuntimeRecord}
    (hsteady : Steady s v) (hget : v.record = some runtime)
    (hstatus : runtime.status = .suspended)
    (hkind : runtime.workloadKind = .pod)
    (hid : resuming.containerId = runtime.containerId)
    (hdevices : originalDevices runtime ≠ [] →
      (originalDevices resuming).toFinset =
        (originalDevices runtime).toFinset) :
    Sat N (Permits s) (resumePodRuntime s resuming) (fun _ _ => True) v := by
  unfold resumePodRuntime
  refine sat_bind'.mpr (sat_attempt.mpr
    ((resumePod_permits hN hsteady hget hkind hid).weaken ?_))
  rintro r v₁ ⟨hsteady₁, hget₁, rfl⟩
  rw [andThen_ok]
  refine writeReady_permits hN ⟨fun c hc huses => ?_, fun _ c hc hnames => ?_⟩
  · have hlists := (hsteady₁.lists_of_suspended hget₁ hstatus hc huses).2
    exact secures_of_lists (.inr rfl) huses (hlists.of_devices hdevices)
  · have hnamed : Names s runtime c.id :=
      ⟨hid.symm.trans hnames.1, fun _ => hnames.2 (by assumption)⟩
    exact (hsteady₁.pinned runtime (.inl hget₁) hkind c hc hnamed).of_devices
      hdevices

theorem workloadToResume_permits :
    Sat N (Permits s) (workloadToResume runtime) (fun r v' => v' = v ∧
      ∀ workload, r = .ok (some workload) → 1 ≤ requestedGpus workload) v := by
  unfold workloadToResume
  refine sat_bind'.mpr (sat_attempt.mpr (permits_own hN trivial ?_))
  rintro r v' hr rfl
  rw [andThen_ok]
  cases r with
  | ok found =>
      refine ⟨rfl, fun workload heq => ?_⟩
      cases heq
      exact hfloor _ _ hr
  | error x =>
      dsimp only
      split
      · exact ⟨rfl, by simp⟩
      · exact ⟨rfl, by simp⟩

theorem redispatch_permits (hidle : Idle s v)
    (hkind : runtime.workloadKind ≠ .pod) :
    Sat N (Permits s) (redispatch s runtime) (fun _ _ => True) v := by
  unfold redispatch
  refine Sat.andThen (permits_release hN _) (by simp) fun _ v₁ h₁ => ?_
  obtain ⟨-, rfl⟩ := h₁
  have hidle₁ : Idle s { v with held := ∅ } := hidle
  refine Sat.andThen (workloadToResume_permits hN hfloor) (by simp) ?_
  rintro found _ ⟨rfl, hgpus⟩
  cases found with
  | none => trivial
  | some workload =>
      dsimp only
      generalize haccepted : ({ runtime with
        status := .accepted, currentStage := "accepted" } :
          UnifiedRuntimeRecord) = accepted
      have hsame : accepted.workloadKind = runtime.workloadKind := by
        subst haccepted
        rfl
      have haccepted : accepted.workloadKind ≠ .pod := hsame ▸ hkind
      refine Sat.andThen (upsert_permits hN hidle₁ (.of_kind haccepted))
        (by simp) fun _ v₂ h₂ => ?_
      split
      · exact startInferenceRuntime_permits hN
          (hsame.trans (by assumption)) (h₂ rfl).1 (hgpus workload rfl)
      · exact startVmRuntime_permits hN haccepted (h₂ rfl).1 _
      · trivial
      · trivial

theorem resumeRuntime_permits (hsteady : Steady s v)
    (hget : v.record = some runtime)
    (hstatus : runtime.status = .suspended) :
    Sat N (Permits s) (resumeRuntime s runtime) (fun _ _ => True) v := by
  unfold resumeRuntime
  refine sat_bind'.mpr (sat_attempt.mpr ((reacquire_permits hN).weaken ?_))
  rintro r _ ⟨⟨held, rfl⟩, hdevices⟩
  rw [andThen_ok]
  cases r with
  | error x =>
      dsimp only
      split
      · trivial
      · trivial
  | ok devices =>
      dsimp only
      split
      · rename_i hkind
        exact resumePodRuntime_permits hN (hsteady.of_held held) hget hstatus
          hkind rfl (hdevices devices rfl hkind)
      · rename_i hkind
        refine redispatch_permits hN hfloor (fun c hc huses => hkind ?_) hkind
        exact (hsteady.lists_of_suspended hget hstatus hc huses).1

/-! ### One lease, one runtime -/

omit hfloor in
theorem getRuntime_permits (b : String) :
    Sat N (Permits s) (getRuntime b)
      (fun r v' => v' = v ∧ r = .ok v.record) v := by
  refine permits_own hN trivial ?_
  rintro r v' - ⟨rfl, rfl⟩
  exact ⟨rfl, rfl⟩

theorem handleLease_permits (lease : LeaseAssignment) (hsteady : Steady s v) :
    Sat N (Permits s) (handleLease s lease) (fun _ _ => True) v := by
  unfold handleLease
  refine Sat.andThen (getRuntime_permits hN _) (by simp) ?_
  rintro found v₁ ⟨rfl, hfound⟩
  obtain rfl : found = v₁.record := by simpa using hfound
  cases hget : v₁.record with
  | none =>
      dsimp only
      split
      · trivial
      · exact startLease_permits hN hfloor lease (hsteady.idle_of_none hget)
  | some existing =>
      have hpins := hsteady.pinned existing (.inl hget)
      have hretry : Sat N (Permits s) (do
          terminateRuntime s existing false
          removeRuntime lease.deploymentId
          startLease s lease) (fun _ _ => True) v₁ := by
        refine Sat.andThen (terminateRuntime_permits hN false hget hpins)
          (by simp) fun _ v₂ h₂ => ?_
        refine Sat.andThen (m := fun _ v' => Idle s v')
          (permits_own hN (h₂ rfl) ?_) (by simp) fun _ v₃ h₃ => ?_
        · rintro r v' - rfl
          exact h₂ rfl
        · exact startLease_permits hN hfloor lease h₃
      dsimp only
      split
      · split
        · exact suspendRuntime_permits hN hget hpins
        · exact suspendRuntime_permits hN hget hpins
        · trivial
      · split
        · exact resumeRuntime_permits hN hfloor hsteady hget (by assumption)
        · exact hretry
        · exact hretry
        all_goals trivial

omit hfloor in
theorem reapSuspended_permits (hget : v.record = some runtime)
    (hpins : Pins s runtime v) :
    Sat N (Permits s) (reapSuspended s runtime) (fun _ _ => True) v := by
  unfold reapSuspended
  refine sat_bind'.mpr (sat_attempt.mpr (permits_own hN trivial ?_))
  rintro r _ - rfl
  rw [andThen_ok]
  split
  · split
    · refine Sat.andThen (terminateRuntime_permits hN true hget hpins)
        (by simp) fun _ v₂ h₂ => ?_
      exact permits_own hN (h₂ rfl) fun _ _ _ _ => trivial
    · trivial
  · trivial
  · trivial

omit hfloor in
theorem cleanUp_permits (active fleet : List String)
    (hget : v.record = some runtime) (hpins : Pins s runtime v) :
    Sat N (Permits s) (cleanUp s active fleet runtime) (fun _ _ => True) v := by
  unfold cleanUp
  split
  · trivial
  · split
    · trivial
    · exact reapSuspended_permits hN hget hpins
    · exact (terminateRuntime_permits hN _ hget hpins).weaken
        fun _ _ _ => trivial

omit hfloor in
theorem recoverRuntime_permits (hget : v.record = some runtime)
    (hpins : Pins s runtime v) :
    Sat N (Permits s) (recoverRuntime s runtime) (fun _ _ => True) v := by
  have hterminate : ∀ reported (kept : Bool), Sat N (Permits s) (do
      terminateRuntime s runtime reported
      pure kept) (fun _ _ => True) v := fun reported kept =>
    Sat.andThen (terminateRuntime_permits hN reported hget hpins) (by simp)
      fun _ _ _ => trivial
  unfold recoverRuntime
  refine sat_bind'.mpr (sat_attempt.mpr (permits_own hN trivial ?_))
  rintro r _ - rfl
  rw [andThen_ok]
  split
  · exact hterminate _ _
  · split
    · trivial
    · exact hterminate _ _
  · split
    · trivial
    · trivial

omit hfloor in
theorem terminateDeployment_permits (b : String) (hsteady : Steady s v) :
    Sat N (Permits s) (terminateDeployment s b) (fun _ _ => True) v := by
  unfold terminateDeployment
  refine Sat.andThen (getRuntime_permits hN _) (by simp) ?_
  rintro found v₁ ⟨rfl, hfound⟩
  obtain rfl : found = v₁.record := by simpa using hfound
  cases hget : v₁.record with
  | none => trivial
  | some runtime =>
      exact Sat.andThen (terminateRuntime_permits hN true hget
        (hsteady.pinned runtime (.inl hget))) (by simp) fun _ _ _ => trivial

end Handlers

end Tenancy

end NodeAgent
