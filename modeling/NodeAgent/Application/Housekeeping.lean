import NodeAgent.Application.Tenancy

/-!
# Stopping what a record names

A runtime that is terminated or suspended has its recorded container removed or
stopped, and nothing else of its deployment is started meanwhile.
-/

namespace NodeAgent

open Effectful Program Agent

namespace Tenancy

variable {s : Settings} {permitted : Permitted} {d : String} {α β : Type}
variable {v v' : Tenancy} {runtime : UnifiedRuntimeRecord}
variable {N : Machine Effect Effect.Ret Exn Tenancy} {G : Tenancy → Prop}

/-- The machine makes only steps of a deployment whose docker works. -/
def Obeys (s : Settings) (permitted : Permitted)
    (N : Machine Effect Effect.Ret Exn Tenancy) : Prop :=
  ∀ v e r v', N.Step v e r v' → (machine s permitted).Step v e r v'

/-- Every call of `p` is made where `G` holds, and `p` ends in `post`. -/
def Abides (N : Machine Effect Effect.Ret Exn Tenancy) (G : Tenancy → Prop)
    (p : Agent α) (post : Except Exn α → Tenancy → Prop) (v : Tenancy) :
    Prop :=
  Sat N (fun v _ => G v) p post v

def Stops (s : Settings) (runtime : UnifiedRuntimeRecord) (c : Container) :
    Prop :=
  truthy runtime.containerId = true ∧
    c.answersTo (runtime.containerId.getD "") = true ∧
    (runtime.workloadKind = .pod ∧ s.podBackend = .process ∨
      runtime.workloadKind = .inference ∧ s.inferenceBackend = .docker)

/-- None of the containers that the record names runs. -/
def Halted (s : Settings) (runtime : UnifiedRuntimeRecord) (v : Tenancy) :
    Prop :=
  ∀ c ∈ v.containers, Stops s runtime c → c.running = false

theorem not_running_of_shrinks {after before : List Container} {c : Container}
    (h : Shrinks after before) {P : Container → Prop}
    (hP : ∀ c c' : Container, c.id = c'.id → c.name = c'.name → P c → P c')
    (hbefore : ∀ c ∈ before, P c → c.running = false) (hc : c ∈ after)
    (hPc : P c) : c.running = false := by
  obtain ⟨c', hc', hid, hname, -, -, hrunning⟩ := h c hc
  by_contra hr
  have hstopped := hbefore c' hc' (hP c c' hid hname hPc)
  rw [hrunning (by simpa using hr)] at hstopped
  cases hstopped

theorem answersTo_of_eq {c c' : Container} {target : String}
    (hid : c.id = c'.id) (hname : c.name = c'.name)
    (h : c.answersTo target = true) : c'.answersTo target = true := by
  rwa [Container.answersTo, ← hid, ← hname]

theorem Halted.fades (h : Halted s runtime v) (hfades : Fades v v') :
    Halted s runtime v' := fun _ hc hstops =>
  not_running_of_shrinks hfades.containers
    (fun _ _ hid hname hstops => ⟨hstops.1,
      answersTo_of_eq hid hname hstops.2.1, hstops.2.2⟩) h hc hstops

/-! ## Programs that start nothing -/

section Stopping

variable (hN : Obeys s permitted N) (hG : Enduring G)
include hN

theorem abides_own {e : Effect} {post : Except Exn e.Ret → Tenancy → Prop}
    (hv : G v)
    (h : ∀ r v', permitted e r → OwnStep s v e r v' → post r v') :
    Abides N G (perform e) post v :=
  ⟨hv, fun r v' hstep => h r v' (hN v e r v' hstep).1 (hN v e r v' hstep).2.2⟩

theorem fades_of_stopCall {e : Effect} {r : Except Exn e.Ret}
    (he : StopCall anyContainer d e) (hstep : N.Step v e r v') :
    Fades v v' := by
  have hown := (hN v e r v' hstep).2.2
  cases e with
  | dockerRm owner target =>
      obtain ⟨-, rfl⟩ := hown
      exact fades_of_shrinks (shrinks_filter _ _)
  | dockerStop owner target =>
      obtain ⟨-, rfl⟩ := hown
      exact fades_of_shrinks (shrinks_stop _ _)
  | _ => first
    | exact he.elim
    | (obtain rfl := hown; exact .refl _)

theorem stopContainer_abides (target : String) (hv : G v) :
    Abides N G (stopContainer d target) (fun _ v' => Fades v v' ∧
      ∀ c ∈ v'.containers, c.answersTo target = true →
        c.running = false) v := by
  have hstop : Abides N G (dockerStop d target) (fun _ v' => Fades v v' ∧
      ∀ c ∈ v'.containers, c.answersTo target = true →
        c.running = false) v := by
    refine abides_own hN hv fun r v' _ hstep => ?_
    obtain ⟨-, rfl⟩ := hstep
    refine ⟨fades_of_shrinks (shrinks_stop _ _), fun c hc hanswers => ?_⟩
    obtain ⟨c', -, rfl⟩ := List.mem_map.mp hc
    by_cases hc' : c'.answersTo target = true
    · simp [hc']
    · rw [if_neg hc'] at hanswers
      exact absurd hanswers hc'
  refine sat_ignoring.mpr (Sat.bind hstop
    (fun _ v' h => h) fun x v' h => ?_)
  by_cases hx : x.isMissingOrTimeout <;> simpa [hx] using h

theorem removeContainer_abides (target : String) (hv : G v) :
    Abides N G (removeContainer d target) (fun _ v' => Fades v v' ∧
      ∀ c ∈ v'.containers, c.answersTo target = false) v := by
  have hremove : Abides N G (dockerRm d target) (fun _ v' => Fades v v' ∧
      ∀ c ∈ v'.containers, c.answersTo target = false) v := by
    refine abides_own hN hv fun r v' _ hstep => ?_
    obtain ⟨-, rfl⟩ := hstep
    refine ⟨fades_of_shrinks (shrinks_filter _ _), fun c hc => ?_⟩
    simpa using (List.mem_filter.mp hc).2
  refine sat_ignoring.mpr (Sat.bind hremove
    (fun _ v' h => h) fun x v' h => ?_)
  by_cases hx : x.isMissingOrTimeout <;> simpa [hx] using h

theorem pausePod_abides (hs : s.podBackend = .process) (hv : G v) :
    Abides N G (PodBackend.pausePod s runtime)
      (fun _ v' => Fades v v' ∧ Halted s runtime v') v := by
  simp only [PodBackend.pausePod, hs, ProcessPodBackend.pausePod]
  by_cases hcontainer : truthy runtime.containerId = true
  · simp only [hcontainer, onlyIf, if_true]
    refine Sat.bind (stopContainer_abides hN _ hv) ?_ ?_
    all_goals
      rintro _ v' ⟨hfades, hstopped⟩
      exact ⟨hfades, fun c hc hstops => hstopped c hc hstops.2.1⟩
  · simp only [hcontainer, onlyIf]
    exact ⟨.refl v, fun c _ hstops => absurd hstops.1 hcontainer⟩

theorem stopPod_abides (hs : s.podBackend = .process) (hv : G v) :
    Abides N G (PodBackend.stopPod s runtime)
      (fun _ v' => Fades v v' ∧ Halted s runtime v') v := by
  simp only [PodBackend.stopPod, hs, ProcessPodBackend.stopPod]
  by_cases hcontainer : truthy runtime.containerId = true
  · simp only [hcontainer, onlyIf, if_true]
    refine Sat.bind (removeContainer_abides hN _ hv) ?_ ?_
    all_goals
      rintro _ v' ⟨hfades, hremoved⟩
      refine ⟨hfades, fun c hc hstops => ?_⟩
      have hanswers := hstops.2.1
      rw [hremoved c hc] at hanswers
      cases hanswers
  · simp only [hcontainer, onlyIf]
    exact ⟨.refl v, fun c _ hstops => absurd hstops.1 hcontainer⟩

theorem stopRuntime_abides (hs : s.inferenceBackend = .docker) (hv : G v) :
    Abides N G (InferenceBackend.stopRuntime s runtime)
      (fun _ v' => Fades v v' ∧ Halted s runtime v') v := by
  simp only [InferenceBackend.stopRuntime, hs,
    DockerInferenceBackend.stopRuntime]
  by_cases hcontainer : truthy runtime.containerId = true
  · simp only [hcontainer, onlyIf, if_true]
    refine Sat.bind (removeContainer_abides hN _ hv) ?_ ?_
    all_goals
      rintro _ v' ⟨hfades, hremoved⟩
      refine ⟨hfades, fun c hc hstops => ?_⟩
      have hanswers := hstops.2.1
      rw [hremoved c hc] at hanswers
      cases hanswers
  · simp only [hcontainer, onlyIf]
    exact ⟨.refl v, fun c _ hstops => absurd hstops.1 hcontainer⟩

include hG

theorem abides_stops {p : Agent α} {ends : Except Exn α → Prop}
    (hp : Always (Typed s anyContainer) (StopCall anyContainer d) p ends)
    (hv : G v) : Abides N G p (fun r v' => ends r ∧ Fades v v') v := by
  have hkept := hp.sat_keeping (M := N) (I := Fades v)
    (fun v₁ e r v₂ h he hstep =>
      ⟨(hN v₁ e r v₂ hstep).2.1, h.trans (fades_of_stopCall hN he hstep)⟩)
    (.refl v)
  exact hkept.mono (fun v₁ e h => hG _ _ h.1 hv) fun r v' h => ⟨h.2, h.1⟩

theorem abides_halted (hnone : ∀ c, ¬Stops s runtime c) {p : Agent α}
    {ends : Except Exn α → Prop}
    (hp : Always (Typed s anyContainer) (StopCall anyContainer d) p ends)
    (hv : G v) :
    Abides N G p (fun _ v' => Fades v v' ∧ Halted s runtime v') v :=
  (abides_stops hN hG hp hv).weaken fun _ _ h =>
    ⟨h.2, fun c _ hstops => absurd hstops (hnone c)⟩

theorem pauseBackend_abides (hid : runtime.deploymentId = d) (hv : G v) :
    Abides N G (pauseBackend s runtime)
      (fun _ v' => Fades v v' ∧ Halted s runtime v') v := by
  by_cases hnone : ∀ c, ¬Stops s runtime c
  · exact abides_halted hN hG hnone
      (pauseBackend_stops (hid ▸ Ledger.belongs_any runtime)).always hv
  · push Not at hnone
    obtain ⟨c, hcontainer, -, hbackend⟩ := hnone
    unfold pauseBackend
    rcases hbackend with ⟨hkind, hs⟩ | ⟨hkind, hs⟩
    · simp only [hkind]
      exact pausePod_abides hN hs hv
    · have hbackend : hasBackend runtime = true := by
        simp [hasBackend, hcontainer]
      simp only [hkind, hbackend, if_true]
      exact Sat.bind (stopRuntime_abides hN hs hv)
        (fun _ _ h => h) fun _ _ h => h

theorem stopBackend_abides (hid : runtime.deploymentId = d) (hv : G v) :
    Abides N G (stopBackend s runtime)
      (fun _ v' => Fades v v' ∧ Halted s runtime v') v := by
  by_cases hnone : ∀ c, ¬Stops s runtime c
  · exact abides_halted hN hG hnone
      (stopBackend_stops (hid ▸ Ledger.belongs_any runtime)).always hv
  · push Not at hnone
    obtain ⟨c, hcontainer, -, hbackend⟩ := hnone
    have hrest : ∀ {p : Agent Unit} {v' : Tenancy},
        Fades v v' ∧ Halted s runtime v' →
        Within (Typed s anyContainer) (FileCall d) p (fun _ => True) →
        Abides N G p (fun _ v' => Fades v v' ∧ Halted s runtime v') v' :=
      fun h hp => (abides_stops hN hG (Within.stops hp)
        (hG _ _ h.1 hv)).weaken fun _ _ h' =>
          ⟨h.1.trans h'.2, h.2.fades h'.2⟩
    unfold stopBackend
    rcases hbackend with ⟨hkind, hs⟩ | ⟨hkind, hs⟩
    · simp only [hkind, hcontainer, if_true]
      exact Sat.bind (stopPod_abides hN hs hv)
        (fun _ _ h => hrest h (dropVolume_files hid)) fun _ _ h => h
    · have hbackend : hasBackend runtime = true := by
        simp [hasBackend, hcontainer]
      simp only [hkind, hbackend, if_true]
      exact Sat.bind (stopRuntime_abides hN hs hv)
        (fun _ _ h => hrest h (deleteStaged_files hid)) fun _ _ h => h

end Stopping

end Tenancy

end NodeAgent
