import NodeAgent.Infrastructure.Host

/-!
# Rules for runs of the host

One rule for each way in which a program makes a call, for every machine that
does no more than the host can, and what a run adds to the log.
-/

namespace NodeAgent

open Effectful Program

/-- Each step of the machine is an answer that docker and the files allow. -/
def Refines (M : Machine Effect Effect.Ret Exn World) : Prop :=
  ∀ w e r w', M.Step w e r w' →
    ∃ a : Answer e, w.allows e a = true ∧ w.answer e a = (r, w')

variable {permitted : Permitted} {M : Machine Effect Effect.Ret Exn World}
variable {guard : World → Effect → Prop} {w w' : World} {α β : Type}

theorem host_refines : Refines (host permitted) := fun _ _ _ _ h => h.2

theorem Refines.host (hM : Refines M) {e : Effect} {r : Except Exn e.Ret}
    (h : M.Step w e r w') : (NodeAgent.host anyResult).Step w e r w' :=
  ⟨trivial, hM w e r w' h⟩

theorem Refines.answered (hM : Refines M) {e : Effect} {r : Except Exn e.Ret}
    (h : M.Step w e r w') : ∃ a : Answer e, w.allows e a = true ∧
      r = (w.perform e a).1 ∧ w' = (w.answer e a).2 := by
  obtain ⟨a, hallows, heq⟩ := hM w e r w' h
  simp only [World.answer, Prod.mk.injEq] at heq
  exact ⟨a, hallows, heq.1.symm, heq.2.symm⟩

theorem Refines.performed (hM : Refines M) {e : Effect} {r : Except Exn e.Ret}
    (h : M.Step w e r w') : ∃ a : Answer e, w.allows e a = true ∧
      r = (w.perform e a).1 ∧ w' = { (w.perform e a).2 with
        log := w.log ++ [⟨e, (w.perform e a).1⟩] } :=
  hM.answered h

theorem sat_step (hM : Refines M) {e : Effect}
    {next : Except Exn e.Ret → Agent β} {post : Except Exn β → World → Prop}
    (hguard : guard w e) (h : ∀ a : Answer e, w.allows e a = true →
      M.Step w e (w.perform e a).1 (w.answer e a).2 →
      Sat M guard (next (w.perform e a).1) post (w.answer e a).2) :
    Sat M guard (.call e next) post w := by
  refine ⟨hguard, fun r w' hstep => ?_⟩
  obtain ⟨a, hallows, rfl, rfl⟩ := hM.answered hstep
  exact h a hallows hstep

theorem sat_step_perform (hM : Refines M) {e : Effect}
    {post : Except Exn e.Ret → World → Prop} (hguard : guard w e)
    (h : ∀ a : Answer e, w.allows e a = true →
      M.Step w e (w.perform e a).1 (w.answer e a).2 →
      post (w.perform e a).1 (w.answer e a).2) :
    Sat M guard (perform e) post w :=
  sat_step hM hguard h

theorem sat_step_bind (hM : Refines M) {e : Effect} {f : e.Ret → Agent β}
    {post : Except Exn β → World → Prop} (hguard : guard w e)
    (h : ∀ a : Answer e, w.allows e a = true →
      M.Step w e (w.perform e a).1 (w.answer e a).2 →
      andThen M guard f post (w.perform e a).1 (w.answer e a).2) :
    Sat M guard (perform e >>= f) post w :=
  sat_bind'.mpr (sat_step_perform hM hguard h)

theorem sat_step_attempt (hM : Refines M) {e : Effect}
    {f : Except Exn e.Ret → Agent β} {post : Except Exn β → World → Prop}
    (hguard : guard w e) (h : ∀ a : Answer e, w.allows e a = true →
      M.Step w e (w.perform e a).1 (w.answer e a).2 →
      Sat M guard (f (w.perform e a).1) post (w.answer e a).2) :
    Sat M guard (attempt (perform e) >>= f) post w :=
  sat_bind'.mpr (sat_attempt.mpr (sat_step_perform hM hguard h))

/-! ## The allocator -/

theorem GpuAllocator.length_usable_le (g : GpuAllocator) (avoid : Finset Nat) :
    (g.usable avoid).length ≤ g.totalGpus := by
  simpa [usable] using List.length_filter_le
    (fun device => decide (device ∈ g.freeDevices \ avoid))
    (List.range g.totalGpus)

theorem GpuAllocator.allocate_isOk {g : GpuAllocator} {d : String} {n : Int}
    {avoid : Finset Nat} : World.isOk (g.allocate d n avoid).1 = true ↔
      n ≤ (g.usable avoid).length := by
  have hle := g.length_usable_le avoid
  unfold GpuAllocator.allocate
  by_cases hn : n ≤ 0
  · simp only [if_pos hn, World.isOk, true_iff]
    omega
  · by_cases htotal : n > g.totalGpus
    · simp only [if_neg hn, if_pos htotal, World.isOk, Bool.false_eq_true,
        false_iff]
      omega
    · simp only [if_neg hn, if_neg htotal]
      by_cases hfree : ((g.usable avoid).length : Int) < n
      · simp only [if_pos hfree, World.isOk, Bool.false_eq_true, false_iff]
        omega
      · simp only [if_neg hfree, World.isOk, true_iff]
        omega

/-! ## Containers -/

def World.touchesContainers : Effect → Bool
  | .dockerRun _ | .dockerRm _ _ | .dockerStop _ _ | .dockerStart _ _ => true
  | _ => false

theorem World.perform_containers {e : Effect}
    (he : touchesContainers e = false) (w : World) (a : Answer e) :
    (w.perform e a).2.containers = w.containers ∧
      (w.perform e a).2.issuedIds = w.issuedIds := by
  cases e with
  | dockerRun command => simp [touchesContainers] at he
  | dockerRm owner target => simp [touchesContainers] at he
  | dockerStop owner target => simp [touchesContainers] at he
  | dockerStart owner target => simp [touchesContainers] at he
  | spawnServer owner => cases h : a.result <;> simp [perform, h]
  | terminatePid owner pid => by_cases h : a.tookEffect <;> simp [perform, h]
  | stageArtifact d uri digest =>
      by_cases h : a.tookEffect <;> simp [perform, h]
  | makeRuntimeDir d => by_cases h : a.tookEffect <;> simp [perform, h]
  | deleteRuntimeDir owner path =>
      by_cases h : a.tookEffect <;> simp [perform, h]
  | deleteStagedArtifact owner path =>
      by_cases h : a.tookEffect <;> simp [perform, h]
  | createVolume volume => by_cases h : a.tookEffect <;> simp [perform, h]
  | deleteVolume volume => by_cases h : a.tookEffect <;> simp [perform, h]
  | _ => exact ⟨rfl, rfl⟩

theorem totalGpus_perform (w : World) (e : Effect) (a : Answer e) :
    (w.perform e a).2.allocator.totalGpus = w.allocator.totalGpus := by
  cases e with
  | allocate d n avoid =>
      rcases w.allocator.allocate_cases d n avoid with
        ⟨-, heq⟩ | ⟨-, message, heq⟩ | ⟨-, -, heq⟩ <;>
        simp [World.perform, heq]
  | allocateSpecific d devices =>
      rcases w.allocator.allocateSpecific_cases d devices with
        ⟨-, heq⟩ | ⟨-, ⟨message, heq⟩, -⟩ | ⟨-, -, heq⟩ <;>
        simp [World.perform, heq]
  | dockerRun command =>
      cases hcreated : a.created <;>
        simp [World.perform, hcreated, World.withContainer]
  | _ =>
      simp only [World.perform, World.saved]
      try split
      all_goals rfl

theorem host_totalGpus {e : Effect} {r : Except Exn e.Ret}
    (hstep : (host permitted).Step w e r w') :
    w'.allocator.totalGpus = w.allocator.totalGpus := by
  obtain ⟨a, -, -, rfl⟩ := host_refines.answered hstep
  exact totalGpus_perform w e a

/-! ## The log of a run -/

/-- The calls made between two states of one host. -/
def issued (w w' : World) : List Event := w'.log.drop w.log.length

theorem log_answer {e : Effect} (a : Answer e) :
    (w.answer e a).2.log = w.log ++ [⟨e, (w.perform e a).1⟩] := rfl

def Added (w w' : World) (P : List Event → Prop) : Prop :=
  ∃ events, w'.log = w.log ++ events ∧ P events

theorem Added.issued {P : List Event → Prop} (h : Added w w' P) :
    P (issued w w') := by
  obtain ⟨events, hlog, hP⟩ := h
  rw [NodeAgent.issued, hlog, List.drop_left]
  exact hP

theorem Added.append {w₁ w₂ w₃ : World} {P Q R : List Event → Prop}
    (h : Added w₁ w₂ P) (h' : Added w₂ w₃ Q)
    (hR : ∀ events events', P events → Q events' → R (events ++ events')) :
    Added w₁ w₃ R := by
  obtain ⟨events, hlog, hP⟩ := h
  obtain ⟨events', hlog', hQ⟩ := h'
  exact ⟨events ++ events', by rw [hlog', hlog, List.append_assoc],
    hR events events' hP hQ⟩

/-- The calls added to the log, with a condition on each of them. -/
def Logged (w w' : World) (c : Event → Prop) : Prop :=
  Added w w' fun events => ∀ event ∈ events, c event

variable {c c' : Event → Prop}

theorem Logged.refl (w : World) (c : Event → Prop) : Logged w w c :=
  ⟨[], by simp⟩

theorem Logged.weaken (h : Logged w w' c)
    (himp : ∀ event, c event → c' event) : Logged w w' c' := by
  obtain ⟨events, hlog, hevents⟩ := h
  exact ⟨events, hlog, fun event hevent => himp event (hevents event hevent)⟩

theorem Logged.trans {w₁ w₂ w₃ : World} (h : Logged w₁ w₂ c)
    (h' : Logged w₂ w₃ c) : Logged w₁ w₃ c := by
  refine h.append h' fun events events' hevents hevents' event hevent => ?_
  rcases List.mem_append.mp hevent with hmem | hmem
  · exact hevents event hmem
  · exact hevents' event hmem

theorem Logged.answer (h : Logged w w' c) {e : Effect} (a : Answer e)
    (he : c ⟨e, (w'.perform e a).1⟩) : Logged w (w'.answer e a).2 c := by
  refine h.trans ⟨_, log_answer a, fun event hevent => ?_⟩
  obtain rfl := List.mem_singleton.mp hevent
  exact he

theorem Sat.logged (hM : Refines M) {p : Agent α}
    {post : Except Exn α → World → Prop} (h : Sat M guard p post w)
    (hstep : ∀ w e r w', guard w e → M.Step w e r w' → c ⟨e, r⟩) :
    Sat M (fun w' _ => Logged w w' c) p
      (fun r w' => post r w' ∧ Logged w w' c) w := by
  refine h.keeping (I := fun w' => Logged w w' c) ?_ (Logged.refl w c)
  intro w₁ e r w₂ hlogged hguard hs
  have hc := hstep w₁ e r w₂ hguard hs
  obtain ⟨a, -, rfl, rfl⟩ := hM.answered hs
  exact hlogged.answer a hc

theorem reaches_log (hM : Refines M) {p q : Agent α}
    (h : Reaches M p w q w') : w'.log = w.log ++ issued w w' := by
  have hsat : Sat M (fun w' _ => Logged w w' fun _ => True) p
      (fun _ w' => Logged w w' fun _ => True) w :=
    ((Sat.logged hM (sat_of_exec fun _ _ _ => trivial)
      fun _ _ _ _ _ _ => trivial).weaken fun _ _ h => h.2)
  obtain ⟨events, hlog, -⟩ := hsat.cut (fun _ _ h => h) (fun _ _ h => h) h
  rw [issued, hlog, List.drop_left]

theorem exec_permitted {p : Agent α} {r : Except Exn α}
    (h : Exec (host permitted) p w r w') :
    Logged w w' fun event => permitted event.call event.result := by
  have hsat : Sat (host permitted) (fun _ _ => True) p (fun _ _ => True) w :=
    sat_of_exec fun _ _ _ => trivial
  exact ((Sat.logged host_refines hsat fun _ _ _ _ _ hs => hs.1).exec h).2

theorem reaches_restrict {p q : Agent α} {c : Event → Prop}
    (h : Reaches (host permitted) p w q w')
    (hissued : ∀ event ∈ issued w w', c event) :
    Reaches (host fun e r => permitted e r ∧ c ⟨e, r⟩) p w q w' := by
  induction h with
  | refl => exact .refl _ _
  | step first rest ih =>
      have hr := first.1
      obtain ⟨a, hallows, rfl, rfl⟩ := host_refines.performed first
      rw [issued, reaches_log host_refines rest, List.append_assoc,
        List.drop_left] at hissued
      refine .step ⟨⟨hr, hissued _ (by simp)⟩, a, hallows, rfl⟩ (ih ?_)
      exact fun event hevent => hissued event (List.mem_cons_of_mem _ hevent)

end NodeAgent
