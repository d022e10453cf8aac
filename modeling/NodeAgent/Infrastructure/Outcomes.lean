import NodeAgent.Infrastructure.Replay
import NodeAgent.Infrastructure.Steps

/-!
# Runs with the outcomes of their calls

What the environment decides about a call is more than the call's result: a
`docker run` that raised may have left a container.  Here a run keeps what was
decided about each of its calls.
-/

namespace NodeAgent

open Effectful Program

/-- One call with what the environment decided about it. -/
structure CallOutcome where
  call : Effect
  answer : Answer call

/-- The host so far, and the outcomes of the calls. -/
abbrev Recorded := World × List CallOutcome

/--
`docker rm -f` and `kill` take effect, and no process has the number zero; how
often a loop goes round is no call.
-/
def works : (e : Effect) → Answer e → Bool
  | .dockerRm _ _, a => a.tookEffect
  | .terminatePid _ _, a => a.tookEffect
  | .spawnServer _, a => match a.result with
      | .ok pid => pid ≠ 0
      | .error _ => true
  | .probe .rounds, a => World.isOk a.result
  | _, _ => true

/-- The host on which these work, with a record of the outcomes. -/
def recording : Machine Effect Effect.Ret Exn Recorded where
  Step x e r x' := ∃ a : Answer e, x.1.allows e a = true ∧ works e a = true ∧
    x.1.answer e a = (r, x'.1) ∧ x'.2 = x.2 ++ [⟨e, a⟩]

variable {guard : Recorded → Effect → Prop} {x : Recorded} {α β : Type}

/-- Where a call leaves the host, if it is answered so. -/
def Recorded.after (x : Recorded) (e : Effect) (a : Answer e) : Recorded :=
  ((x.1.answer e a).2, x.2 ++ [⟨e, a⟩])

theorem recorded_call {e : Effect} {next : Except Exn e.Ret → Agent β}
    {post : Except Exn β → Recorded → Prop} (hguard : guard x e)
    (h : ∀ a : Answer e, x.1.allows e a = true → works e a = true →
      Sat recording guard (next (x.1.perform e a).1) post (x.after e a)) :
    Sat recording guard (.call e next) post x := by
  refine ⟨hguard, fun r x' hstep => ?_⟩
  obtain ⟨w', outcomes⟩ := x'
  obtain ⟨a, hallows, hworks, hanswer, rfl⟩ := hstep
  obtain ⟨rfl, rfl⟩ : (x.1.perform e a).1 = r ∧ (x.1.answer e a).2 = w' := by
    simpa [World.answer] using hanswer
  exact h a hallows hworks

theorem recorded_perform {e : Effect}
    {post : Except Exn e.Ret → Recorded → Prop} (hguard : guard x e)
    (h : ∀ a : Answer e, x.1.allows e a = true → works e a = true →
      post (x.1.perform e a).1 (x.after e a)) :
    Sat recording guard (perform e) post x :=
  recorded_call hguard h

/-- The calls between two states, with a condition on their outcomes. -/
def Recorded.Adds (x x' : Recorded) (P : List CallOutcome → Prop) : Prop :=
  ∃ outcomes, x'.2 = x.2 ++ outcomes ∧ P outcomes

theorem Recorded.forall_after {P : CallOutcome → Prop} {e : Effect}
    {a : Answer e} :
    (∀ o ∈ (x.after e a).2, P o) ↔ (∀ o ∈ x.2, P o) ∧ P ⟨e, a⟩ := by
  rw [Recorded.after, List.forall_mem_append, List.forall_mem_singleton]

theorem Recorded.exists_after {P : CallOutcome → Prop} {e : Effect}
    {a : Answer e} :
    (∃ o ∈ (x.after e a).2, P o) ↔ (∃ o ∈ x.2, P o) ∨ P ⟨e, a⟩ := by
  simp only [Recorded.after, List.mem_append, List.mem_singleton, or_and_right,
    exists_or, exists_eq_left]

/-! ## Replaying -/

/-- As `replay`, with a record of the outcomes. -/
def rerun (env : Environment) :
    Agent α → Recorded → Option (Except Exn α × Recorded)
  | .done r, x => some (r, x)
  | .call e next, x =>
      if x.1.allows e (env x.1 e) ∧ works e (env x.1 e) then
        rerun env (next (x.1.perform e (env x.1 e)).1) (x.after e (env x.1 e))
      else none

theorem rerun_exec {env : Environment} {p : Agent α} {x x' : Recorded}
    {r : Except Exn α} (h : rerun env p x = some (r, x')) :
    Exec recording p x r x' := by
  induction p generalizing x with
  | done result =>
      simp only [rerun, Option.some.injEq, Prod.mk.injEq] at h
      obtain ⟨rfl, rfl⟩ := h
      exact .refl _ _
  | call e next ih =>
      rw [rerun] at h
      split_ifs at h with hanswer
      exact .step ⟨env x.1 e, hanswer.1, hanswer.2, rfl, rfl⟩ (ih _ h)

end NodeAgent
