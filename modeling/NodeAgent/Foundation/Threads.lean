import NodeAgent.Foundation.Always
import Mathlib.Logic.Function.Basic

/-!
# Any number of programs on one state

Every thread runs a program of its own, and which thread makes the next call is
open.  What a call does may depend on the thread that makes it, as it does for
a lock.
-/

namespace Effectful

open Program

variable {ι E : Type} [DecidableEq ι] {Ret : E → Type} {ε α σ : Type}

/-- From one pool of programs and state to another, call by call. -/
inductive Interleaves (M : ι → Machine E Ret ε σ) :
    (ι → Program E Ret ε α) → σ → (ι → Program E Ret ε α) → σ → Prop
  | refl (pool : ι → Program E Ret ε α) (s : σ) : Interleaves M pool s pool s
  | step {pool pool' : ι → Program E Ret ε α} {i : ι} {e : E}
      {next : Except ε (Ret e) → Program E Ret ε α} {r : Except ε (Ret e)}
      {s s' t : σ} (turn : pool i = .call e next)
      (first : (M i).Step s e r s')
      (rest : Interleaves M (Function.update pool i (next r)) s' pool' t) :
      Interleaves M pool s pool' t

variable {M : ι → Machine E Ret ε σ} {pool pool' : ι → Program E Ret ε α}
variable {s s' t : σ}

theorem Interleaves.trans {pool'' : ι → Program E Ret ε α}
    (first : Interleaves M pool s pool' s')
    (second : Interleaves M pool' s' pool'' t) :
    Interleaves M pool s pool'' t := by
  induction first with
  | refl => exact second
  | step turn hstep _ ih => exact .step turn hstep (ih second)

theorem Interleaves.invariant {I : (ι → Program E Ret ε α) → σ → Prop}
    (h : Interleaves M pool s pool' t)
    (hstep : ∀ pool s i e next r s', I pool s → pool i = .call e next →
      (M i).Step s e r s' → I (Function.update pool i (next r)) s')
    (start : I pool s) : I pool' t := by
  induction h with
  | refl => exact start
  | step turn first _ ih => exact ih (hstep _ _ _ _ _ _ _ start turn first)

theorem Interleaves.simulate {τ : Type} {N : ι → Machine E Ret ε τ} {f : σ → τ}
    (hstep : ∀ i s e r s', (M i).Step s e r s' → (N i).Step (f s) e r (f s'))
    (h : Interleaves M pool s pool' t) : Interleaves N pool (f s) pool' (f t) := by
  induction h with
  | refl => exact .refl _ _
  | step turn first _ ih => exact .step turn (hstep _ _ _ _ _ first) ih

theorem always_update {calls : ι → E → Prop} {i : ι} {e : E}
    {next : Except ε (Ret e) → Program E Ret ε α}
    (h : ∀ j, Always (fun _ _ => True) (calls j) (pool j) fun _ => True)
    (turn : pool i = .call e next) (r : Except ε (Ret e)) :
    calls i e ∧ ∀ j, Always (fun _ _ => True) (calls j)
      (Function.update pool i (next r) j) fun _ => True := by
  have hi := h i
  rw [turn] at hi
  refine ⟨hi.1, fun j => ?_⟩
  by_cases hj : j = i
  · subst hj
    rw [Function.update_self]
    exact hi.2 r () trivial
  · rw [Function.update_of_ne hj]
    exact h j

/--
A thread may rely on answers that every thread's calls keep true, and returns
what such answers make it return.
-/
theorem Interleaves.always {I : σ → Prop} {calls : E → Prop}
    {answers : (e : E) → Except ε (Ret e) → Prop} {ends : Except ε α → Prop}
    {i : ι} {r : Except ε α} (h : Interleaves M pool s pool' t) (start : I s)
    (hstep : ∀ i s e r s', I s → calls e → (M i).Step s e r s' →
      I s' ∧ answers e r)
    (hcalls : ∀ i, Always (fun _ _ => True) calls (pool i) fun _ => True)
    (hi : Always answers (fun _ => True) (pool i) ends)
    (hdone : pool' i = .done r) : ends r := by
  have hend := h.invariant (I := fun pool s => I s ∧
    (∀ i, Always (fun _ _ => True) calls (pool i) fun _ => True) ∧
      Always answers (fun _ => True) (pool i) ends) ?_ ⟨start, hcalls, hi⟩
  · have := hend.2.2
    rwa [hdone] at this
  · rintro pool s j e next a s' ⟨hs, hall, hthis⟩ turn hmove
    obtain ⟨hcall, hall'⟩ := always_update hall turn a
    obtain ⟨hs', ha⟩ := hstep j s e a s' hs hcall hmove
    refine ⟨hs', hall', ?_⟩
    by_cases hij : i = j
    · subst hij
      rw [Function.update_self]
      rw [turn] at hthis
      exact hthis.2 a () ha
    · rwa [Function.update_of_ne hij]

/-! ## Threads that take turns in a given order -/

variable {answer : ι → σ → (e : E) → Option (Except ε (Ret e) × σ)}

/-- A thread that has ended passes, and one that is not answered ends it all. -/
def takeTurns (answer : ι → σ → (e : E) → Option (Except ε (Ret e) × σ)) :
    List ι → (ι → Program E Ret ε α) → σ → (ι → Program E Ret ε α) × σ
  | [], pool, s => (pool, s)
  | i :: turns, pool, s =>
      match pool i with
      | .done _ => takeTurns answer turns pool s
      | .call e next =>
          match answer i s e with
          | none => (pool, s)
          | some (r, s') =>
              takeTurns answer turns (Function.update pool i (next r)) s'

theorem takeTurns_interleaves_within {J : σ → Prop}
    (hstep : ∀ i s e r s', J s → answer i s e = some (r, s') →
      (M i).Step s e r s' ∧ J s')
    (turns : List ι) (pool : ι → Program E Ret ε α) {s : σ} (start : J s) :
    Interleaves M pool s (takeTurns answer turns pool s).1
      (takeTurns answer turns pool s).2 := by
  induction turns generalizing pool s with
  | nil => exact .refl _ _
  | cons i turns ih =>
      rw [takeTurns]
      cases hturn : pool i with
      | done r => exact ih _ start
      | call e next =>
          cases hanswer : answer i s e with
          | none =>
              simp only [hanswer]
              exact .refl _ _
          | some found =>
              obtain ⟨r, s'⟩ := found
              obtain ⟨hmove, hkept⟩ := hstep i s e r s' start hanswer
              simp only [hanswer]
              exact .step hturn hmove (ih _ hkept)

theorem takeTurns_interleaves
    (hstep : ∀ i s e r s', answer i s e = some (r, s') → (M i).Step s e r s')
    (turns : List ι) (pool : ι → Program E Ret ε α) (s : σ) :
    Interleaves M pool s (takeTurns answer turns pool s).1
      (takeTurns answer turns pool s).2 :=
  takeTurns_interleaves_within (J := fun _ => True)
    (fun i s e r s' _ h => ⟨hstep i s e r s' h, trivial⟩) turns pool trivial

end Effectful
