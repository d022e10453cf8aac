import NodeAgent.Foundation.Threads

/-!
# Threads that cannot tell whether others are there

Where some threads act only on what they see of a state, and the others leave
that alone, their part of a run is a run of theirs on a state that holds no more
than what they see.
-/

namespace Effectful

open Program

variable {ι E : Type} [DecidableEq ι] {Ret : E → Type} {ε α σ τ : Type}
variable {M : ι → Machine E Ret ε σ} {N : ι → Machine E Ret ε τ}
variable {pool pool' : ι → Program E Ret ε α} {s s' : σ} {t : τ} {i : ι}

/-- The pool without the other threads, which have ended with `r`. -/
def onlyThose (mine : ι → Prop) [DecidablePred mine] (r : Except ε α)
    (pool : ι → Program E Ret ε α) : ι → Program E Ret ε α :=
  fun i => if mine i then pool i else .done r

section

variable {mine : ι → Prop} [DecidablePred mine] {r : Except ε α}

omit [DecidableEq ι] in
theorem onlyThose_mine (h : mine i) : onlyThose mine r pool i = pool i :=
  if_pos h

omit [DecidableEq ι] in
theorem onlyThose_other (h : ¬mine i) : onlyThose mine r pool i = .done r :=
  if_neg h

theorem onlyThose_update_mine {p : Program E Ret ε α} (h : mine i) :
    onlyThose mine r (Function.update pool i p) =
      Function.update (onlyThose mine r pool) i p := by
  funext j
  by_cases hj : j = i
  · subst hj
    rw [onlyThose_mine h, Function.update_self, Function.update_self]
  · simp only [onlyThose, Function.update_of_ne hj]

theorem onlyThose_update_other {p : Program E Ret ε α} (h : ¬mine i) :
    onlyThose mine r (Function.update pool i p) = onlyThose mine r pool := by
  funext j
  by_cases hj : j = i
  · subst hj
    rw [onlyThose_other h, onlyThose_other h]
  · simp only [onlyThose, Function.update_of_ne hj]

variable (mine) in
/--
A thread's calls are matched by those of the smaller state, and the other
threads' calls leave the smaller state as it is: so `r`, the result that the
other threads are said to have ended with, does not matter either.
-/
theorem Interleaves.project {R : σ → τ → Prop} {calls : ι → E → Prop}
    (h : Interleaves M pool s pool' s')
    (hcalls : ∀ i, Always (fun _ _ => True) (calls i) (pool i) fun _ => True)
    (hmine : ∀ i s e a s' t, mine i → R s t → calls i e →
      (M i).Step s e a s' → ∃ t', (N i).Step t e a t' ∧ R s' t')
    (hothers : ∀ i s e a s' t, ¬mine i → R s t → calls i e →
      (M i).Step s e a s' → R s' t) (hR : R s t) :
    ∃ t', Interleaves N (onlyThose mine r pool) t (onlyThose mine r pool') t' ∧
      R s' t' := by
  induction h generalizing t with
  | refl => exact ⟨t, .refl _ _, hR⟩
  | @step pool _ i e next a s s' _ turn first _ ih =>
      obtain ⟨hcall, hcalls'⟩ := always_update hcalls turn a
      by_cases hi : mine i
      · obtain ⟨t₁, hstep, hR'⟩ := hmine i s e a s' t hi hR hcall first
        obtain ⟨t', hrun, hend⟩ := ih hcalls' hR'
        rw [onlyThose_update_mine hi] at hrun
        exact ⟨t', .step ((onlyThose_mine hi).trans turn) hstep hrun, hend⟩
      · obtain ⟨t', hrun, hend⟩ :=
          ih hcalls' (hothers i s e a s' t hi hR hcall first)
        rw [onlyThose_update_other hi] at hrun
        exact ⟨t', hrun, hend⟩

end

/-! ## Operations that are programs themselves -/

variable {O : Type} {ORet : O → Type}

/-- A client's program with each operation replaced by its body. -/
def expand (body : (o : O) → Program E Ret ε (ORet o)) :
    Program O ORet ε α → Program E Ret ε α
  | .done r => .done r
  | .call o next => (body o).attempt.bind fun r => expand body (next r)

omit [DecidableEq ι] in
theorem always_expand {answers : (e : E) → Except ε (Ret e) → Prop}
    {calls : E → Prop} {body : (o : O) → Program E Ret ε (ORet o)}
    (h : ∀ o, Within answers calls (body o) fun _ => True)
    (p : Program O ORet ε α) :
    Within answers calls (expand body p) fun _ => True := by
  induction p with
  | done r => exact fun _ _ => trivial
  | call o next ih =>
      refine within_bind (within_attempt (Q := fun _ => True) (h o)
        fun _ => trivial) fun r _ => ih r

theorem Interleaves.reaches (h : Interleaves M pool s pool' s')
    (hended : ∀ j, j ≠ i → ∃ r, pool j = .done r) :
    Reaches (M i) (pool i) s (pool' i) s' := by
  induction h with
  | refl => exact .refl _ _
  | @step pool _ j e next a _ _ _ turn first _ ih =>
      obtain rfl : j = i := by
        by_contra hj
        obtain ⟨r, hdone⟩ := hended j hj
        rw [hdone] at turn
        cases turn
      have hrest := ih fun k hk => by
        rw [Function.update_of_ne hk]
        exact hended k hk
      rw [Function.update_self] at hrest
      rw [turn]
      exact .step first hrest

end Effectful
