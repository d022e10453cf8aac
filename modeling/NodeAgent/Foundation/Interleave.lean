import NodeAgent.Foundation.Always

/-!
# Two programs on one state

Each of two programs makes its calls in its own order; which of them makes the
next call is open.
-/

namespace Effectful

open Program

variable {E : Type} {Ret : E → Type} {ε α β σ : Type}

/-- From `p` beside `q` in state `s` to `p'` beside `q'` in state `t`. -/
inductive Races (M : Machine E Ret ε σ) :
    Program E Ret ε α → Program E Ret ε β → σ →
    Program E Ret ε α → Program E Ret ε β → σ → Prop
  | refl (p : Program E Ret ε α) (q : Program E Ret ε β) (s : σ) :
      Races M p q s p q s
  | left {e : E} {next : Except ε (Ret e) → Program E Ret ε α}
      {r : Except ε (Ret e)} {q q' : Program E Ret ε β}
      {p' : Program E Ret ε α} {s s' t : σ} (first : M.Step s e r s')
      (rest : Races M (next r) q s' p' q' t) :
      Races M (.call e next) q s p' q' t
  | right {e : E} {next : Except ε (Ret e) → Program E Ret ε β}
      {r : Except ε (Ret e)} {p p' : Program E Ret ε α}
      {q' : Program E Ret ε β} {s s' t : σ} (first : M.Step s e r s')
      (rest : Races M p (next r) s' p' q' t) :
      Races M p (.call e next) s p' q' t

variable {M : Machine E Ret ε σ} {p p' : Program E Ret ε α}
variable {q q' : Program E Ret ε β} {s s' t : σ}

theorem Reaches.races (h : Reaches M p s p' s') (h' : Reaches M q s' q' t) :
    Races M p q s p' q' t := by
  induction h with
  | refl =>
      induction h' with
      | refl => exact .refl _ _ _
      | step first _ ih => exact .right first ih
  | step first _ ih => exact .left first (ih h')

theorem Races.first {e : E} {next : Except ε (Ret e) → Program E Ret ε β}
    {r : Except ε β} (h : Races M p (.call e next) s p' (.done r) t) :
    ∃ p₁ s₁ a s₂, Reaches M p s p₁ s₁ ∧ M.Step s₁ e a s₂ ∧
      Races M p₁ (next a) s₂ p' (.done r) t := by
  generalize hq : Program.call e next = q at h
  generalize hq' : (Program.done r : Program E Ret ε β) = q' at h
  induction h with
  | refl =>
      subst hq
      cases hq'
  | left first rest ih =>
      obtain ⟨p₁, s₁, a, s₂, hreaches, hstep, hrest⟩ := ih hq hq'
      exact ⟨p₁, s₁, a, s₂, .step first hreaches, hstep, hrest⟩
  | right first rest =>
      cases hq
      subst hq'
      exact ⟨_, _, _, _, .refl _ _, first, rest⟩

theorem Races.last {r r' : Except ε β}
    (h : Races M p (.done r) s p' (.done r') t) : r = r' ∧ Reaches M p s p' t := by
  generalize hq : (Program.done r : Program E Ret ε β) = q at h
  generalize hq' : (Program.done r' : Program E Ret ε β) = q' at h
  induction h with
  | refl =>
      subst hq
      exact ⟨(Program.done.inj hq').symm, .refl _ _⟩
  | left first rest ih =>
      obtain ⟨heq, hreaches⟩ := ih hq hq'
      exact ⟨heq, .step first hreaches⟩
  | right first rest => cases hq

end Effectful
