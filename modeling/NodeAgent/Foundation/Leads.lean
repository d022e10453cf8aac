import NodeAgent.Foundation.Machine

/-!
# What a program can do

`Sat` speaks of every run.  Here one run is enough: from each state that meets
a condition, some run gets to a given program, or comes to issue a given call.
-/

namespace Effectful

open Program

variable {E : Type} {Ret : E → Type} {ε α β σ : Type}
variable (M : Machine E Ret ε σ)

theorem Reaches.bind {M : Machine E Ret ε σ} {p q : Program E Ret ε α}
    {s t : σ} (h : Reaches M p s q t) (f : α → Program E Ret ε β) :
    Reaches M (p.bind f) s (q.bind f) t := by
  induction h with
  | refl => exact .refl _ _
  | step hstep _ ih => exact .step hstep ih

theorem Reaches.attempt {M : Machine E Ret ε σ} {p q : Program E Ret ε α}
    {s t : σ} (h : Reaches M p s q t) :
    Reaches M p.attempt s q.attempt t := by
  induction h with
  | refl => exact .refl _ _
  | step hstep _ ih => exact .step hstep ih

theorem Exec.split {M : Machine E Ret ε σ} {p : Program E Ret ε α}
    {f : α → Program E Ret ε β} {s t : σ} {b : β}
    (h : Exec M (p.bind f) s (.ok b) t) :
    ∃ a u, Exec M p s (.ok a) u ∧ Exec M (f a) u (.ok b) t := by
  induction p generalizing s with
  | done r =>
      cases r with
      | ok a => exact ⟨a, s, .refl _ _, h⟩
      | error x => cases h
  | call e next ih =>
      cases h with
      | step first rest =>
          obtain ⟨a, u, hfirst, hsecond⟩ := ih _ rest
          exact ⟨a, u, .step first hfirst, hsecond⟩

theorem Exec.attempted {M : Machine E Ret ε σ} {p : Program E Ret ε α}
    {r : Except ε α} {s t : σ} (h : Exec M p.attempt s (.ok r) t) :
    Exec M p s r t := by
  induction p generalizing s with
  | done r' =>
      cases h
      exact .refl _ _
  | call e next ih =>
      cases h with
      | step first rest => exact .step first (ih _ rest)

theorem Exec.performed {M : Machine E Ret ε σ} {e : E} {r : Except ε (Ret e)}
    {s t : σ} (h : Exec M (perform e) s r t) : M.Step s e r t := by
  cases h with
  | step first rest =>
      cases rest
      exact first

def Leads (I : σ → Prop) (p q : Program E Ret ε α) (J : σ → Prop) : Prop :=
  ∀ s, I s → ∃ t, J t ∧ Reaches M p s q t

def Issues (I : σ → Prop) (p : Program E Ret ε α) (e : E) (J : σ → Prop) :
    Prop :=
  ∀ s, I s → ∃ next t, J t ∧ Reaches M p s (.call e next) t

variable {M} {I J K : σ → Prop} {p q : Program E Ret ε α} {e : E}
variable {f : α → Program E Ret ε β} {guard : σ → E → Prop}
variable {post : Except ε α → σ → Prop} {s : σ}

theorem leads_perform {r : Except ε (Ret e)}
    (h : ∀ s, I s → ∃ t, J t ∧ M.Step s e r t) :
    Leads M I (perform e) (.done r) J := by
  intro s hs
  obtain ⟨t, ht, hstep⟩ := h s hs
  exact ⟨t, ht, .step hstep (.refl _ _)⟩

theorem Leads.bind (h : Leads M I p q J) (f : α → Program E Ret ε β) :
    Leads M I (p >>= f) (q >>= f) J := by
  intro s hs
  obtain ⟨t, ht, hreach⟩ := h s hs
  exact ⟨t, ht, hreach.bind f⟩

theorem Leads.attempt (h : Leads M I p q J) :
    Leads M I p.attempt q.attempt J := by
  intro s hs
  obtain ⟨t, ht, hreach⟩ := h s hs
  exact ⟨t, ht, hreach.attempt⟩

theorem Leads.trans {r : Program E Ret ε α} (h : Leads M I p q J)
    (h' : Leads M J q r K) : Leads M I p r K := by
  intro s hs
  obtain ⟨t, ht, hreach⟩ := h s hs
  obtain ⟨u, hu, hreach'⟩ := h' t ht
  exact ⟨u, hu, hreach.trans hreach'⟩

theorem issues_perform (e : E) : Issues M I (perform e) e I :=
  fun s hs => ⟨_, s, hs, .refl _ _⟩

theorem Issues.bind (h : Issues M I p e J) (f : α → Program E Ret ε β) :
    Issues M I (p >>= f) e J := by
  intro s hs
  obtain ⟨next, t, ht, hreach⟩ := h s hs
  exact ⟨_, t, ht, hreach.bind f⟩

theorem Issues.attempt (h : Issues M I p e J) :
    Issues M I p.attempt e J := by
  intro s hs
  obtain ⟨next, t, ht, hreach⟩ := h s hs
  exact ⟨_, t, ht, hreach.attempt⟩

theorem Issues.after (h' : Issues M J q e K) (h : Leads M I p q J) :
    Issues M I p e K := by
  intro s hs
  obtain ⟨t, ht, hreach⟩ := h s hs
  obtain ⟨next, u, hu, hreach'⟩ := h' t ht
  exact ⟨next, u, hu, hreach.trans hreach'⟩

theorem Leads.issues {a : α} (h : Leads M I p (.done (.ok a)) J)
    (h' : Issues M J (f a) e K) : Issues M I (p >>= f) e K :=
  Issues.after h' (h.bind f)

theorem Leads.caught {r : Except ε α} {f : Except ε α → Program E Ret ε β}
    (h : Leads M I p (.done r) J) (h' : Issues M J (f r) e K) :
    Issues M I (p.attempt >>= f) e K :=
  Issues.after h' (h.attempt.bind f)

theorem Issues.guarded (h : Issues M I p e J) (hsat : Sat M guard p post s)
    (hs : I s) : ∃ t, J t ∧ guard t e := by
  obtain ⟨next, t, ht, hreach⟩ := h s hs
  exact ⟨t, ht, (hsat.reaches hreach).1⟩

end Effectful
