import NodeAgent.Foundation.Machine

/-!
# Programs that return

A program completes from a state when every run of it returns a value that, with
the state it ends in, satisfies a postcondition.
-/

namespace Effectful

open Program

variable {E : Type} {Ret : E → Type} {ε α β σ : Type}

def Completes (M : Machine E Ret ε σ) (p : Program E Ret ε α)
    (post : α → σ → Prop) (s : σ) : Prop :=
  Sat M (fun _ _ => True) p (fun r s' => ∃ a, r = .ok a ∧ post a s') s

variable {M : Machine E Ret ε σ} {s : σ} {p : Program E Ret ε α}
variable {f : α → Program E Ret ε β}
variable {post post' m : α → σ → Prop} {goal : β → σ → Prop}

theorem completes_pure {a : α} (h : post a s) : Completes M (pure a) post s :=
  ⟨a, rfl, h⟩

theorem completes_perform {e : E} {post : Ret e → σ → Prop}
    (h : ∀ r s', M.Step s e r s' → ∃ a, r = .ok a ∧ post a s') :
    Completes M (perform e) post s :=
  ⟨trivial, h⟩

theorem Completes.weaken (hp : Completes M p post s)
    (h : ∀ a s', post a s' → post' a s') : Completes M p post' s :=
  Sat.weaken hp fun _ s' ⟨a, heq, ha⟩ => ⟨a, heq, h a s' ha⟩

theorem Completes.bind (hp : Completes M p m s)
    (hf : ∀ a s', m a s' → Completes M (f a) goal s') :
    Completes M (p >>= f) goal s := by
  refine Sat.bind hp ?_ ?_
  · rintro a s' ⟨_, heq, ha⟩
    cases heq
    exact hf a s' ha
  · rintro x s' ⟨_, heq, _⟩
    cases heq

theorem Completes.attempt (hp : Completes M p post s) :
    Completes M p.attempt (fun r s' => ∃ a, r = .ok a ∧ post a s') s :=
  sat_attempt.mpr (Sat.weaken hp fun _ _ ha => ⟨_, rfl, ha⟩)

theorem Completes.ignoring {caught : ε → Bool} {p : Program E Ret ε Unit}
    {post : Unit → σ → Prop} (hp : Completes M p post s) :
    Completes M (p.ignoring caught) post s := by
  refine sat_ignoring.mpr (Sat.weaken hp ?_)
  rintro _ s' ⟨a, rfl, ha⟩
  exact ⟨(), rfl, ha⟩

theorem completes_onlyIf {c : Bool} {p : Program E Ret ε Unit}
    {post : Unit → σ → Prop} (hp : c = true → Completes M p post s)
    (hskip : c = false → post () s) : Completes M (onlyIf c p) post s := by
  cases c with
  | true => exact hp rfl
  | false => exact completes_pure (hskip rfl)

end Effectful
