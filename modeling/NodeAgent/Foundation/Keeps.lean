import NodeAgent.Foundation.Always

/-!
# Conditions that a program keeps

Rules for a condition that holds before and after a program, however the
program ends, while every call on the way meets a guard.
-/

namespace Effectful

open Program

variable {E : Type} {Ret : E → Type} {ε α β σ : Type}

/-- From every state in `inv` the calls meet the guard and the end is in `inv`. -/
def Keeps (M : Machine E Ret ε σ) (guard : σ → E → Prop) (inv : σ → Prop)
    (p : Program E Ret ε α) : Prop :=
  ∀ s, inv s → Sat M guard p (fun _ => inv) s

variable {M : Machine E Ret ε σ} {guard : σ → E → Prop} {inv : σ → Prop}

theorem keeps_pure (a : α) :
    Keeps M guard inv (pure a : Program E Ret ε α) := fun _ h => h

theorem keeps_raise (x : ε) :
    Keeps M guard inv (raise x : Program E Ret ε α) := fun _ h => h

theorem keeps_bind {p : Program E Ret ε α} {f : α → Program E Ret ε β}
    (hp : Keeps M guard inv p) (hf : ∀ a, Keeps M guard inv (f a)) :
    Keeps M guard inv (p >>= f) := by
  intro s h
  refine sat_bind'.mpr ((hp s h).weaken fun r s' hs' => ?_)
  cases r with
  | ok a => exact hf a s' hs'
  | error x => exact hs'

theorem keeps_attempt {p : Program E Ret ε α} (hp : Keeps M guard inv p) :
    Keeps M guard inv p.attempt :=
  fun s h => sat_attempt.mpr (hp s h)

theorem keeps_perform {e : E} (hguard : ∀ s, inv s → guard s e)
    (he : ∀ s r s', inv s → M.Step s e r s' → inv s') :
    Keeps M guard inv (perform e) :=
  fun s h => ⟨hguard s h, fun r s' hstep => he s r s' h hstep⟩

theorem keeps_ignoring {p : Program E Ret ε Unit} {caught : ε → Bool}
    (hp : Keeps M guard inv p) : Keeps M guard inv (p.ignoring caught) := by
  refine fun s h => sat_ignoring.mpr ((hp s h).weaken fun r s' hs' => ?_)
  cases r with
  | ok => exact hs'
  | error x => by_cases hx : caught x <;> simpa [hx] using hs'

theorem keeps_onlyIf {p : Program E Ret ε Unit} {c : Bool}
    (hp : c = true → Keeps M guard inv p) :
    Keeps M guard inv (onlyIf c p) := by
  cases c with
  | false => exact keeps_pure ()
  | true => exact hp rfl

theorem keeps_forEach {f : α → Program E Ret ε Unit} {as : List α}
    (h : ∀ a ∈ as, Keeps M guard inv (f a)) :
    Keeps M guard inv (forEach f as) :=
  fun _ hs => sat_forEach (fun a ha s hs => h a ha s hs) hs

theorem keeps_of_always {answers : (e : E) → Except ε (Ret e) → Prop}
    {calls : E → Prop} {ends : Except ε α → Prop} {p : Program E Ret ε α}
    (hp : Always answers calls p ends)
    (hguard : ∀ s e, inv s → calls e → guard s e)
    (hstep : ∀ s e r s', inv s → calls e → M.Step s e r s' →
      answers e r ∧ inv s') :
    Keeps M guard inv p :=
  fun _ h => (hp.sat_keeping hstep h).mono
    (fun s e hs => hguard s e hs.1 hs.2) fun _ _ hs => hs.1

/-! ## Loops that get something done -/

variable {I J : σ → Prop} {s : σ}

theorem sat_forEach_ok {f : α → Program E Ret ε Unit} {as : List α}
    (h : ∀ a ∈ as, ∀ s, J s →
      Sat M guard (f a) (fun r s' => r = .ok () → J s') s) (start : J s) :
    Sat M guard (forEach f as) (fun r s' => r = .ok () → J s') s := by
  induction as generalizing s with
  | nil => exact fun _ => start
  | cons a as ih =>
      refine Sat.bind (h a (by simp) s start) (fun _ s' h' => ?_)
        fun x s' _ heq => nomatch heq
      exact ih (fun b hb => h b (by simp [hb])) (h' rfl)

theorem sat_forEach_once {f : α → Program E Ret ε Unit} {as : List α}
    {P : α → Prop} (hmem : ∃ a ∈ as, P a)
    (hbefore : ∀ a ∈ as, ¬P a → ∀ s, I s →
      Sat M guard (f a) (fun r s' => r = .ok () → I s') s)
    (hround : ∀ a ∈ as, P a → ∀ s, I s →
      Sat M guard (f a) (fun r s' => r = .ok () → J s') s)
    (hafter : ∀ a ∈ as, ∀ s, J s →
      Sat M guard (f a) (fun r s' => r = .ok () → J s') s)
    (start : I s) :
    Sat M guard (forEach f as) (fun r s' => r = .ok () → J s') s := by
  induction as generalizing s with
  | nil => obtain ⟨a, ha, -⟩ := hmem; cases ha
  | cons a as ih =>
      by_cases ha : P a
      · refine Sat.bind (hround a (by simp) ha s start)
          (fun _ s' h' => ?_) fun x s' _ heq => nomatch heq
        exact sat_forEach_ok (fun b hb => hafter b (by simp [hb])) (h' rfl)
      · refine Sat.bind (hbefore a (by simp) ha s start)
          (fun _ s' h' => ?_) fun x s' _ heq => nomatch heq
        have hmem' : ∃ b ∈ as, P b := by
          obtain ⟨b, hb, hP⟩ := hmem
          rcases List.mem_cons.mp hb with rfl | hb
          · exact absurd hP ha
          · exact ⟨b, hb, hP⟩
        exact ih hmem' (fun b hb => hbefore b (by simp [hb]))
          (fun b hb => hround b (by simp [hb]))
          (fun b hb => hafter b (by simp [hb])) (h' rfl)

theorem sat_forEach_rest {f : α → Program E Ret ε Unit} {as : List α}
    {K : List α → σ → Prop}
    (hround : ∀ a as s, K (a :: as) s → Sat M guard (f a) (fun r s' =>
      match r with
      | .ok _ => K as s'
      | .error _ => I s') s)
    (hend : ∀ s, K [] s → I s) (start : K as s) :
    Sat M guard (forEach f as) (fun _ => I) s := by
  induction as generalizing s with
  | nil => exact hend s start
  | cons a as ih =>
      exact Sat.bind (hround a as s start) (fun _ s' h => ih h)
        fun x s' h => h

end Effectful
