import NodeAgent.Foundation.Machine
import Mathlib.Order.Basic

/-!
# Facts about a program that hold in every state

What calls a program can make and what it can return, when nothing is known of
the state but that the answers are of a given kind.  Such facts survive any
interference, since no state is involved.
-/

namespace Effectful

open Program

variable {E : Type} {Ret : E → Type} {ε α β σ : Type}

/-- The machine without a state whose answers are the given ones. -/
def oracle (answers : (e : E) → Except ε (Ret e) → Prop) :
    Machine E Ret ε Unit where
  Step _ e r _ := answers e r

variable (answers : (e : E) → Except ε (Ret e) → Prop) (calls : E → Prop)

/-- Every run makes only the given calls and ends as given. -/
def Always (p : Program E Ret ε α) (ends : Except ε α → Prop) : Prop :=
  Sat (oracle answers) (fun _ e => calls e) p (fun r _ => ends r) ()

/-- As `Always`, with nothing said of a run that raises. -/
def Within (p : Program E Ret ε α) (Q : α → Prop) : Prop :=
  Always answers calls p fun r => ∀ a, r = .ok a → Q a

variable {answers calls}
variable {p : Program E Ret ε α} {ends ends' : Except ε α → Prop}

theorem Always.weaken (h : Always answers calls p ends)
    (hends : ∀ r, ends r → ends' r) : Always answers calls p ends' :=
  Sat.weaken h fun r _ => hends r

theorem Always.widen {calls' : E → Prop} (h : Always answers calls p ends)
    (hcalls : ∀ e, calls e → calls' e) : Always answers calls' p ends :=
  Sat.mono h (fun _ => hcalls) fun _ _ => id

theorem Always.narrow {answers' : (e : E) → Except ε (Ret e) → Prop}
    (h : Always answers calls p ends)
    (hanswers : ∀ e r, calls e → answers' e r → answers e r) :
    Always answers' calls p ends := by
  unfold Always at h ⊢
  induction p with
  | done r => exact h
  | call e next ih =>
      exact ⟨h.1, fun r _ hr => ih r (h.2 r () (hanswers e r h.1 hr))⟩

theorem Always.both {calls' : E → Prop} (h : Always answers calls p ends)
    (h' : Always answers calls' p ends') :
    Always answers calls p fun r => ends r ∧ ends' r :=
  Sat.mono (Sat.both h h') (fun _ _ h => h.1) fun _ _ h => h

theorem Always.and {calls' : E → Prop} (h : Always answers calls p ends)
    (h' : Always answers calls' p ends') :
    Always answers (fun e => calls e ∧ calls' e) p
      fun r => ends r ∧ ends' r := Sat.both h h'

theorem always_bind {f : α → Program E Ret ε β} {ends : Except ε β → Prop}
    {m : Except ε α → Prop} (hp : Always answers calls p m)
    (hok : ∀ a, m (.ok a) → Always answers calls (f a) ends)
    (herror : ∀ x, m (.error x) → ends (.error x)) :
    Always answers calls (p >>= f) ends := by
  refine sat_bind'.mpr (Sat.weaken hp fun r _ hr => ?_)
  cases r with
  | ok a => exact hok a hr
  | error x => exact herror x hr

theorem always_attempt {ends : Except ε (Except ε α) → Prop}
    (hp : Always answers calls p fun r => ends (.ok r)) :
    Always answers calls p.attempt ends :=
  sat_attempt.mpr hp

theorem always_swallowing {p : Program E Ret ε Unit}
    (hp : Always answers calls p fun _ => True) :
    Always answers calls (p.ignoring fun _ => true) fun r => r = .ok () := by
  refine sat_ignoring.mpr (Sat.weaken hp fun r _ _ => ?_)
  cases r <;> simp

theorem always_perform {e : E} {ends : Except ε (Ret e) → Prop} (he : calls e)
    (hends : ∀ r, answers e r → ends r) :
    Always answers calls (perform e) ends :=
  ⟨he, fun r _ hr => hends r hr⟩

section Within

variable {Q Q' : α → Prop}

theorem Within.weaken (h : Within answers calls p Q)
    (himp : ∀ a, Q a → Q' a) : Within answers calls p Q' :=
  Always.weaken h fun _ hr a ha => himp a (hr a ha)

theorem Within.always (h : Within answers calls p Q) :
    Always answers calls p fun _ => True :=
  Always.weaken h fun _ _ => trivial

theorem Within.attempt (h : Within answers calls p Q) :
    Always answers calls p.attempt fun r =>
      ∃ result, r = .ok result ∧ ∀ a, result = .ok a → Q a :=
  always_attempt (Always.weaken h fun r hr => ⟨r, rfl, hr⟩)

theorem within_pure {a : α} (h : Q a) :
    Within answers calls (pure a) Q := by
  intro b hb
  cases hb
  exact h

theorem within_raise {x : ε} : Within answers calls (raise x) Q := by
  intro b hb
  cases hb

theorem within_perform {e : E} {Q : Ret e → Prop} (he : calls e)
    (hreturns : ∀ a, answers e (.ok a) → Q a) :
    Within answers calls (perform e) Q := by
  refine always_perform he fun r hr a ha => ?_
  subst ha
  exact hreturns a hr

theorem within_bind {f : α → Program E Ret ε β} {Q' : β → Prop}
    (hp : Within answers calls p Q)
    (hf : ∀ a, Q a → Within answers calls (f a) Q') :
    Within answers calls (p >>= f) Q' :=
  always_bind hp (fun a ha => hf a (ha a rfl)) fun _ _ _ hb => by cases hb

theorem within_attempt {Q : Except ε α → Prop}
    (hp : Within answers calls p fun a => Q (.ok a))
    (herror : ∀ x, Q (.error x)) :
    Within answers calls p.attempt Q := by
  refine always_attempt (Always.weaken hp fun r hr b hb => ?_)
  cases hb
  cases r with
  | ok a => exact hr a rfl
  | error x => exact herror x

theorem within_attempt_ok (hp : Within answers calls p Q) :
    Within answers calls p.attempt fun r => ∀ a, r = .ok a → Q a := by
  refine within_attempt (hp.weaken ?_) ?_
  · intro a ha b heq
    cases heq
    exact ha
  · exact fun _ _ heq => nomatch heq

theorem within_ignoring {p : Program E Ret ε Unit} {caught : ε → Bool}
    (hp : Within answers calls p fun _ => True) :
    Within answers calls (p.ignoring caught) fun _ => True := by
  refine sat_ignoring.mpr (Sat.weaken hp fun r _ _ => ?_)
  cases r with
  | ok => simp
  | error x => by_cases hx : caught x <;> simp [hx]

theorem within_onlyIf {c : Bool} {p : Program E Ret ε Unit}
    (hp : c = true → Within answers calls p fun _ => True) :
    Within answers calls (onlyIf c p) fun _ => True := by
  cases c with
  | false => exact within_pure trivial
  | true => exact hp rfl

theorem within_forEach {f : α → Program E Ret ε Unit} {as : List α}
    (h : ∀ a ∈ as, Within answers calls (f a) fun _ => True) :
    Within answers calls (forEach f as) fun _ => True := by
  induction as with
  | nil => exact within_pure trivial
  | cons a as ih =>
      refine within_bind (h a (by simp)) fun _ _ => ?_
      exact ih fun b hb => h b (by simp [hb])

end Within

/-! ## From a machine without a state to one with a state -/

variable {M : Machine E Ret ε σ} {guard : σ → E → Prop}
variable {post : Except ε α → σ → Prop}

theorem Always.sat (h : Always answers calls p ends) {s : σ}
    (hstep : ∀ s e r s', calls e → M.Step s e r s' → answers e r) :
    Sat M (fun _ e => calls e) p (fun r _ => ends r) s := by
  induction p generalizing s with
  | done r => exact h
  | call e next ih =>
      exact ⟨h.1, fun r s' hr => ih r (h.2 r () (hstep s e r s' h.1 hr))⟩

theorem Always.sat_keeping {I : σ → Prop} (h : Always answers calls p ends)
    {s : σ} (hstep : ∀ s e r s', I s → calls e → M.Step s e r s' →
      answers e r ∧ I s') (start : I s) :
    Sat M (fun s e => I s ∧ calls e) p (fun r s' => I s' ∧ ends r) s := by
  induction p generalizing s with
  | done r => exact ⟨start, h⟩
  | call e next ih =>
      refine ⟨⟨start, h.1⟩, fun r s' hr => ?_⟩
      obtain ⟨hanswer, hkept⟩ := hstep s e r s' start h.1 hr
      exact ih r (h.2 r () hanswer) hkept

/--
As `Always.sat_keeping`, where what is known of the answers grows along a run:
the knowledge `k s` of each state holds of the answers from there on.
-/
theorem Always.sat_growing {K : Type} [Preorder K] {k : σ → K} {I : σ → Prop}
    {answers : K → (e : E) → Except ε (Ret e) → Prop} {calls : K → E → Prop}
    {ends : K → Except ε α → Prop}
    (hmono : ∀ κ κ', κ ≤ κ' → ∀ e r, answers κ e r → answers κ' e r)
    (hstep : ∀ s e r s', I s → calls (k s) e → M.Step s e r s' →
      answers (k s') e r ∧ k s ≤ k s' ∧ I s')
    {s : σ} (h : ∀ κ, k s ≤ κ → Always (answers κ) (calls κ) p (ends κ))
    (start : I s) :
    Sat M (fun s e => I s ∧ calls (k s) e) p
      (fun r s' => I s' ∧ ends (k s') r) s := by
  induction p generalizing s with
  | done r => exact ⟨start, h _ le_rfl⟩
  | call e next ih =>
      refine ⟨⟨start, (h _ le_rfl).1⟩, fun r s' hr => ?_⟩
      obtain ⟨hanswer, hle, hkept⟩ := hstep s e r s' start (h _ le_rfl).1 hr
      exact ih r (fun κ hκ => (h κ (hle.trans hκ)).2 r ()
        (hmono _ _ hκ e r hanswer)) hkept

theorem Always.sat_of_stutter (h : Always answers calls p ends) {s : σ}
    (hstep : ∀ e r s', calls e → M.Step s e r s' → answers e r ∧ s' = s)
    (hguard : ∀ e, calls e → guard s e)
    (hpost : ∀ r, ends r → post r s) : Sat M guard p post s := by
  induction p with
  | done r => exact hpost r h
  | call e next ih =>
      refine ⟨hguard e h.1, fun r s' hr => ?_⟩
      obtain ⟨hanswer, rfl⟩ := hstep e r s' h.1 hr
      exact ih r (h.2 r () hanswer)

end Effectful
