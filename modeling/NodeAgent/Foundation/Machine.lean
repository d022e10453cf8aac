import NodeAgent.Foundation.Program

/-!
# Machines that answer calls, and what holds of every run

A machine says how each call may be answered and how its state moves.  `Reaches`
runs a program call by call, so a program that is cut short is a program that
reached something other than its end.  `Sat` is the weakest condition under
which every call is issued in a state the guard allows and the end satisfies a
postcondition.
-/

namespace Effectful

open Program

structure Machine (E : Type) (Ret : E → Type) (ε σ : Type) where
  Step : σ → (e : E) → Except ε (Ret e) → σ → Prop

variable {E : Type} {Ret : E → Type} {ε α β σ τ : Type}
variable (M : Machine E Ret ε σ)

/-- The program `p` in state `s` gets, answer by answer, to `q` in state `t`. -/
inductive Reaches : Program E Ret ε α → σ →
    Program E Ret ε α → σ → Prop
  | refl (p : Program E Ret ε α) (s : σ) : Reaches p s p s
  | step {e : E} {next : Except ε (Ret e) → Program E Ret ε α}
      {r : Except ε (Ret e)} {s s' t : σ} {q : Program E Ret ε α}
      (first : M.Step s e r s') (rest : Reaches (next r) s' q t) :
      Reaches (.call e next) s q t

/-- The program `p` started in `s` ends in `t` with the result `r`. -/
def Exec (p : Program E Ret ε α) (s : σ) (r : Except ε α)
    (t : σ) : Prop :=
  Reaches M p s (.done r) t

/--
Every run of the program from the state issues only calls that the guard
allows where they are issued, and ends in the postcondition.
-/
def Sat (guard : σ → E → Prop) : Program E Ret ε α →
    (Except ε α → σ → Prop) → σ → Prop
  | .done r, post, s => post r s
  | .call e next, post, s =>
      guard s e ∧ ∀ r s', M.Step s e r s' → Sat guard (next r) post s'

variable {M}
variable {guard guard' : σ → E → Prop}
variable {post post' : Except ε α → σ → Prop}

theorem Reaches.trans {p q r : Program E Ret ε α} {s t u : σ}
    (first : Reaches M p s q t) (second : Reaches M q t r u) :
    Reaches M p s r u := by
  induction first with
  | refl => exact second
  | step hstep _ ih => exact .step hstep (ih second)

@[simp] theorem sat_done {r : Except ε α} {s : σ} :
    Sat M guard (.done r) post s ↔ post r s := Iff.rfl

@[simp] theorem sat_pure {a : α} {s : σ} :
    Sat M guard (pure a) post s ↔ post (.ok a) s := Iff.rfl

@[simp] theorem sat_raise {x : ε} {s : σ} :
    Sat M guard (raise x) post s ↔ post (.error x) s := Iff.rfl

theorem sat_perform {e : E} {post : Except ε (Ret e) → σ → Prop}
    {s : σ} :
    Sat M guard (perform e) post s ↔
      guard s e ∧ ∀ r s', M.Step s e r s' → post r s' := Iff.rfl

theorem Sat.mono {p : Program E Ret ε α} {s : σ}
    (h : Sat M guard p post s)
    (hguard : ∀ s e, guard s e → guard' s e)
    (hpost : ∀ r s, post r s → post' r s) :
    Sat M guard' p post' s := by
  induction p generalizing s with
  | done r => exact hpost r s h
  | call e next ih =>
      exact ⟨hguard s e h.1, fun r s' hstep => ih r (h.2 r s' hstep)⟩

theorem Sat.weaken {p : Program E Ret ε α} {s : σ}
    (h : Sat M guard p post s) (hpost : ∀ r s, post r s → post' r s) :
    Sat M guard p post' s :=
  h.mono (fun _ _ hg => hg) hpost

theorem sat_congr {p : Program E Ret ε α} {s : σ}
    (h : ∀ r s, post r s ↔ post' r s) :
    Sat M guard p post s ↔ Sat M guard p post' s :=
  ⟨fun hp => hp.weaken fun r s => (h r s).mp,
    fun hp => hp.weaken fun r s => (h r s).mpr⟩

variable (M) in
/-- The continuation of a sequence, as a postcondition of its first half. -/
def andThen (guard : σ → E → Prop) (f : α → Program E Ret ε β)
    (post : Except ε β → σ → Prop) : Except ε α → σ → Prop
  | .ok a, s => Sat M guard (f a) post s
  | .error x, s => post (.error x) s

@[simp] theorem andThen_ok {f : α → Program E Ret ε β} {a : α}
    {post : Except ε β → σ → Prop} {s : σ} :
    andThen M guard f post (.ok a) s = Sat M guard (f a) post s := rfl

@[simp] theorem andThen_error {f : α → Program E Ret ε β} {x : ε}
    {post : Except ε β → σ → Prop} {s : σ} :
    andThen M guard f post (.error x) s = post (.error x) s := rfl

theorem sat_bind {p : Program E Ret ε α} {f : α → Program E Ret ε β}
    {post : Except ε β → σ → Prop} {s : σ} :
    Sat M guard (p.bind f) post s ↔
      Sat M guard p (andThen M guard f post) s := by
  induction p generalizing s with
  | done r => cases r <;> rfl
  | call e next ih =>
      simp only [Program.bind, Sat]
      exact and_congr_right fun _ => forall₃_congr fun r s' _ => ih r

@[simp] theorem sat_bind' {p : Program E Ret ε α} {f : α → Program E Ret ε β}
    {post : Except ε β → σ → Prop} {s : σ} :
    Sat M guard (p >>= f) post s ↔
      Sat M guard p (andThen M guard f post) s := sat_bind

theorem Sat.bind {p : Program E Ret ε α} {f : α → Program E Ret ε β}
    {m : Except ε α → σ → Prop} {post : Except ε β → σ → Prop} {s : σ}
    (hp : Sat M guard p m s)
    (hok : ∀ a s, m (.ok a) s → Sat M guard (f a) post s)
    (herror : ∀ x s, m (.error x) s → post (.error x) s) :
    Sat M guard (p >>= f) post s := by
  refine sat_bind'.mpr (hp.weaken fun r s' hr => ?_)
  cases r with
  | ok a => exact hok a s' hr
  | error x => exact herror x s' hr

theorem Sat.andThen {p : Program E Ret ε α} {f : α → Program E Ret ε β}
    {m : Except ε α → σ → Prop} {post : Except ε β → σ → Prop} {s : σ}
    (hp : Sat M guard p m s) (herror : ∀ x s, post (.error x) s)
    (hok : ∀ a s, m (.ok a) s → Sat M guard (f a) post s) :
    Sat M guard (p >>= f) post s :=
  hp.bind hok fun x s _ => herror x s

@[simp] theorem sat_attempt {p : Program E Ret ε α}
    {post : Except ε (Except ε α) → σ → Prop} {s : σ} :
    Sat M guard p.attempt post s ↔
      Sat M guard p (fun r s' => post (.ok r) s') s := by
  induction p generalizing s with
  | done r => rfl
  | call e next ih =>
      simp only [attempt, Sat]
      exact and_congr_right fun _ => forall₃_congr fun r s' _ => ih r

theorem sat_ignoring {caught : ε → Bool} {p : Program E Ret ε Unit}
    {post : Except ε Unit → σ → Prop} {s : σ} :
    Sat M guard (p.ignoring caught) post s ↔
      Sat M guard p (fun r s' => match r with
        | .ok _ => post (.ok ()) s'
        | .error x =>
            if caught x then post (.ok ()) s' else post (.error x) s') s := by
  rw [ignoring, sat_bind, sat_attempt]
  refine ⟨fun h => h.weaken fun r s' => ?_, fun h => h.weaken fun r s' => ?_⟩ <;>
    cases r with
    | ok => exact id
    | error x => by_cases hx : caught x <;> simp [andThen, hx, raise]

theorem sat_onlyIf {c : Bool} {p : Program E Ret ε Unit}
    {post : Except ε Unit → σ → Prop} {s : σ} :
    Sat M guard (onlyIf c p) post s ↔
      if c then Sat M guard p post s else post (.ok ()) s := by
  cases c <;> rfl

theorem sat_forEach {f : α → Program E Ret ε Unit}
    {inv : σ → Prop} {as : List α} {s : σ}
    (round : ∀ a ∈ as, ∀ s, inv s → Sat M guard (f a) (fun _ => inv) s)
    (start : inv s) :
    Sat M guard (forEach f as) (fun _ => inv) s := by
  induction as generalizing s with
  | nil => exact start
  | cons a as ih =>
      rw [forEach, sat_bind]
      refine (round a (by simp) s start).weaken fun r t ht => ?_
      cases r with
      | ok => exact ih (fun b hb => round b (by simp [hb])) ht
      | error x => exact ht

theorem sat_of_invariant {I : σ → Prop}
    (hstep : ∀ s e r s', I s → M.Step s e r s' → I s')
    (p : Program E Ret ε α) {s : σ} (start : I s) :
    Sat M (fun _ _ => True) p (fun _ => I) s := by
  induction p generalizing s with
  | done r => exact start
  | call e next ih =>
      exact ⟨trivial, fun r s' h => ih r (hstep s e r s' start h)⟩

theorem Reaches.invariant {I : σ → Prop} {p q : Program E Ret ε α} {s t : σ}
    (h : Reaches M p s q t)
    (hstep : ∀ s e r s', I s → M.Step s e r s' → I s') (start : I s) :
    I t := by
  induction h with
  | refl => exact start
  | step first _ ih => exact ih (hstep _ _ _ _ start first)

theorem Sat.keeping {I : σ → Prop} {p : Program E Ret ε α} {s : σ}
    (h : Sat M guard p post s)
    (hstep : ∀ s e r s', I s → guard s e → M.Step s e r s' → I s')
    (start : I s) :
    Sat M (fun s _ => I s) p (fun r s' => post r s' ∧ I s') s := by
  induction p generalizing s with
  | done r => exact ⟨h, start⟩
  | call e next ih =>
      exact ⟨start, fun r s' hs =>
        ih r (h.2 r s' hs) (hstep s e r s' start h.1 hs)⟩

theorem Sat.reaches {p q : Program E Ret ε α} {s t : σ}
    (h : Sat M guard p post s) (hr : Reaches M p s q t) :
    Sat M guard q post t := by
  induction hr with
  | refl => exact h
  | step hstep _ ih => exact ih (h.2 _ _ hstep)

theorem Sat.exec {p : Program E Ret ε α} {s t : σ} {r : Except ε α}
    (h : Sat M guard p post s) (hr : Exec M p s r t) : post r t :=
  h.reaches hr

theorem Sat.cut {p : Program E Ret ε α} {s t : σ} {inv : σ → Prop}
    (h : Sat M guard p post s)
    (hguard : ∀ s e, guard s e → inv s) (hpost : ∀ r s, post r s → inv s)
    {q : Program E Ret ε α} (hr : Reaches M p s q t) : inv t := by
  have hq := h.reaches hr
  cases q with
  | done r => exact hpost r t hq
  | call e next => exact hguard t e hq.1

theorem sat_of_exec {p : Program E Ret ε α} {s : σ}
    (h : ∀ r t, Exec M p s r t → post r t) :
    Sat M (fun _ _ => True) p post s := by
  induction p generalizing s with
  | done r => exact h r s (.refl _ _)
  | call e next ih =>
      exact ⟨trivial, fun r s' hstep =>
        ih r fun r' t ht => h r' t (.step hstep ht)⟩

theorem Sat.exists_exec {p : Program E Ret ε α} {s : σ}
    (h : Sat M guard p post s)
    (hanswered : ∀ s e, guard s e → ∃ r s', M.Step s e r s') :
    ∃ r t, Exec M p s r t := by
  induction p generalizing s with
  | done r => exact ⟨r, s, .refl _ _⟩
  | call e next ih =>
      obtain ⟨r, s', hstep⟩ := hanswered s e h.1
      obtain ⟨r', t, hexec⟩ := ih r (h.2 r s' hstep)
      exact ⟨r', t, .step hstep hexec⟩

theorem Sat.both {p : Program E Ret ε α} {s : σ}
    (h : Sat M guard p post s) (h' : Sat M guard' p post' s) :
    Sat M (fun s e => guard s e ∧ guard' s e) p
      (fun r s => post r s ∧ post' r s) s := by
  induction p generalizing s with
  | done r => exact ⟨h, h'⟩
  | call e next ih =>
      exact ⟨⟨h.1, h'.1⟩, fun r s' hstep =>
        ih r (h.2 r s' hstep) (h'.2 r s' hstep)⟩

/-! ## One machine seen through another -/

theorem Reaches.widen {M' : Machine E Ret ε σ} {p q : Program E Ret ε α}
    {s t : σ} (h : Reaches M p s q t)
    (hstep : ∀ s e r s', M.Step s e r s' → M'.Step s e r s') :
    Reaches M' p s q t := by
  induction h with
  | refl => exact .refl _ _
  | step first _ ih => exact .step (hstep _ _ _ _ first) ih

variable {N : Machine E Ret ε τ}

/--
What a program satisfies in a machine it satisfies in every machine that the
first one simulates on the calls that the program makes.
-/
theorem Sat.simulate {R : σ → τ → Prop} {calls : σ → E → Prop}
    {guardN : τ → E → Prop} {postN : Except ε α → τ → Prop}
    (hsim : ∀ s t e r s', R s t → calls s e → M.Step s e r s' →
      ∃ t', N.Step t e r t' ∧ R s' t')
    {p : Program E Ret ε α} {s : σ} {t : τ} (hrel : R s t)
    (hM : Sat M calls p (fun _ _ => True) s)
    (hN : Sat N guardN p postN t) :
    Sat M (fun s e => calls s e ∧ ∃ t, R s t ∧ guardN t e) p
      (fun r s' => ∃ t', R s' t' ∧ postN r t') s := by
  induction p generalizing s t with
  | done r => exact ⟨t, hrel, hN⟩
  | call e next ih =>
      refine ⟨⟨hM.1, t, hrel, hN.1⟩, fun r s' hstep => ?_⟩
      obtain ⟨t', ht', hrel'⟩ := hsim s t e r s' hrel hM.1 hstep
      exact ih r hrel' (hM.2 r s' hstep) (hN.2 r t' ht')

/-! ## Runs whose steps meet a condition -/

/-- The machine that makes only the steps that the condition allows. -/
def Machine.when (M : Machine E Ret ε σ) (c : σ → E → Prop) :
    Machine E Ret ε σ where
  Step s e r s' := c s e ∧ M.Step s e r s'

end Effectful
