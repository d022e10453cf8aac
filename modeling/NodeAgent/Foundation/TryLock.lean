import NodeAgent.Foundation.Threads

/-!
# A lock that is asked for without waiting

Whoever asks for the lock while it is taken is turned away.  The threads that
were let in have then run one after the other, each as if it were alone.
-/

namespace Effectful

open Program

structure TryLock (E : Type) (Ret : E → Type) (ε : Type) where
  takes : E → Prop
  gives : E → Prop
  granted : (e : E) → Except ε (Ret e) → Prop
  answers : (e : E) → Except ε (Ret e) → Prop

variable {ι E : Type} [DecidableEq ι] {Ret : E → Type} {ε α β σ : Type}

namespace TryLock

variable (L : TryLock E Ret ε)

/-- Calls that have nothing to do with the lock. -/
def Apart (e : E) : Prop := ¬L.takes e ∧ ¬L.gives e

/-- With the lock, up to the call that gives it back and is the last one. -/
def Inside : Program E Ret ε α → Prop
  | .done _ => False
  | .call e next =>
      (L.gives e ∧ ∀ r, ∃ result, next r = .done result) ∨
        (L.Apart e ∧ ∀ r, L.answers e r → Inside (next r))

def Asks : Program E Ret ε α → Prop
  | .done _ => False
  | .call e next => L.takes e ∧ ∀ r,
      (L.granted e r → L.Inside (next r)) ∧
        (¬L.granted e r → ∃ result, next r = .done result)

/-- The result of a thread that was refused the lock. -/
def TurnedAway : Program E Ret ε α → Except ε α → Prop
  | .done _, _ => False
  | .call e next, result =>
      ∃ r, ¬L.granted e r ∧ next r = .done result

theorem inside_attempt_bind {p : Program E Ret ε α}
    {f : Except ε α → Program E Ret ε β}
    (hp : Always L.answers L.Apart p fun _ => True)
    (hf : ∀ r, L.Inside (f r)) : L.Inside (p.attempt.bind f) := by
  induction p with
  | done r => exact hf r
  | call e next ih =>
      exact .inr ⟨hp.1, fun r hr => ih r (hp.2 r () hr)⟩

theorem Inside.bind_done {p : Program E Ret ε α} {f : α → Program E Ret ε β}
    (h : L.Inside p) (hf : ∀ a, ∃ result, f a = .done result) :
    L.Inside (p.bind f) := by
  induction p with
  | done r => exact h.elim
  | call e next ih =>
      rcases h with ⟨hgives, hnext⟩ | ⟨hapart, hnext⟩
      · refine .inl ⟨hgives, fun r => ?_⟩
        obtain ⟨result, hresult⟩ := hnext r
        dsimp only
        rw [hresult]
        cases result with
        | ok a => exact hf a
        | error x => exact ⟨_, rfl⟩
      · exact .inr ⟨hapart, fun r hr => ih r (hnext r hr)⟩

theorem Asks.bind_done {p : Program E Ret ε α} {f : α → Program E Ret ε β}
    (h : L.Asks p) (hf : ∀ a, ∃ result, f a = .done result) :
    L.Asks (p.bind f) := by
  cases p with
  | done r => exact h.elim
  | call e next =>
      refine ⟨h.1, fun r => ⟨fun hr => ((h.2 r).1 hr).bind_done L hf,
        fun hr => ?_⟩⟩
      obtain ⟨result, hresult⟩ := (h.2 r).2 hr
      dsimp only
      rw [hresult]
      cases result with
      | ok a => exact hf a
      | error x => exact ⟨_, rfl⟩

end TryLock

/-- A machine on which the calls work as a lock; `held` says that it is taken. -/
structure LockedBy (L : TryLock E Ret ε) (M : Machine E Ret ε σ)
    (held : σ → Prop) : Prop where
  answered : ∀ s e r s', M.Step s e r s' → L.answers e r
  taken : ∀ s e r s', L.takes e → M.Step s e r s' →
    held s' ∧ (L.granted e r ↔ ¬held s)
  given : ∀ s e r s', L.gives e → M.Step s e r s' → ¬held s'
  apart : ∀ s e r s', L.Apart e → M.Step s e r s' → (held s' ↔ held s)

variable {L : TryLock E Ret ε} {M : Machine E Ret ε σ} {held : σ → Prop}
variable {start pool pool' : ι → Program E Ret ε α} {s s' t : σ}
variable {e : E} {next : Except ε (Ret e) → Program E Ret ε α}
variable {r : Except ε (Ret e)}

section Steps

variable (hM : LockedBy L M held) (hstep : M.Step s e r s')
include hM hstep

omit [DecidableEq ι] in
theorem TryLock.Inside.step (h : L.Inside (.call e next)) :
    (¬held s' ∧ ∃ result, next r = .done result) ∨
      ((held s' ↔ held s) ∧ L.Inside (next r)) := by
  rcases h with ⟨hgives, hnext⟩ | ⟨hapart, hnext⟩
  · exact .inl ⟨hM.given s e r s' hgives hstep, hnext r⟩
  · exact .inr ⟨hM.apart s e r s' hapart hstep,
      hnext r (hM.answered s e r s' hstep)⟩

omit [DecidableEq ι] in
theorem TryLock.Asks.step (h : L.Asks (.call e next)) :
    (¬held s ∧ held s' ∧ L.Inside (next r)) ∨
      (held s ∧ held s' ∧ ¬L.granted e r ∧ ∃ result, next r = .done result) := by
  obtain ⟨hheld, hgranted⟩ := hM.taken s e r s' h.1 hstep
  by_cases hr : L.granted e r
  · exact .inl ⟨hgranted.mp hr, hheld, (h.2 r).1 hr⟩
  · exact .inr ⟨not_not.mp fun hnot => hr (hgranted.mpr hnot), hheld, hr,
      (h.2 r).2 hr⟩

end Steps

/-! ## One thread at a time -/

/-- A thread that asks for the lock, or has nothing more to do with it. -/
def TryLock.Outside (L : TryLock E Ret ε) (p : Program E Ret ε α) : Prop :=
  L.Asks p ∨ Always L.answers L.Apart p fun _ => True

/-- The lock is taken exactly if some thread is inside, and it is the only one. -/
structure Exclusive (L : TryLock E Ret ε) (held : σ → Prop)
    (pool : ι → Program E Ret ε α) (s : σ) (holder : Option ι) : Prop where
  held : held s ↔ holder ≠ none
  inside : ∀ i, holder = some i → L.Inside (pool i)
  outside : ∀ i, holder ≠ some i → L.Outside (pool i)

omit [DecidableEq ι] in
theorem TryLock.outside_done {result : Except ε α} {p : Program E Ret ε α}
    (h : p = .done result) : L.Outside p := by
  subst h
  exact .inr trivial

omit [DecidableEq ι] in
theorem TryLock.Outside.step (hM : LockedBy L M held)
    (hstep : M.Step s e r s') (h : L.Outside (.call e next)) :
    (¬held s ∧ held s' ∧ L.Inside (next r)) ∨
      ((held s' ↔ held s) ∧ L.Outside (next r)) := by
  rcases h with hasks | haway
  · rcases hasks.step hM hstep with hin | ⟨hs, hs', -, result, hresult⟩
    · exact .inl hin
    · exact .inr ⟨iff_of_true hs' hs, outside_done hresult⟩
  · exact .inr ⟨hM.apart s e r s' haway.1 hstep,
      .inr (haway.2 r () (hM.answered s e r s' hstep))⟩

theorem Exclusive.step {holder : Option ι} {i : ι} (hM : LockedBy L M held)
    (h : Exclusive L held pool s holder) (turn : pool i = .call e next)
    (hstep : M.Step s e r s') :
    ∃ holder', Exclusive L held (Function.update pool i (next r)) s'
      holder' := by
  have hothers : ∀ {P : Program E Ret ε α → Prop} {j : ι}, j ≠ i →
      P (pool j) → P (Function.update pool i (next r) j) := by
    intro P j hji hj
    rwa [Function.update_of_ne hji]
  by_cases hi : holder = some i
  · rcases (turn ▸ h.inside i hi).step hM hstep with
      ⟨hfree, result, hresult⟩ | ⟨hheld, hin⟩
    · refine ⟨none, by simpa using hfree, fun j hj => (nomatch hj),
        fun j _ => ?_⟩
      by_cases hji : j = i
      · subst hji
        rw [Function.update_self]
        exact TryLock.outside_done hresult
      · exact hothers hji (h.outside j (by rw [hi]; simpa using Ne.symm hji))
    · refine ⟨holder, hheld.trans h.held, fun j hj => ?_, fun j hj => ?_⟩
      · obtain rfl : i = j := Option.some.inj (hi.symm.trans hj)
        rwa [Function.update_self]
      · exact hothers (fun heq => hj (heq ▸ hi)) (h.outside j hj)
  · rcases (turn ▸ h.outside i hi).step hM hstep with
      ⟨hfree, hheld, hin⟩ | ⟨hheld, hout⟩
    · have hnone : holder = none := not_not.mp fun hne => hfree (h.held.mpr hne)
      refine ⟨some i, by simpa using hheld, fun j hj => ?_, fun j hj => ?_⟩
      · obtain rfl : i = j := Option.some.inj hj
        rwa [Function.update_self]
      · exact hothers (fun heq => hj (by rw [heq]))
          (h.outside j (by rw [hnone]; exact fun h => nomatch h))
    · refine ⟨holder, hheld.trans h.held, fun j hj => ?_, fun j hj => ?_⟩
      · refine hothers (fun heq => hi ?_) (h.inside j hj)
        rw [← heq]
        exact hj
      · by_cases hji : j = i
        · subst hji
          rwa [Function.update_self]
        · exact hothers hji (h.outside j hj)

theorem Exclusive.interleaves {holder : Option ι} (hM : LockedBy L M held)
    (h : Exclusive L held pool s holder)
    (hrun : Interleaves (fun _ => M) pool s pool' t) :
    ∃ holder', Exclusive L held pool' t holder' :=
  hrun.invariant (I := fun pool s => ∃ holder, Exclusive L held pool s holder)
    (fun _ _ _ _ _ _ _ h turn hstep => h.choose_spec.step hM turn hstep)
    ⟨holder, h⟩

/-! ## One thread after the other -/

/--
States that no run tells apart, which calls of threads that only watch and
requests that are refused do not leave.
-/
structure Unseen (L : TryLock E Ret ε) (M : Machine E Ret ε σ)
    (quiet : E → Prop) (Same : σ → σ → Prop) : Prop where
  follows : ∀ s t e r s', Same s t → M.Step s e r s' →
    ∃ t', M.Step t e r t' ∧ Same s' t'
  apart : ∀ e, quiet e → L.Apart e
  watched : ∀ s t e r s', quiet e → Same s t → M.Step s e r s' → Same s' t
  refused : ∀ s t e r s', L.takes e → ¬L.granted e r → Same s t →
    M.Step s e r s' → Same s' t

inductive OneByOne (L : TryLock E Ret ε) (M : Machine E Ret ε σ)
    (start pool : ι → Program E Ret ε α) (s : σ) : List ι → σ → Prop
  | nil : OneByOne L M start pool s [] s
  | next {order : List ι} {t u : σ} {i : ι} {result : Except ε α}
      (before : OneByOne L M start pool s order t) (new : i ∉ order)
      (asks : L.Asks (start i)) (alone : Exec M (start i) t result u)
      (ended : pool i = .done result) :
      OneByOne L M start pool s (order ++ [i]) u

omit [DecidableEq ι] in
theorem OneByOne.ended {order : List ι} {u : σ} {i : ι}
    (h : OneByOne L M start pool s order u) (hi : i ∈ order) :
    ∃ result, pool i = .done result := by
  induction h with
  | nil => cases hi
  | next before new asks alone ended ih =>
      rcases List.mem_append.mp hi with hi | hi
      · exact ih hi
      · obtain rfl := List.mem_singleton.mp hi
        exact ⟨_, ended⟩

theorem OneByOne.update {order : List ι} {u : σ} {i : ι}
    (h : OneByOne L M start pool s order u) (turn : pool i = .call e next) :
    OneByOne L M start (Function.update pool i (next r)) s order u := by
  induction h with
  | nil => exact .nil
  | @next order t u j result before new asks alone ended ih =>
      refine .next ih new asks alone ?_
      rw [Function.update_of_ne, ended]
      rintro rfl
      rw [turn] at ended
      cases ended

/-- A thread that is not inside: still to come, served, refused or watching. -/
def Standing (L : TryLock E Ret ε) (quiet : E → Prop)
    (start pool : ι → Program E Ret ε α) (order : List ι) (i : ι) : Prop :=
  i ∈ order ∨ (pool i = start i ∧ L.Asks (start i)) ∨
    (∃ result, pool i = .done result ∧ L.TurnedAway (start i) result) ∨
    Always L.answers quiet (pool i) fun _ => True

/--
The state is one that the threads in `order` have left, each alone, and the
thread inside, if there is one, has come as far as it is from there on.
-/
def SerialUpTo (L : TryLock E Ret ε) (M : Machine E Ret ε σ)
    (held : σ → Prop) (quiet : E → Prop) (Same : σ → σ → Prop)
    (start pool : ι → Program E Ret ε α) (s : σ) (order : List ι) (u : σ) :
    Prop :=
  (¬held s ∧ Same s u ∧ ∀ i, Standing L quiet start pool order i) ∨
    ∃ i u', held s ∧ i ∉ order ∧ L.Asks (start i) ∧ L.Inside (pool i) ∧
      Reaches M (start i) u (pool i) u' ∧ Same s u' ∧
      ∀ j, j ≠ i → Standing L quiet start pool order j

variable {quiet : E → Prop} {Same : σ → σ → Prop} {order : List ι} {u : σ}
variable {i : ι}

theorem Standing.update {j : ι} (h : Standing L quiet start pool order j)
    (hji : j ≠ i) :
    Standing L quiet start (Function.update pool i (next r)) order j := by
  unfold Standing
  rwa [Function.update_of_ne hji]

omit [DecidableEq ι] in
theorem Standing.append {j : ι} (h : Standing L quiet start pool order j) :
    Standing L quiet start pool (order ++ [i]) j :=
  h.imp_left fun hj => List.mem_append_left _ hj

theorem Standing.step (hM : LockedBy L M held) (hsame : Unseen L M quiet Same)
    (hserved : i ∈ order → ∃ result, pool i = .done result)
    (h : Standing L quiet start pool order i) (turn : pool i = .call e next)
    (hstep : M.Step s e r s') :
    (¬held s ∧ held s' ∧ L.Inside (next r) ∧ start i = .call e next ∧
        L.Asks (start i) ∧ i ∉ order) ∨
      ((held s' ↔ held s) ∧ (∀ u, Same s u → Same s' u) ∧
        Standing L quiet start (Function.update pool i (next r)) order i) := by
  have hgoing : ∀ result, pool i ≠ .done result := fun result heq =>
    nomatch heq.symm.trans turn
  rcases h with hserves | ⟨hwaits, hasks⟩ | ⟨result, hdone, -⟩ | hwatches
  · obtain ⟨result, hdone⟩ := hserved hserves
    exact absurd hdone (hgoing result)
  · have hstart := hwaits.symm.trans turn
    have hcall := hasks
    rw [hstart] at hcall
    rcases hcall.step hM hstep with
      ⟨hfree, hheld, hin⟩ | ⟨hheld, hheld', hrefused, result, hresult⟩
    · refine .inl ⟨hfree, hheld, hin, hstart, hasks, fun hserves => ?_⟩
      obtain ⟨result, hdone⟩ := hserved hserves
      exact hgoing result hdone
    · refine .inr ⟨iff_of_true hheld' hheld, fun u hu =>
        hsame.refused _ _ _ _ _ hcall.1 hrefused hu hstep, ?_⟩
      refine .inr (.inr (.inl ⟨result, ?_, ?_⟩))
      · rw [Function.update_self, hresult]
      · rw [hstart]
        exact ⟨r, hrefused, hresult⟩
  · exact absurd hdone (hgoing result)
  · rw [turn] at hwatches
    refine .inr ⟨hM.apart _ _ _ _ (hsame.apart e hwatches.1) hstep,
      fun u hu => hsame.watched _ _ _ _ _ hwatches.1 hu hstep, ?_⟩
    refine .inr (.inr (.inr ?_))
    rw [Function.update_self]
    exact hwatches.2 r () (hM.answered _ _ _ _ hstep)

theorem SerialUpTo.step (hM : LockedBy L M held)
    (hsame : Unseen L M quiet Same) {s₀ : σ}
    (horder : OneByOne L M start pool s₀ order u)
    (h : SerialUpTo L M held quiet Same start pool s order u)
    (turn : pool i = .call e next) (hstep : M.Step s e r s') :
    ∃ order' u', OneByOne L M start (Function.update pool i (next r)) s₀
        order' u' ∧
      SerialUpTo L M held quiet Same start
        (Function.update pool i (next r)) s' order' u' := by
  have horder' := horder.update (r := r) turn
  rcases h with ⟨hfree, hu, hall⟩ |
    ⟨k, u', hheld, hk, hasks, hin, hrun, hu, hothers⟩
  · rcases (hall i).step hM hsame horder.ended turn hstep with
      ⟨-, hheld, hin, hstart, hasks, hnew⟩ | ⟨hheld, hkeeps, hi⟩
    · -- the thread is let in: its run starts from the serial state
      obtain ⟨u', hstep', hu'⟩ := hsame.follows _ _ _ _ _ hu hstep
      refine ⟨order, u, horder', .inr ⟨i, u', hheld, hnew, hasks, ?_, ?_,
        hu', fun j hji => (hall j).update hji⟩⟩
      · rwa [Function.update_self]
      · rw [Function.update_self, hstart]
        exact .step hstep' (.refl _ _)
    · refine ⟨order, u, horder', .inl ⟨fun h => hfree (hheld.mp h),
        hkeeps u hu, fun j => ?_⟩⟩
      by_cases hji : j = i
      · subst hji
        exact hi
      · exact (hall j).update hji
  · by_cases hki : k = i
    · subst hki
      obtain ⟨u'', hstep', hu''⟩ := hsame.follows _ _ _ _ _ hu hstep
      rw [turn] at hin hrun
      have hrun' := hrun.trans (.step hstep' (.refl _ _))
      rcases hin.step hM hstep with ⟨hfree, result, hresult⟩ | ⟨hheld', hin'⟩
      · -- it gives the lock back: it is the next in the order
        rw [hresult] at hrun'
        refine ⟨order ++ [k], u'', horder'.next hk hasks hrun' ?_,
          .inl ⟨hfree, hu'', fun j => ?_⟩⟩
        · rw [Function.update_self, hresult]
        · by_cases hjk : j = k
          · subst hjk
            exact .inl (by simp)
          · exact ((hothers j hjk).update hjk).append
      · refine ⟨order, u, horder', .inr ⟨k, u'', hheld'.mpr hheld, hk, hasks, ?_,
          ?_, hu'', fun j hjk => (hothers j hjk).update hjk⟩⟩
        · rwa [Function.update_self]
        · rwa [Function.update_self]
    · rcases (hothers i (Ne.symm hki)).step hM hsame horder.ended turn hstep with
        ⟨hfree, -⟩ | ⟨hheld', hkeeps, hi⟩
      · exact absurd hheld hfree
      · refine ⟨order, u, horder', .inr ⟨k, u', hheld'.mpr hheld, hk, hasks, ?_,
          ?_, hkeeps u' hu, fun j hjk => ?_⟩⟩
        · rwa [Function.update_of_ne hki]
        · rwa [Function.update_of_ne hki]
        · by_cases hji : j = i
          · subst hji
            exact hi
          · exact (hothers j hjk).update hji

/--
However the calls of the threads interleave, the threads that were let in have
run one after the other, each alone, and the others have changed nothing.
-/
theorem interleaves_serial (hM : LockedBy L M held)
    (hsame : Unseen L M quiet Same) (hfree : ¬held s) (hs : Same s u)
    (hstart : ∀ i, L.Asks (start i) ∨
      Always L.answers quiet (start i) fun _ => True)
    (hrun : Interleaves (fun _ => M) start s pool t) :
    ∃ order u', OneByOne L M start pool u order u' ∧
      SerialUpTo L M held quiet Same start pool t order u' := by
  refine hrun.invariant (I := fun pool s => ∃ order u',
    OneByOne L M start pool u order u' ∧
      SerialUpTo L M held quiet Same start pool s order u')
    (fun pool s i e next r s' h turn hstep => ?_) ?_
  · obtain ⟨order, u', horder, h⟩ := h
    exact h.step hM hsame horder turn hstep
  · refine ⟨[], u, .nil, .inl ⟨hfree, hs, fun i => ?_⟩⟩
    rcases hstart i with hasks | hwatches
    · exact .inr (.inl ⟨rfl, hasks⟩)
    · exact .inr (.inr (.inr hwatches))

end Effectful
