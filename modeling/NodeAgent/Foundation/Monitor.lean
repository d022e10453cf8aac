import NodeAgent.Foundation.Threads

/-!
# An object behind a reentrant lock

The calls on the object protect nothing: two threads may mix them in any way.
A method takes the lock, and the thread that holds it may take it again; while
it is held the other threads wait.  Clients that go to the object through
methods cannot tell it from one whose methods are single steps.
-/

namespace Effectful

open Program

inductive Locking (E : Type) where
  | acquire
  | release
  | call (e : E)

abbrev Locking.Ret {E : Type} (Ret : E → Type) : Locking E → Type
  | .acquire | .release => Unit
  | .call e => Ret e

abbrev Locked (E : Type) (Ret : E → Type) (ε α : Type) :=
  Program (Locking E) (Locking.Ret Ret) ε α

variable {ι E : Type} {Ret : E → Type} {ε α β σ : Type}

def onObject (e : E) : Locked E Ret ε (Ret e) :=
  .call (.call e) .done

def acquire : Locked E Ret ε Unit := .call .acquire .done

def release : Locked E Ret ε Unit := .call .release .done

/-- `with lock: p`, also when `p` raises. -/
def locked (p : Locked E Ret ε α) : Locked E Ret ε α :=
  acquire.bind fun _ => p.attempt.bind fun r =>
    release.bind fun _ => .done r

/-- The object and the thread that holds its lock, with how often it took it again. -/
structure Monitored (ι σ : Type) where
  owner : Option (ι × Nat)
  object : σ

/-- What thread `i` can do to the object and its lock. -/
def reentrant (M : Machine E Ret ε σ) (i : ι) :
    Machine (Locking E) (Locking.Ret Ret) ε (Monitored ι σ) where
  Step
    | m, .acquire, r, m' => r = .ok () ∧
        ((m.owner = none ∧ m' = { m with owner := some (i, 0) }) ∨
          ∃ n, m.owner = some (i, n) ∧
            m' = { m with owner := some (i, n + 1) })
    | m, .release, r, m' => r = .ok () ∧
        ((m.owner = some (i, 0) ∧ m' = { m with owner := none }) ∨
          ∃ n, m.owner = some (i, n + 1) ∧
            m' = { m with owner := some (i, n) })
    | m, .call e, r, m' => m'.owner = m.owner ∧ M.Step m.object e r m'.object

/-! ## Blocks under the lock -/

/--
The thread has taken the lock `n` times, calls the object only while it holds
the lock, and stops when it has let go of it.
-/
def Holds (ends : Nat → Prop) : Nat → Locked E Ret ε α → Prop
  | n, .done _ => ends n
  | 0, .call _ _ => False
  | n + 1, .call .acquire next => Holds ends (n + 2) (next (.ok ()))
  | n + 1, .call .release next => Holds ends n (next (.ok ()))
  | n + 1, .call (.call _) next => ∀ r, Holds ends (n + 1) (next r)

/-- A block for a thread that holds the lock, and still holds it as often afterwards. -/
def Balanced (p : Locked E Ret ε α) : Prop :=
  ∀ n, Holds (· = n + 1) (n + 1) p

/-- A block that takes the lock first and ends when it has let go of it. -/
def IsMethod (p : Locked E Ret ε α) : Prop :=
  ∃ next, p = .call .acquire next ∧ Holds (· = 0) 1 (next (.ok ()))

variable {middle ends : Nat → Prop} {p : Locked E Ret ε α} {n : Nat}

theorem Holds.bind {f : α → Locked E Ret ε β} (hp : Holds middle n p)
    (hf : ∀ a m, middle m → Holds ends m (f a))
    (herror : ∀ m, middle m → ends m) : Holds ends n (p.bind f) := by
  induction p generalizing n with
  | done r =>
      simp only [Holds] at hp
      cases r with
      | ok a => exact hf a n hp
      | error x => simpa only [Program.bind, Holds] using herror n hp
  | call e next ih =>
      cases n with
      | zero => simp only [Holds] at hp
      | succ n =>
          cases e with
          | acquire => exact ih (.ok ()) hp
          | release => exact ih (.ok ()) hp
          | call e => exact fun r => ih r (hp r)

theorem Holds.calls (hp : Holds (· = 0) (n + 1) p) :
    ∃ e rest, p = .call e rest := by
  cases p with
  | done r =>
      simp only [Holds] at hp
      exact absurd hp (Nat.succ_ne_zero n)
  | call e rest => exact ⟨e, rest, rfl⟩

theorem Holds.attempt_bind {f : Except ε α → Locked E Ret ε β}
    (hp : Holds middle n p) (hf : ∀ r m, middle m → Holds ends m (f r)) :
    Holds ends n (p.attempt.bind f) := by
  induction p generalizing n with
  | done r =>
      simp only [Holds] at hp
      exact hf r n hp
  | call e next ih =>
      cases n with
      | zero => simp only [Holds] at hp
      | succ n =>
          cases e with
          | acquire => exact ih (.ok ()) hp
          | release => exact ih (.ok ()) hp
          | call e => exact fun r => ih r (hp r)

theorem balanced_done (r : Except ε α) :
    Balanced (.done r : Locked E Ret ε α) :=
  fun n => by simp only [Holds]

theorem balanced_onObject (e : E) :
    Balanced (onObject e : Locked E Ret ε (Ret e)) :=
  fun n r => by simp only [Holds]

theorem Balanced.bind {f : α → Locked E Ret ε β} (hp : Balanced p)
    (hf : ∀ a, Balanced (f a)) : Balanced (p.bind f) :=
  fun n => (hp n).bind (fun a m hm => by subst hm; exact hf a n)
    fun _ hm => hm

theorem Balanced.holds (hp : Balanced p) (hends : ends n) :
    Holds ends (n + 1) (p.attempt.bind fun r =>
      release.bind fun _ => .done r) :=
  (hp n).attempt_bind fun r m hm => by
    subst hm
    simpa only [release, Program.bind, Holds] using hends

theorem Balanced.isMethod (hp : Balanced p) : IsMethod (locked p) :=
  ⟨_, rfl, hp.holds rfl⟩

theorem Balanced.locked (hp : Balanced p) : Balanced (locked p) :=
  fun n => hp.holds (n := n + 1) rfl

/-! ## Objects whose calls have one outcome -/

/-- The machine of an object that answers as a function says. -/
def answering (f : (e : E) → σ → Except ε (Ret e) × σ) :
    Machine E Ret ε σ where
  Step s e r s' := f e s = (r, s')

/-- A block on such an object by itself, which the lock does not concern. -/
def Locked.run (f : (e : E) → σ → Except ε (Ret e) × σ) :
    Locked E Ret ε α → σ → Except ε α × σ
  | .done r, s => (r, s)
  | .call .acquire next, s => Locked.run f (next (.ok ())) s
  | .call .release next, s => Locked.run f (next (.ok ())) s
  | .call (.call e) next, s => Locked.run f (next (f e s).1) (f e s).2

section Run

variable (f : (e : E) → σ → Except ε (Ret e) × σ) (s : σ)

@[simp] theorem run_done (r : Except ε α) :
    Locked.run f (.done r) s = (r, s) := by
  rw [Locked.run]

@[simp] theorem run_onObject (e : E) :
    Locked.run f (onObject e) s = f e s := by
  simp only [onObject, Locked.run]

theorem run_bind (p : Locked E Ret ε α) (k : α → Locked E Ret ε β) :
    Locked.run f (p.bind k) s =
      match Locked.run f p s with
      | (.ok a, t) => Locked.run f (k a) t
      | (.error x, t) => (.error x, t) := by
  induction p generalizing s with
  | done r => cases r <;> simp only [Program.bind, Locked.run]
  | call e next ih =>
      cases e with
      | acquire => exact ih (.ok ()) s
      | release => exact ih (.ok ()) s
      | call e => exact ih _ _

theorem run_attempt_bind (p : Locked E Ret ε α)
    (k : Except ε α → Locked E Ret ε β) :
    Locked.run f (p.attempt.bind k) s =
      Locked.run f (k (Locked.run f p s).1) (Locked.run f p s).2 := by
  induction p generalizing s with
  | done r => simp only [Program.attempt, Program.bind, Locked.run]
  | call e next ih =>
      cases e with
      | acquire => exact ih (.ok ()) s
      | release => exact ih (.ok ()) s
      | call e => exact ih _ _

@[simp] theorem run_locked (p : Locked E Ret ε α) :
    Locked.run f (locked p) s = Locked.run f p s := by
  rw [locked, acquire, Program.bind, Locked.run]
  exact run_attempt_bind f s p _

end Run

theorem reaches_run {f : (e : E) → σ → Except ε (Ret e) × σ} {i : ι}
    {q : Locked E Ret ε α} {m m' : Monitored ι σ}
    (h : Reaches (reentrant (answering f) i) p m q m') :
    Locked.run f p m.object = Locked.run f q m'.object := by
  induction h with
  | refl => rfl
  | @step e next r s s' _ _ first _ ih =>
      cases e with
      | acquire =>
          obtain ⟨rfl, ⟨-, rfl⟩ | ⟨_, -, rfl⟩⟩ := first <;>
            simpa only [Locked.run] using ih
      | release =>
          obtain ⟨rfl, ⟨-, rfl⟩ | ⟨_, -, rfl⟩⟩ := first <;>
            simpa only [Locked.run] using ih
      | call e =>
          have hanswer : f e s.object = (r, s'.object) := first.2
          rw [Locked.run, hanswer]
          exact ih

/-! ## Schedules -/

section Schedule

variable [DecidableEq ι] (f : (e : E) → σ → Except ε (Ret e) × σ)

/-- One step of thread `i`, unless it has finished or waits for the lock. -/
def move (i : ι) (pool : ι → Locked E Ret ε α) (m : Monitored ι σ) :
    Option ((ι → Locked E Ret ε α) × Monitored ι σ) :=
  match pool i with
  | .done _ => none
  | .call .acquire next =>
      match m.owner with
      | none => some (Function.update pool i (next (.ok ())),
          { m with owner := some (i, 0) })
      | some (j, n) =>
          if j = i then some (Function.update pool i (next (.ok ())),
            { m with owner := some (i, n + 1) })
          else none
  | .call .release next =>
      match m.owner with
      | none => none
      | some (j, n) =>
          if j = i then some (Function.update pool i (next (.ok ())),
            { m with owner := if n = 0 then none else some (i, n - 1) })
          else none
  | .call (.call e) next =>
      some (Function.update pool i (next (f e m.object).1),
        { m with object := (f e m.object).2 })

/-- The threads in the order of a list, one step for each entry. -/
def follow : List ι → (ι → Locked E Ret ε α) → Monitored ι σ →
    Option ((ι → Locked E Ret ε α) × Monitored ι σ)
  | [], pool, m => some (pool, m)
  | i :: rest, pool, m =>
      (move f i pool m).bind fun after => follow rest after.1 after.2

variable {f}

theorem interleaves_move {i : ι} {pool pool' : ι → Locked E Ret ε α}
    {m m' : Monitored ι σ} (h : move f i pool m = some (pool', m')) :
    Interleaves (reentrant (answering f)) pool m pool' m' := by
  unfold move at h
  split at h
  · cases h
  · rename_i next turn
    split at h
    · rename_i hnone
      cases h
      exact .step turn ⟨rfl, .inl ⟨hnone, rfl⟩⟩ (.refl _ _)
    · rename_i j n howner
      split at h
      · rename_i hji
        subst hji
        cases h
        exact .step turn ⟨rfl, .inr ⟨n, howner, rfl⟩⟩ (.refl _ _)
      · cases h
  · rename_i next turn
    split at h
    · cases h
    · rename_i j n howner
      split at h
      · rename_i hji
        subst hji
        cases h
        cases n with
        | zero => exact .step turn ⟨rfl, .inl ⟨howner, rfl⟩⟩ (.refl _ _)
        | succ n =>
            exact .step turn ⟨rfl, .inr ⟨n, howner, rfl⟩⟩ (.refl _ _)
      · cases h
  · rename_i e next turn
    cases h
    have hstep : (reentrant (answering f) i).Step m (.call e)
        (f e m.object).1 { m with object := (f e m.object).2 } := ⟨rfl, rfl⟩
    exact .step turn hstep (.refl _ _)

theorem interleaves_follow {order : List ι}
    {pool pool' : ι → Locked E Ret ε α} {m m' : Monitored ι σ}
    (h : follow f order pool m = some (pool', m')) :
    Interleaves (reentrant (answering f)) pool m pool' m' := by
  induction order generalizing pool m with
  | nil =>
      cases h
      exact .refl _ _
  | cons i order ih =>
      obtain ⟨after, hmove, hrest⟩ := Option.bind_eq_some_iff.mp h
      exact (interleaves_move hmove).trans (ih hrest)

end Schedule

/-! ## Clients of the methods -/

section Clients

variable {O : Type} {ORet : O → Type}

/-- A client's program with each method call replaced by the method's body. -/
def compile (body : (o : O) → Locked E Ret ε (ORet o)) :
    Program O ORet ε α → Locked E Ret ε α
  | .done r => .done r
  | .call o next => (body o).attempt.bind fun r => compile body (next r)

/-- The object whose methods are single steps. -/
def atomic (M : Machine E Ret ε σ) (body : (o : O) → Locked E Ret ε (ORet o))
    (i : ι) : Machine O ORet ε σ where
  Step s o r t := Exec (reentrant M i) (body o) ⟨none, s⟩ r ⟨none, t⟩

theorem atomic_answering {f : (e : E) → σ → Except ε (Ret e) × σ}
    {body : (o : O) → Locked E Ret ε (ORet o)} {i : ι} {s t : σ} {o : O}
    {r : Except ε (ORet o)} (h : (atomic (answering f) body i).Step s o r t) :
    (body o).run f s = (r, t) := by
  have hrun := reaches_run h
  simpa only [Locked.run] using hrun

variable [DecidableEq ι]
variable {M : Machine E Ret ε σ} {body : (o : O) → Locked E Ret ε (ORet o)}

/--
The clients and the object as they would be with single-step methods, beside
the threads as they are: at most one of them is inside a method, and what it
has done so far shows only there.
-/
structure Matches (M : Machine E Ret ε σ)
    (body : (o : O) → Locked E Ret ε (ORet o))
    (clients : ι → Program O ORet ε α) (s : σ) (pool : ι → Locked E Ret ε α)
    (m : Monitored ι σ) : Prop where
  outside : ∀ i, (∀ n, m.owner ≠ some (i, n)) →
    pool i = compile body (clients i)
  free : m.owner = none → m.object = s
  inside : ∀ i n, m.owner = some (i, n) → ∃ o next q,
    clients i = .call o next ∧
    pool i = q.attempt.bind (fun r => compile body (next r)) ∧
    Holds (· = 0) (n + 1) q ∧
    Reaches (reentrant M i) (body o) ⟨none, s⟩ q m

variable {clients : ι → Program O ORet ε α} {pool pool' : ι → Locked E Ret ε α}
variable {m m' : Monitored ι σ} {s : σ} {i : ι}

theorem compile_call (hbody : ∀ o, IsMethod (body o)) (o : O)
    (k : Except ε (ORet o) → Program O ORet ε α) :
    ∃ next, body o = .call .acquire next ∧ Holds (· = 0) 1 (next (.ok ())) ∧
      compile body (.call o k) = .call .acquire fun r =>
        (next r).attempt.bind fun a => compile body (k a) := by
  obtain ⟨next, hnext, hholds⟩ := hbody o
  refine ⟨next, hnext, hholds, ?_⟩
  rw [compile, hnext]
  rfl

theorem compile_starts (hbody : ∀ o, IsMethod (body o)) {e : Locking E}
    {next : Except ε (e.Ret Ret) → Locked E Ret ε α} {p : Program O ORet ε α}
    (h : compile body p = .call e next) : e = .acquire := by
  cases p with
  | done r => cases h
  | call o k =>
      obtain ⟨_, -, -, heq⟩ := compile_call hbody o k
      rw [heq] at h
      cases h
      rfl

theorem matches_inside {o : O} {k : Except ε (ORet o) → Program O ORet ε α}
    {q : Locked E Ret ε (ORet o)} {n : Nat}
    (hout : ∀ j, j ≠ i → pool j = compile body (clients j))
    (howner : m.owner = some (i, n)) (hclient : clients i = .call o k)
    (hholds : Holds (· = 0) (n + 1) q)
    (hreach : Reaches (reentrant M i) (body o) ⟨none, s⟩ q m) :
    Matches M body clients s (Function.update pool i
      (q.attempt.bind fun r => compile body (k r))) m := by
  refine ⟨fun j hj => ?_, fun hnone => ?_, fun j n' hj => ?_⟩
  · have hne : j ≠ i := fun heq => hj n (by rw [howner, heq])
    rw [Function.update_of_ne hne]
    exact hout j hne
  · rw [howner] at hnone
    cases hnone
  · rw [howner] at hj
    cases hj
    exact ⟨o, k, q, hclient, Function.update_self _ _ _, hholds, hreach⟩

theorem Matches.enter (hbody : ∀ o, IsMethod (body o))
    (h : Matches M body clients s pool m) (hfree : m.owner = none)
    {e : Locking E} {next : Except ε (e.Ret Ret) → Locked E Ret ε α}
    {r : Except ε (e.Ret Ret)} (turn : pool i = .call e next)
    (hstep : (reentrant M i).Step m e r m') :
    Matches M body clients s (Function.update pool i (next r)) m' := by
  have hout : ∀ j, pool j = compile body (clients j) :=
    fun j => h.outside j (by simp [hfree])
  have hi := hout i
  rw [turn] at hi
  cases hclient : clients i with
  | done a =>
      rw [hclient] at hi
      cases hi
  | call o k =>
      obtain ⟨start, hstart, hholds, heq⟩ := compile_call hbody o k
      rw [hclient, heq] at hi
      cases hi
      obtain ⟨rfl, ⟨-, rfl⟩ | ⟨n, hn, -⟩⟩ := hstep
      · refine matches_inside (fun j _ => hout j) rfl hclient hholds ?_
        rw [hstart, ← h.free hfree]
        exact .step ⟨rfl, .inl ⟨rfl, rfl⟩⟩ (.refl _ _)
      · rw [hfree] at hn
        cases hn

theorem Matches.leave (h : Matches M body clients s pool m) {o : O}
    {k : Except ε (ORet o) → Program O ORet ε α} {a : Except ε (ORet o)}
    {n : Nat} (howner : m.owner = some (i, n)) (hclient : clients i = .call o k)
    (hfree : m'.owner = none)
    (hreach : Reaches (reentrant M i) (body o) ⟨none, s⟩ (.done a) m') :
    Interleaves (atomic M body) clients s
        (Function.update clients i (k a)) m'.object ∧
      Matches M body (Function.update clients i (k a)) m'.object
        (Function.update pool i (compile body (k a))) m' := by
  have hm' : m' = ⟨none, m'.object⟩ := by rw [← hfree]
  refine ⟨.step hclient (by rw [hm'] at hreach; exact hreach) (.refl _ _),
    fun j hj => ?_, fun _ => rfl, fun j n' hj => ?_⟩
  · by_cases hji : j = i
    · subst hji
      rw [Function.update_self, Function.update_self]
    · rw [Function.update_of_ne hji, Function.update_of_ne hji]
      refine h.outside j fun n' heq => hji ?_
      rw [howner] at heq
      cases heq
      rfl
  · rw [hfree] at hj
    cases hj

theorem Matches.goesOn (h : Matches M body clients s pool m) {n : Nat}
    (howner : m.owner = some (i, n)) {e : Locking E}
    {next : Except ε (e.Ret Ret) → Locked E Ret ε α}
    {r : Except ε (e.Ret Ret)} (turn : pool i = .call e next)
    (hstep : (reentrant M i).Step m e r m') :
    ∃ clients' s', Interleaves (atomic M body) clients s clients' s' ∧
      Matches M body clients' s' (Function.update pool i (next r)) m' := by
  have hout : ∀ j, j ≠ i → pool j = compile body (clients j) := by
    refine fun j hne => h.outside j fun n' heq => hne ?_
    rw [howner] at heq
    cases heq
    rfl
  obtain ⟨o, k, q, hclient, hpool, hholds, hreach⟩ := h.inside i n howner
  rw [turn] at hpool
  obtain ⟨e', rest, rfl⟩ := hholds.calls
  cases hpool
  have hreach' := hreach.trans (.step hstep (.refl _ _))
  have stays : ∀ n', m'.owner = some (i, n') →
      Holds (· = 0) (n' + 1) (rest r) →
      ∃ clients' s', Interleaves (atomic M body) clients s clients' s' ∧
        Matches M body clients' s' (Function.update pool i
          ((rest r).attempt.bind fun a => compile body (k a))) m' :=
    fun n' howner' hholds' => ⟨clients, s, .refl _ _,
      matches_inside hout howner' hclient hholds' hreach'⟩
  cases e with
  | acquire =>
      obtain ⟨rfl, ⟨hnone, -⟩ | ⟨n', hn, rfl⟩⟩ := hstep
      · rw [howner] at hnone
        cases hnone
      · rw [howner] at hn
        cases hn
        exact stays _ rfl hholds
  | release =>
      obtain ⟨rfl, ⟨hn, rfl⟩ | ⟨n', hn, rfl⟩⟩ := hstep
      · rw [howner] at hn
        cases hn
        simp only [Holds] at hholds
        cases hrest : rest (.ok ()) with
        | done a =>
            rw [hrest] at hreach'
            have hleft := h.leave howner hclient rfl hreach'
            refine ⟨_, _, hleft.1, ?_⟩
            simpa only [hrest, Program.attempt, Program.bind] using hleft.2
        | call e' q =>
            rw [hrest] at hholds
            simp only [Holds] at hholds
      · rw [howner] at hn
        cases hn
        exact stays _ rfl hholds
  | call e =>
      exact stays n (hstep.1.trans howner) (hholds r)

theorem Matches.step (hbody : ∀ o, IsMethod (body o))
    (h : Matches M body clients s pool m) {e : Locking E}
    {next : Except ε (e.Ret Ret) → Locked E Ret ε α}
    {r : Except ε (e.Ret Ret)} (turn : pool i = .call e next)
    (hstep : (reentrant M i).Step m e r m') :
    ∃ clients' s', Interleaves (atomic M body) clients s clients' s' ∧
      Matches M body clients' s' (Function.update pool i (next r)) m' := by
  cases howner : m.owner with
  | none => exact ⟨clients, s, .refl _ _, h.enter hbody howner turn hstep⟩
  | some holder =>
      obtain ⟨j, n⟩ := holder
      by_cases hji : j = i
      · subst hji
        exact h.goesOn howner turn hstep
      · -- a thread that is outside while another one holds the lock is blocked
        have hi := h.outside i fun n' heq => hji (by
          rw [howner] at heq
          cases heq
          rfl)
        obtain rfl := compile_starts hbody (hi.symm.trans turn)
        obtain ⟨-, ⟨hnone, -⟩ | ⟨n', hn, -⟩⟩ := hstep
        · rw [howner] at hnone
          cases hnone
        · rw [howner] at hn
          cases hn
          exact absurd rfl hji

/--
However the threads interleave, the object and the clients are where some
interleaving of whole methods takes them, up to the method that is under way.
-/
theorem interleaves_atomic (hbody : ∀ o, IsMethod (body o))
    (h : Interleaves (reentrant M) (fun i => compile body (clients i))
      ⟨none, s⟩ pool m) :
    ∃ clients' s', Interleaves (atomic M body) clients s clients' s' ∧
      Matches M body clients' s' pool m := by
  refine h.invariant (I := fun pool m => ∃ clients' s',
    Interleaves (atomic M body) clients s clients' s' ∧
      Matches M body clients' s' pool m) ?_ ?_
  · rintro pool m i e next r m' ⟨clients', s', hrun, hmatch⟩ turn hstep
    obtain ⟨clients'', s'', hrun', hmatch'⟩ := hmatch.step hbody turn hstep
    exact ⟨clients'', s'', hrun.trans hrun', hmatch'⟩
  · exact ⟨clients, s, .refl _ _, fun _ _ => rfl, fun _ => rfl,
      fun _ _ hnone => by cases hnone⟩

theorem compile_eq_done (hbody : ∀ o, IsMethod (body o))
    {p : Program O ORet ε α} {r : Except ε α}
    (h : compile body p = .done r) : p = .done r := by
  cases p with
  | done a => cases h; rfl
  | call o k =>
      obtain ⟨_, -, -, heq⟩ := compile_call hbody o k
      rw [heq] at h
      cases h

omit [DecidableEq ι] in
theorem Matches.client_done (hbody : ∀ o, IsMethod (body o))
    (h : Matches M body clients s pool m) {r : Except ε α}
    (hdone : pool i = .done r) : clients i = .done r := by
  by_cases hout : ∀ n, m.owner ≠ some (i, n)
  · exact compile_eq_done hbody ((h.outside i hout).symm.trans hdone)
  · obtain ⟨n, howner⟩ := not_forall_not.mp hout
    obtain ⟨o, k, q, -, hpool, hholds, -⟩ := h.inside i n howner
    obtain ⟨e, rest, rfl⟩ := hholds.calls
    cases hpool.symm.trans hdone

omit [DecidableEq ι] in
theorem Matches.progress (hbody : ∀ o, IsMethod (body o))
    (hanswered : ∀ s e, ∃ r s', M.Step s e r s')
    (h : Matches M body clients s pool m) {e : Locking E}
    {next : Except ε (e.Ret Ret) → Locked E Ret ε α}
    (turn : pool i = .call e next) :
    ∃ j e next r m', pool j = .call e next ∧ (reentrant M j).Step m e r m' := by
  cases howner : m.owner with
  | none =>
      have hi := h.outside i (by simp [howner])
      obtain rfl := compile_starts hbody (hi.symm.trans turn)
      exact ⟨i, _, next, .ok (), _, turn, rfl, .inl ⟨howner, rfl⟩⟩
  | some holder =>
      -- whoever holds the lock is not waiting for anybody
      obtain ⟨j, n⟩ := holder
      obtain ⟨o, k, q, -, hpool, hholds, -⟩ := h.inside j n howner
      obtain ⟨e', rest, rfl⟩ := hholds.calls
      cases e' with
      | acquire =>
          exact ⟨j, _, _, .ok (), _, hpool, rfl, .inr ⟨n, howner, rfl⟩⟩
      | release =>
          cases n with
          | zero => exact ⟨j, _, _, .ok (), _, hpool, rfl, .inl ⟨howner, rfl⟩⟩
          | succ n =>
              exact ⟨j, _, _, .ok (), _, hpool, rfl, .inr ⟨n, howner, rfl⟩⟩
      | call e' =>
          obtain ⟨r, s', hstep⟩ := hanswered m.object e'
          exact ⟨j, .call e', _, r, ⟨m.owner, s'⟩, hpool, rfl, hstep⟩

end Clients

end Effectful
