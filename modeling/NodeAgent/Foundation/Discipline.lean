import NodeAgent.Foundation.Threads

/-!
# Programs that follow a discipline

A discipline says in which stage which call may come, given its answer, and
which stage comes next.  A program that follows one is a conversation of the
right shape, whatever the other threads do.
-/

namespace Effectful

open Program

structure Discipline (E : Type) (Ret : E → Type) (ε Q : Type) where
  /-- What the other side may answer in this stage. -/
  answers : Q → (e : E) → Except ε (Ret e) → Prop
  /-- The stage after a call and its answer; `none` is a call out of place. -/
  after : Q → (e : E) → Except ε (Ret e) → Option Q

namespace Discipline

variable {E : Type} {Ret : E → Type} {ε α β Q σ ι : Type}

def machine (D : Discipline E Ret ε Q) : Machine E Ret ε Q where
  Step q e r q' := D.answers q e r ∧ D.after q e r = some q'

/-- The call is in place here, whatever it is answered. -/
def Allows (D : Discipline E Ret ε Q) (q : Q) (e : E) : Prop :=
  ∀ r, D.answers q e r → ∃ q', D.after q e r = some q'

/-- The program's calls are in place from the stage `q` on, until it ends. -/
def Follows (D : Discipline E Ret ε Q) (p : Program E Ret ε α) (q : Q)
    (post : Except ε α → Q → Prop) : Prop :=
  Sat D.machine D.Allows p post q

/-- The stage after a conversation, if all of it was in place. -/
def run (D : Discipline E Ret ε Q) (q : Q)
    (said : List ((e : E) × Except ε (Ret e))) : Option Q :=
  said.foldlM (fun q event => D.after q event.1 event.2) q

variable {D : Discipline E Ret ε Q} {q q' : Q}
variable {post : Except ε α → Q → Prop}

@[simp] theorem run_nil : D.run q [] = some q := rfl

theorem run_snoc (said : List ((e : E) × Except ε (Ret e)))
    (event : (e : E) × Except ε (Ret e)) :
    D.run q (said ++ [event]) =
      (D.run q said).bind fun q' => D.after q' event.1 event.2 := by
  simp [run, List.foldlM_append]

theorem follows_call {e : E} {next : Except ε (Ret e) → Program E Ret ε α}
    (h : ∀ r, D.answers q e r →
      ∃ q', D.after q e r = some q' ∧ D.Follows (next r) q' post) :
    D.Follows (.call e next) q post := by
  refine ⟨fun r hr => ?_, fun r q' ⟨hr, hafter⟩ => ?_⟩
  · obtain ⟨q', hafter, -⟩ := h r hr
    exact ⟨q', hafter⟩
  · obtain ⟨q'', hafter', hnext⟩ := h r hr
    obtain rfl : q'' = q' := Option.some.inj (hafter'.symm.trans hafter)
    exact hnext

theorem follows_perform {e : E} {post : Except ε (Ret e) → Q → Prop}
    (h : ∀ r, D.answers q e r → ∃ q', D.after q e r = some q' ∧ post r q') :
    D.Follows (perform e) q post :=
  follows_call h

theorem follows_perform_bind {e : E} {f : Ret e → Program E Ret ε α}
    (hok : ∀ a, D.answers q e (.ok a) →
      ∃ q', D.after q e (.ok a) = some q' ∧ D.Follows (f a) q' post)
    (herror : ∀ x, D.answers q e (.error x) →
      ∃ q', D.after q e (.error x) = some q' ∧ post (.error x) q') :
    D.Follows (perform e >>= f) q post :=
  follows_call fun r hr => match r with
    | .ok a => hok a hr
    | .error x => herror x hr

variable [DecidableEq ι] {M : ι → Machine E Ret ε σ}
variable {pool pool' : ι → Program E Ret ε α} {s t : σ}

/--
A thread that follows a discipline does so beside any others, where its own
steps answer as the discipline expects and no other thread's step matters.
-/
theorem Follows.interleaves {i : ι} {I : σ → Q → Prop} {calls : ι → E → Prop}
    (h : D.Follows (pool i) q post) (hrun : Interleaves M pool s pool' t)
    (hown : ∀ s q e r s', I s q → (M i).Step s e r s' → D.answers q e r ∧
      ∀ q', D.after q e r = some q' → I s' q')
    (hothers : ∀ j s q e r s', j ≠ i → calls j e → I s q →
      (M j).Step s e r s' → I s' q)
    (hcalls : ∀ j, Always (fun _ _ => True) (calls j) (pool j) fun _ => True)
    (start : I s q) : ∃ q', I t q' ∧ D.Follows (pool' i) q' post := by
  have hend := hrun.invariant (I := fun pool s =>
    (∃ q, I s q ∧ D.Follows (pool i) q post) ∧
      ∀ j, Always (fun _ _ => True) (calls j) (pool j) fun _ => True)
    ?_ ⟨⟨q, start, h⟩, hcalls⟩
  · exact hend.1
  · rintro pool s j e next r s' ⟨⟨q, hI, hfollows⟩, hall⟩ turn hstep
    obtain ⟨hcall, hall'⟩ := always_update hall turn r
    refine ⟨?_, hall'⟩
    by_cases hji : j = i
    · subst hji
      rw [turn] at hfollows
      obtain ⟨hr, hkept⟩ := hown _ _ _ _ _ hI hstep
      obtain ⟨q', hafter⟩ := hfollows.1 r hr
      refine ⟨q', hkept q' hafter, ?_⟩
      rw [Function.update_self]
      exact hfollows.2 r q' ⟨hr, hafter⟩
    · refine ⟨q, hothers j _ _ _ _ _ hji hcall hI hstep, ?_⟩
      rwa [Function.update_of_ne (Ne.symm hji)]

end Discipline

end Effectful
