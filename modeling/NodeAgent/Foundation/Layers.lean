import NodeAgent.Foundation.Threads

/-!
# Programs in layers

A program of the upper layer makes calls of its own beside those of the layer
below.  Where only the former decide whether the latter come, the layer below
sees programs that it might have been given without an upper layer.
-/

namespace Effectful

namespace Program

variable {E F : Type} {Ret : E → Type} {Own : F → Type} {ε α β : Type}

/-- A program of the layer below, as one of the upper layer. -/
def raised (Own : F → Type) :
    Program E Ret ε α → Program (E ⊕ F) (Sum.elim Ret Own) ε α
  | .done r => .done r
  | .call e next => .call (.inl e) fun r => (next r).raised Own

variable (answers : (f : F) → Except ε (Own f) → Prop)

/-- The program makes only own calls, and ends as given. -/
def Checks (ends : Except ε α → Prop) :
    Program (E ⊕ F) (Sum.elim Ret Own) ε α → Prop
  | .done r => ends r
  | .call (.inl _) _ => False
  | .call (.inr f) next => ∀ r, answers f r → Checks ends (next r)

/-- What the layer below sees of the program is `q`. -/
def Shows : Program (E ⊕ F) (Sum.elim Ret Own) ε α → Program E Ret ε β → Prop
  | .done _, q => ∃ r, q = .done r
  | .call (.inl e) next, q => ∃ next', q = .call e next' ∧
      ∀ r, Shows (next r) (next' r)
  | .call (.inr f) next, q => ∀ r, answers f r → Shows (next r) q

variable {answers}

@[simp] theorem checks_done {ends : Except ε α → Prop} {r : Except ε α} :
    (done r : Program (E ⊕ F) (Sum.elim Ret Own) ε α).Checks answers ends ↔
      ends r := .rfl

theorem raised_shows (p : Program E Ret ε α) :
    (p.raised Own).Shows answers p := by
  induction p with
  | done r => exact ⟨r, rfl⟩
  | call e next ih => exact ⟨next, rfl, ih⟩

theorem shows_bind {p : Program (E ⊕ F) (Sum.elim Ret Own) ε α}
    {f : α → Program (E ⊕ F) (Sum.elim Ret Own) ε β} {q : Program E Ret ε β}
    {ends : Except ε α → Prop} (hp : p.Checks answers ends)
    (hok : ∀ a, ends (.ok a) → (f a).Shows answers q)
    (herror : ∀ x, ends (.error x) → ∃ r, q = .done r) :
    (p >>= f).Shows answers q := by
  induction p with
  | done r =>
      cases r with
      | ok a => exact hok a hp
      | error x => exact herror x hp
  | call e next ih =>
      cases e with
      | inl e => exact hp.elim
      | inr g => exact fun r hr => ih r (hp r hr)

end Program

open Program

variable {ι E F σ τ : Type} [DecidableEq ι] {Ret : E → Type} {Own : F → Type}
variable {ε α β : Type} {answers : (f : F) → Except ε (Own f) → Prop}
variable {M : ι → Machine (E ⊕ F) (Sum.elim Ret Own) ε τ}
variable {N : ι → Machine E Ret ε σ} {under : τ → σ}
variable {pool pool' : ι → Program (E ⊕ F) (Sum.elim Ret Own) ε α}
variable {seen : ι → Program E Ret ε β} {t t' : τ}

theorem Interleaves.underneath
    (hbelow : ∀ i t (e : E) (r : Except ε (Ret e)) t',
      (M i).Step t (.inl e) r t' → (N i).Step (under t) e r (under t'))
    (hown : ∀ i t (f : F) (r : Except ε (Own f)) t',
      (M i).Step t (.inr f) r t' → answers f r ∧ under t' = under t)
    (h : Interleaves M pool t pool' t')
    (hshows : ∀ i, (pool i).Shows answers (seen i)) :
    ∃ seen', Interleaves N seen (under t) seen' (under t') ∧
      ∀ i, (pool' i).Shows answers (seen' i) := by
  induction h generalizing seen with
  | refl => exact ⟨seen, .refl _ _, hshows⟩
  | @step pool pool' i e next r t t₁ t' turn first rest ih =>
      have hi := hshows i
      rw [turn] at hi
      cases e with
      | inl e =>
          obtain ⟨next', hseen, hnext⟩ := hi
          have hupdate : ∀ j, (Function.update pool i (next r) j).Shows answers
              (Function.update seen i (next' r) j) := fun j => by
            by_cases hj : j = i
            · subst hj
              rw [Function.update_self, Function.update_self]
              exact hnext r
            · rw [Function.update_of_ne hj, Function.update_of_ne hj]
              exact hshows j
          obtain ⟨seen', hrun, hafter⟩ := ih hupdate
          exact ⟨seen', .step hseen (hbelow _ _ _ _ _ first) hrun, hafter⟩
      | inr f =>
          obtain ⟨hanswer, hsame⟩ := hown _ _ _ _ _ first
          have hupdate : ∀ j, (Function.update pool i (next r) j).Shows answers
              (seen j) := fun j => by
            by_cases hj : j = i
            · subst hj
              rw [Function.update_self]
              exact hi r hanswer
            · rw [Function.update_of_ne hj]
              exact hshows j
          obtain ⟨seen', hrun, hafter⟩ := ih hupdate
          rw [hsame] at hrun
          exact ⟨seen', hrun, hafter⟩

end Effectful
