import Mathlib.Data.List.Basic
import Mathlib.Logic.Basic

/-!
# Programs over an interface of calls

A program is a finished result or one call together with what follows each
answer to it.  Every call may answer with a value or with an exception, and an
exception that nobody catches ends the program.  The tree is well founded, so
a loop has to be bounded by a list or by a number that a call returns.
-/

namespace Effectful

inductive Program (E : Type) (Ret : E → Type) (ε α : Type) where
  | done (result : Except ε α)
  | call (request : E) (next : Except ε (Ret request) → Program E Ret ε α)

namespace Program

variable {E : Type} {Ret : E → Type} {ε α β γ : Type}

protected def bind : Program E Ret ε α → (α → Program E Ret ε β) →
    Program E Ret ε β
  | .done (.ok a), f => f a
  | .done (.error x), _ => .done (.error x)
  | .call e next, f => .call e fun r => (next r).bind f

instance : Monad (Program E Ret ε) where
  pure a := .done (.ok a)
  bind := Program.bind

def raise (x : ε) : Program E Ret ε α := .done (.error x)

/-- One call, its answer being the program's own result. -/
def perform (e : E) : Program E Ret ε (Ret e) := .call e .done

/-- Run a block to its end and keep how it ended: the `try` of `try: … except`. -/
def attempt : Program E Ret ε α → Program E Ret ε (Except ε α)
  | .done r => .done (.ok r)
  | .call e next => .call e fun r => (next r).attempt

/-- `try: p` with the exceptions in `caught` swallowed after being logged. -/
def ignoring (caught : ε → Bool) (p : Program E Ret ε Unit) :
    Program E Ret ε Unit :=
  p.attempt.bind fun
    | .ok _ => .done (.ok ())
    | .error x => if caught x then .done (.ok ()) else raise x

/-- `if c: p`. -/
def onlyIf (c : Bool) (p : Program E Ret ε Unit) : Program E Ret ε Unit :=
  if c then p else .done (.ok ())

/-- `for a in as: f(a)`. -/
def forEach (f : α → Program E Ret ε Unit) : List α → Program E Ret ε Unit
  | [] => .done (.ok ())
  | a :: as => (f a).bind fun _ => forEach f as

theorem bind_assoc (p : Program E Ret ε α) (f : α → Program E Ret ε β)
    (g : β → Program E Ret ε γ) :
    (p.bind f).bind g = p.bind fun a => (f a).bind g := by
  induction p with
  | done r => cases r <;> rfl
  | call e next ih =>
      simp only [Program.bind]
      exact congrArg _ (funext ih)

theorem forEach_append (f : α → Program E Ret ε Unit) (as bs : List α) :
    forEach f (as ++ bs) = (forEach f as).bind fun _ => forEach f bs := by
  induction as with
  | nil => rfl
  | cons a as ih => simp only [List.cons_append, forEach, bind_assoc, ih]

theorem bind_pure (p : Program E Ret ε α) :
    p.bind (fun a => .done (.ok a)) = p := by
  induction p with
  | done r => cases r <;> rfl
  | call e next ih =>
      simp only [Program.bind]
      exact congrArg _ (funext ih)

instance : LawfulMonad (Program E Ret ε) :=
  LawfulMonad.mk' _ (fun p => bind_pure p) (fun _ _ => rfl)
    (fun p f g => bind_assoc p f g)

end Program

end Effectful
