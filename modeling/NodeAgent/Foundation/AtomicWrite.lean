import Mathlib.Data.List.Basic
import Mathlib.Order.Basic

/-!
# Replacing a file through a temporary one

The new text is written to a second file piece by piece, and the second file
then takes the first one's name.  Each operation goes through, fails or is cut
short by a crash; only the renaming is all or nothing.
-/

namespace FileSystem

variable {β : Type}

/-- The file and the temporary one beside it. -/
structure Slot (β : Type) where
  file : Option (List β)
  tmp : Option (List β)
  deriving DecidableEq, Repr

inductive FileOp (β : Type) where
  /-- `open(tmp, "w")` -/
  | openTmp
  | write (piece : List β)
  /-- `os.replace(tmp, path)` -/
  | replace

/-- What the host makes of one operation, and how much of it is done by then. -/
inductive OpAnswer where
  | done
  | fails (written : Nat)
  | crashes (written : Nat)
  deriving DecidableEq, Repr

inductive Ending where
  | returned
  | raised
  | crashed
  deriving DecidableEq, Repr

namespace FileOp

def effect (slot : Slot β) : FileOp β → Slot β
  | .openTmp => { slot with tmp := some [] }
  | .write piece => { slot with tmp := slot.tmp.map (· ++ piece) }
  | .replace => { file := slot.tmp, tmp := none }

/-- What an operation leaves that fails. -/
def failed (slot : Slot β) (written : Nat) : FileOp β → Slot β
  | .openTmp => if written = 0 then slot else effect slot .openTmp
  | .write piece => effect slot (.write (piece.take written))
  | .replace => slot

/-- What an operation leaves that the crash cuts short. -/
def cut (slot : Slot β) (written : Nat) : FileOp β → Slot β
  | .replace => if written = 0 then slot else effect slot .replace
  | op => failed slot written op

/-- The operations one after the other, up to the first that does not end. -/
def perform (slot : Slot β) (answers : Nat → OpAnswer) :
    List (FileOp β) → Slot β × Ending
  | [] => (slot, .returned)
  | op :: ops =>
      match answers 0 with
      | .done => perform (effect slot op) (fun i => answers (i + 1)) ops
      | .fails written => (failed slot written op, .raised)
      | .crashes written => (cut slot written op, .crashed)

end FileOp

open FileOp

/-- The first of `n` answers that is no success is a failure. -/
def Fails (n : Nat) (answers : Nat → OpAnswer) : Prop :=
  ∃ i < n, (∀ j < i, answers j = .done) ∧ ∃ written, answers i = .fails written

theorem fails_succ_iff {n : Nat} {answers : Nat → OpAnswer} :
    Fails (n + 1) answers ↔
      (∃ written, answers 0 = .fails written) ∨
        answers 0 = .done ∧ Fails n fun i => answers (i + 1) := by
  constructor
  · rintro ⟨i, hi, hbefore, hfails⟩
    cases i with
    | zero => exact .inl hfails
    | succ i =>
        exact .inr ⟨hbefore 0 (by omega), i, by omega,
          fun j hj => hbefore (j + 1) (by omega), hfails⟩
  · rintro (hfails | ⟨hdone, i, hi, hbefore, hfails⟩)
    · exact ⟨0, by omega, by simp, hfails⟩
    · refine ⟨i + 1, by omega, fun j hj => ?_, hfails⟩
      cases j with
      | zero => exact hdone
      | succ j => exact hbefore j (by omega)

theorem perform_raised_iff {slot : Slot β} {answers : Nat → OpAnswer}
    {ops : List (FileOp β)} :
    (perform slot answers ops).2 = .raised ↔ Fails ops.length answers := by
  induction ops generalizing slot answers with
  | nil => simp [perform, Fails]
  | cons op ops ih =>
      rw [List.length_cons, fails_succ_iff, perform]
      cases hanswer : answers 0 with
      | done => simp [ih]
      | fails written => simp
      | crashes written => simp

/-! ## The whole replacement -/

def replaceOps (pieces : List (List β)) : List (FileOp β) :=
  .openTmp :: pieces.map .write ++ [.replace]

@[simp] theorem length_replaceOps (pieces : List (List β)) :
    (replaceOps pieces).length = pieces.length + 2 := by
  simp [replaceOps]

/-- What has become of the file, by the way in which the operations ended. -/
def Replaced (old text : Option (List β)) (result : Slot β × Ending) : Prop :=
  match result.2 with
  | .returned => result.1.file = text
  | .raised => result.1.file = old
  | .crashed => result.1.file = old ∨ result.1.file = text

theorem replaced_writes {slot : Slot β} {written : List β}
    (htmp : slot.tmp = some written) (answers : Nat → OpAnswer)
    (pieces : List (List β)) :
    Replaced slot.file (some (written ++ pieces.flatten))
      (perform slot answers (pieces.map .write ++ [.replace])) := by
  induction pieces generalizing slot written answers with
  | nil =>
      rw [List.map_nil, List.nil_append, perform]
      cases answers 0 with
      | done => simp [perform, effect, Replaced, htmp]
      | fails k => simp [failed, Replaced]
      | crashes k =>
          by_cases hk : k = 0
          · simp [cut, Replaced, hk]
          · simp [cut, Replaced, hk, effect, htmp]
  | cons piece pieces ih =>
      rw [List.map_cons, List.cons_append, perform]
      cases answers 0 with
      | done =>
          have hrest := @ih (effect slot (.write piece)) (written ++ piece)
            (by simp [effect, htmp]) fun i => answers (i + 1)
          rwa [List.append_assoc, ← List.flatten_cons] at hrest
      | fails k => rfl
      | crashes k => exact .inl rfl

theorem replaced (slot : Slot β) (answers : Nat → OpAnswer)
    (pieces : List (List β)) :
    Replaced slot.file (some pieces.flatten)
      (perform slot answers (replaceOps pieces)) := by
  rw [replaceOps, List.cons_append, perform]
  cases answers 0 with
  | done =>
      exact @replaced_writes _ (effect slot .openTmp) [] rfl _ pieces
  | fails k =>
      by_cases hk : k = 0
      · simp [Replaced, failed, hk]
      · simp [Replaced, failed, hk, effect]
  | crashes k =>
      by_cases hk : k = 0
      · simp [Replaced, cut, failed, hk]
      · simp [Replaced, cut, failed, hk, effect]

end FileSystem
