import Mathlib.Data.List.Basic

/-!
# Options among the words of a command

A program reads its words from left to right: options, each with the arguments
it takes, and what an option is left with is the last value that it was given.
Which words are options is up to the program.
-/

namespace Options

inductive Word where
  | argument
  /-- An option, which takes what follows as arguments or stands alone. -/
  | option (takes : Bool)
  /-- The option that is asked for, with a value that is part of the word. -/
  | asked (value : Option String)
  | unknown
  deriving DecidableEq

variable {α : Type} (word : String → Word) (parse : String → Option α)

def nextArgument (words : List String) : Option String :=
  words.head?.filter fun next => word next = .argument

/-- The value that is left, unless the program gives up on its words. -/
def leaves : List String → Option α → Option (Option α)
  | [], left => some left
  | first :: rest, left =>
      match word first with
      | .argument | .option false => leaves rest left
      | .option true => (nextArgument word rest).bind fun _ => leaves rest left
      | .asked (some value) => (parse value).bind fun a => leaves rest (some a)
      | .asked none => (nextArgument word rest).bind fun next =>
          (parse next).bind fun a => leaves rest (some a)
      | .unknown => none

/-- Options of one argument, with their arguments. -/
def flatten (pairs : List (String × String)) : List String :=
  pairs.flatMap fun pair => [pair.1, pair.2]

def ArePairs (pairs : List (String × String)) : Prop :=
  ∀ pair ∈ pairs, word pair.1 = .option true ∧ word pair.2 = .argument

variable {word} {parse}
variable {first next : String} {rest : List String} {left : Option α}
variable {pairs : List (String × String)}

theorem nextArgument_cons (h : word next = .argument) :
    nextArgument word (next :: rest) = some next := by
  simp [nextArgument, h]

theorem nextArgument_append (hrest : nextArgument word rest = none)
    (words : List String) :
    nextArgument word (words ++ rest) = nextArgument word words := by
  cases words with
  | nil => exact hrest
  | cons next words => rfl

theorem leaves_argument (h : word first = .argument) :
    leaves word parse (first :: rest) left = leaves word parse rest left := by
  rw [leaves, h]

theorem leaves_alone (h : word first = .option false) :
    leaves word parse (first :: rest) left = leaves word parse rest left := by
  rw [leaves, h]

theorem leaves_takes (h : word first = .option true)
    (hnext : word next = .argument) :
    leaves word parse (first :: next :: rest) left =
      leaves word parse rest left := by
  simp only [leaves, h, hnext, nextArgument_cons hnext, Option.bind_some]

theorem leaves_asked {a : α} (h : word first = .asked none)
    (hnext : word next = .argument) (ha : parse next = some a) :
    leaves word parse (first :: next :: rest) left =
      leaves word parse rest (some a) := by
  simp only [leaves, h, hnext, nextArgument_cons hnext, ha, Option.bind_some]

theorem leaves_asked_value {value : String}
    (h : word first = .asked (some value)) :
    leaves word parse (first :: rest) left =
      (parse value).bind fun a => leaves word parse rest (some a) := by
  rw [leaves, h]

theorem leaves_unknown (h : word first = .unknown) :
    leaves word parse (first :: rest) left = none := by
  rw [leaves, h]

theorem leaves_stops (h : word first = .option true ∨ word first = .asked none)
    (hrest : nextArgument word rest = none) :
    leaves word parse (first :: rest) left = none := by
  rcases h with h | h <;> simp only [leaves, h, hrest, Option.bind_none]

theorem leaves_append (hrest : nextArgument word rest = none)
    (words : List String) (left : Option α) :
    leaves word parse (words ++ rest) left =
      (leaves word parse words left).bind (leaves word parse rest) := by
  induction words generalizing left with
  | nil => rfl
  | cons first words ih =>
      simp only [List.cons_append, leaves, nextArgument_append hrest]
      cases word first with
      | argument => exact ih left
      | option takes =>
          cases takes with
          | false => exact ih left
          | true => simp only [ih, Option.bind_assoc]
      | asked value => cases value <;> simp only [ih, Option.bind_assoc]
      | unknown => rfl

theorem leaves_pairs (h : ArePairs word pairs) :
    leaves word parse (flatten pairs ++ rest) left =
      leaves word parse rest left := by
  induction pairs with
  | nil => rfl
  | cons pair pairs ih =>
      obtain ⟨⟨hoption, hvalue⟩, hpairs⟩ := List.forall_mem_cons.mp h
      have hwords : flatten (pair :: pairs) ++ rest =
          pair.1 :: pair.2 :: (flatten pairs ++ rest) := rfl
      rw [hwords, leaves_takes hoption hvalue, ih hpairs]

theorem ArePairs.nextArgument (h : ArePairs word pairs)
    (hrest : nextArgument word rest = none) :
    nextArgument word (flatten pairs ++ rest) = none := by
  cases pairs with
  | nil => exact hrest
  | cons pair pairs =>
      change Options.nextArgument word (pair.1 :: _) = none
      simp [Options.nextArgument, (h pair (by simp)).1]

end Options
