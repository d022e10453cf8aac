import Mathlib.Data.List.Basic
import Mathlib.Data.List.Forall2
import Mathlib.Data.List.TakeWhile

/-!
# Searching a text for a pattern

A pattern is a sequence of character classes, each with how many characters it
takes.  As in a backtracking matcher, each class takes as many as it can and
gives some back only when the rest of the pattern does not match.
-/

namespace Pattern

structure Item where
  accepts : Char → Bool
  least : Nat
  /-- `none` is no bound. -/
  most : Option Nat

namespace Item

/-- `x` -/
def one (accepts : Char → Bool) : Item := ⟨accepts, 1, some 1⟩

/-- `x?` -/
def optional (accepts : Char → Bool) : Item := ⟨accepts, 0, some 1⟩

/-- `x*` -/
def many (accepts : Char → Bool) : Item := ⟨accepts, 0, none⟩

/-- `x+` -/
def some (accepts : Char → Bool) : Item := ⟨accepts, 1, none⟩

/-- The characters at the start of a text that an item accepts. -/
def run (item : Item) (text : List Char) : List Char :=
  text.takeWhile item.accepts

def longest (item : Item) (text : List Char) : Nat :=
  match item.most with
  | none => (item.run text).length
  | .some most => min (item.run text).length most

/-- How many characters an item may take of a text, the longest first. -/
def lengths (item : Item) (text : List Char) : List Nat :=
  (List.range' item.least (item.longest text + 1 - item.least)).reverse

structure Takes (item : Item) (piece : List Char) : Prop where
  accepted : ∀ c ∈ piece, item.accepts c
  least : item.least ≤ piece.length
  most : ∀ most ∈ item.most, piece.length ≤ most

end Item

/-- What each item takes of the start of a text. -/
def matchHere : List Item → List Char → Option (List (List Char))
  | [], _ => some []
  | item :: items, text =>
      (item.lengths text).findSome? fun n =>
        (matchHere items (text.drop n)).map (text.take n :: ·)

def search (items : List Item) : List Char → Option (List (List Char))
  | [] => matchHere items []
  | c :: rest => (matchHere items (c :: rest)).or (search items rest)

/-! ## What is found is a match -/

theorem Item.run_length_le (item : Item) (text : List Char) :
    (item.run text).length ≤ text.length :=
  (List.takeWhile_prefix _).length_le

theorem Item.run_append_dropWhile (item : Item) (text : List Char) :
    item.run text ++ text.dropWhile item.accepts = text :=
  List.takeWhile_append_dropWhile

theorem Item.accepts_of_mem_run {item : Item} {text : List Char} {c : Char}
    (h : c ∈ item.run text) : item.accepts c :=
  List.mem_takeWhile_imp h

theorem Item.take_run {item : Item} {text : List Char} {n : Nat}
    (h : n ≤ (item.run text).length) : text.take n = (item.run text).take n := by
  conv_lhs => rw [← item.run_append_dropWhile text]
  exact List.take_append_of_le_length h

theorem Item.mem_lengths {item : Item} {text : List Char} {n : Nat} :
    n ∈ item.lengths text ↔ item.least ≤ n ∧ n ≤ item.longest text := by
  simp only [lengths, List.mem_reverse, List.mem_range'_1]
  omega

theorem Item.le_longest {item : Item} {text : List Char} {n : Nat} :
    n ≤ item.longest text ↔
      n ≤ (item.run text).length ∧ ∀ most ∈ item.most, n ≤ most := by
  unfold Item.longest
  cases item.most with
  | none => simp
  | some most => simp only [Nat.le_min, Option.mem_def, Option.some.injEq,
      forall_eq']

theorem Item.takes_of_mem {item : Item} {text : List Char} {n : Nat}
    (h : n ∈ item.lengths text) : item.Takes (text.take n) := by
  obtain ⟨hleast, hlongest⟩ := Item.mem_lengths.mp h
  obtain ⟨hrun, hmost⟩ := Item.le_longest.mp hlongest
  have hlength : (text.take n).length = n :=
    List.length_take_of_le (Nat.le_trans hrun (item.run_length_le text))
  refine ⟨fun c hc => ?_, by omega, fun most hm => ?_⟩
  · rw [Item.take_run hrun] at hc
    exact Item.accepts_of_mem_run (List.mem_of_mem_take hc)
  · rw [hlength]
    exact hmost most hm

theorem matchHere_sound {items : List Item} {text : List Char}
    {pieces : List (List Char)} (h : matchHere items text = some pieces) :
    List.Forall₂ Item.Takes items pieces ∧ pieces.flatten <+: text := by
  induction items generalizing text pieces with
  | nil =>
      obtain rfl : [] = pieces := by simpa [matchHere] using h
      exact ⟨.nil, List.nil_prefix⟩
  | cons item items ih =>
      obtain ⟨n, hn, hrest⟩ := List.exists_of_findSome?_eq_some h
      obtain ⟨rest, hmatch, rfl⟩ := Option.map_eq_some_iff.mp hrest
      obtain ⟨htakes, after, hafter⟩ := ih hmatch
      refine ⟨.cons (Item.takes_of_mem hn) htakes, after, ?_⟩
      rw [List.flatten_cons, List.append_assoc, hafter, List.take_append_drop]

theorem search_sound {items : List Item} {text : List Char}
    {pieces : List (List Char)} (h : search items text = some pieces) :
    List.Forall₂ Item.Takes items pieces ∧ pieces.flatten <:+: text := by
  induction text with
  | nil => exact (matchHere_sound h).imp id List.IsPrefix.isInfix
  | cons c rest ih =>
      rcases Option.or_eq_some_iff.mp h with hhere | ⟨-, hlater⟩
      · exact (matchHere_sound hhere).imp id List.IsPrefix.isInfix
      · exact (ih hlater).imp id fun hrest =>
          hrest.trans (List.suffix_cons c rest).isInfix

/-! ## Matching item by item -/

theorem Item.lengths_eq {item : Item} {text : List Char}
    (h : item.least ≤ item.longest text) :
    item.lengths text = item.longest text ::
      (List.range' item.least (item.longest text - item.least)).reverse := by
  obtain ⟨k, hk⟩ := Nat.exists_eq_add_of_le h
  rw [lengths, hk, show item.least + k + 1 - item.least = k + 1 by omega,
    show item.least + k - item.least = k by omega, List.range'_1_concat,
    List.reverse_append]
  rfl

theorem Item.lengths_eq_nil {item : Item} {text : List Char}
    (h : item.longest text < item.least) : item.lengths text = [] := by
  rw [lengths, Nat.sub_eq_zero_of_le (by omega)]
  rfl

@[simp] theorem matchHere_nil (text : List Char) : matchHere [] text = some [] :=
  rfl

theorem matchHere_one_cons (accepts : Char → Bool) (items : List Item)
    (c : Char) (rest : List Char) :
    matchHere (.one accepts :: items) (c :: rest) =
      if accepts c then (matchHere items rest).map ([c] :: ·) else none := by
  cases hc : accepts c <;>
    simp [matchHere, Item.lengths, Item.longest, Item.run, Item.one, hc]

theorem matchHere_one_nil (accepts : Char → Bool) (items : List Item) :
    matchHere (.one accepts :: items) [] = none := rfl

theorem matchHere_optional_cons (accepts : Char → Bool) (items : List Item)
    (c : Char) (rest : List Char) :
    matchHere (.optional accepts :: items) (c :: rest) =
      if accepts c then
        ((matchHere items rest).map ([c] :: ·)).or
          ((matchHere items (c :: rest)).map ([] :: ·))
      else (matchHere items (c :: rest)).map ([] :: ·) := by
  cases hc : accepts c
  · simp [matchHere, Item.lengths, Item.longest, Item.run, Item.optional, hc]
  · simp only [matchHere, Item.lengths, Item.longest, Item.run, Item.optional,
      List.takeWhile_cons, hc, if_true, List.length_cons]
    rw [show min (rest.takeWhile accepts).length.succ 1 + 1 - 0 = 2 by omega,
      show (List.range' 0 2).reverse = [1, 0] from rfl]
    simp only [List.findSome?_cons, List.findSome?_nil, List.drop_succ_cons,
      List.drop_zero, List.take_succ_cons, List.take_zero]
    cases matchHere items rest <;> cases matchHere items (c :: rest) <;> rfl

theorem matchHere_longest {item : Item} {items : List Item} {text : List Char}
    {pieces : List (List Char)} (hleast : item.least ≤ item.longest text)
    (hrest : matchHere items (text.drop (item.longest text)) = some pieces) :
    matchHere (item :: items) text =
      some (text.take (item.longest text) :: pieces) := by
  rw [matchHere, Item.lengths_eq hleast, List.findSome?_cons, hrest]
  rfl

/-! ## Items without a bound -/

theorem Item.longest_unbounded {item : Item} (hmost : item.most = none)
    (text : List Char) : item.longest text = (item.run text).length := by
  simp [Item.longest, hmost]

theorem Item.take_run_length (item : Item) (text : List Char) :
    text.take (item.run text).length = item.run text := by
  rw [Item.take_run (Nat.le_refl _), List.take_length]

theorem Item.drop_run_length (item : Item) (text : List Char) :
    text.drop (item.run text).length = text.dropWhile item.accepts := by
  have h := @List.drop_left _ (item.run text) (text.dropWhile item.accepts)
  rwa [item.run_append_dropWhile] at h

theorem Item.drop_of_lt {item : Item} {text : List Char} {n : Nat}
    (h : n < (item.run text).length) :
    ∃ c rest, item.accepts c ∧ text.drop n = c :: rest := by
  refine ⟨(item.run text)[n], (item.run text).drop (n + 1) ++
    text.dropWhile item.accepts, Item.accepts_of_mem_run
      (List.getElem_mem h), ?_⟩
  conv_lhs => rw [← item.run_append_dropWhile text]
  rw [List.drop_append_of_le_length (Nat.le_of_lt h),
    List.drop_eq_getElem_cons h, List.cons_append]

/--
An item without a bound takes its whole run, if the rest of the pattern never
starts with what the item accepts.
-/
theorem matchHere_run {item : Item} {items : List Item}
    (hmost : item.most = none)
    (hstop : ∀ c rest, item.accepts c → matchHere items (c :: rest) = none)
    (text : List Char) :
    matchHere (item :: items) text =
      if item.least ≤ (item.run text).length then
        (matchHere items (text.dropWhile item.accepts)).map (item.run text :: ·)
      else none := by
  have hlongest := Item.longest_unbounded hmost text
  rw [matchHere]
  split
  · next hle =>
      have hothers :
          (List.range' item.least (item.longest text - item.least)).reverse.findSome?
            (fun n => (matchHere items (text.drop n)).map (text.take n :: ·)) =
              none := by
        rw [List.findSome?_eq_none_iff]
        intro n hn
        rw [List.mem_reverse, List.mem_range'_1] at hn
        obtain ⟨c, rest, hc, hdrop⟩ :=
          @Item.drop_of_lt item text n (by omega)
        rw [hdrop, hstop c rest hc, Option.map_none]
      rw [Item.lengths_eq (by omega), List.findSome?_cons, hothers, hlongest,
        Item.drop_run_length, Item.take_run_length]
      cases matchHere items (text.dropWhile item.accepts) <;> rfl
  · next hgt =>
      rw [Item.lengths_eq_nil (by omega)]
      rfl

theorem matchHere_last {item : Item} (hmost : item.most = none)
    (text : List Char) :
    matchHere [item] text =
      if item.least ≤ (item.run text).length then some [item.run text]
      else none := by
  have hlongest := Item.longest_unbounded hmost text
  split
  · next hle =>
      rw [matchHere_longest (by omega) (matchHere_nil _), hlongest,
        Item.take_run_length]
  · next hgt =>
      rw [matchHere, Item.lengths_eq_nil (by omega)]
      rfl

end Pattern
