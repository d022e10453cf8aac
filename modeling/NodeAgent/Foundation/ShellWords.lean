import Mathlib.Data.List.Basic
import Mathlib.Algebra.Order.Monoid.Unbundled.Basic

/-!
# The words of a POSIX shell command

Splitting at blanks and removing quotes, for text whose words do not depend on
anything else: an operator, an expansion, a pattern, a comment or an open quote
makes the text have no words here.
-/

namespace Shell

def isBlank (c : Char) : Bool := c = ' ' ∨ c = '\t'

def isQuoting (c : Char) : Bool := c = '\'' ∨ c = '"' ∨ c = '\\'

/-- Operators, expansions and patterns; no text of a process has a null byte. -/
def isActive (c : Char) : Bool :=
  c ∈ ['|', '&', ';', '<', '>', '(', ')', '$', '`', '*', '?', '\n', '\x00']

/-- At the start of a word: a comment, or somebody's home directory. -/
def isActiveFirst (c : Char) : Bool := c = '#' ∨ c = '~'

inductive Bracket where
  | outside
  | opened
  | negated
  | inside
  deriving DecidableEq, Repr

/-- A character without quotes, unless it closes an expression. -/
def Bracket.next (bracket : Bracket) (c : Char) : Option Bracket :=
  if bracket = .outside then some (if c = '[' then .opened else .outside)
  -- Patterns match one name of a path at a time.
  else if c = '/' then some .outside
  else if bracket = .opened ∧ (c = '!' ∨ c = '^') then some .negated
  -- As the first member of an expression, the bracket stands for itself.
  else if bracket = .inside ∧ c = ']' then none
  else some .inside

def Bracket.quoted (bracket : Bracket) (c : Char) : Bracket :=
  if bracket = .outside ∨ c = '/' then .outside else .inside

/-- A bracket that no other one closes is a character like any other. -/
def hasBracketExpression (text : List Char) : Bool :=
  (text.foldlM Bracket.next .outside).isNone

inductive Quote where
  | plain
  | escaped
  | single
  | double
  | doubleEscaped
  deriving DecidableEq, Repr

/-- Where the shell is in a text: `current` is the word that has begun. -/
structure Reading where
  quote : Quote := .plain
  current : Option (List Char) := none
  bracket : Bracket := .outside

namespace Reading

/-- Quoted text, which is part of the word as it is. -/
def put (reading : Reading) (quote : Quote) (text : List Char) : Reading where
  quote := quote
  current := some (reading.current.getD [] ++ text)
  bracket := text.foldl Bracket.quoted reading.bracket

/-- One character: the words that it ends, and where the shell is then. -/
def step (reading : Reading) (c : Char) : Option (List (List Char) × Reading) :=
  match reading.quote with
  | .plain =>
      if isBlank c then some (reading.current.toList, {})
      else if c = '\\' then some ([], { reading with quote := .escaped })
      else if c = '\'' then some ([], reading.put .single [])
      else if c = '"' then some ([], reading.put .double [])
      else if isActive c ∨ (reading.current = none ∧ isActiveFirst c) then none
      else (reading.bracket.next c).map fun bracket =>
        ([], { reading.put .plain [c] with bracket })
  | .escaped =>
      -- A line that ends with a backslash goes on in the next one.
      if c = '\n' then some ([], { reading with quote := .plain })
      else some ([], reading.put .plain [c])
  | .single =>
      if c = '\'' then some ([], reading.put .plain [])
      else some ([], reading.put .single [c])
  | .double =>
      if c = '"' then some ([], reading.put .plain [])
      else if c = '\\' then some ([], reading.put .doubleEscaped [])
      else if c = '$' ∨ c = '`' then none
      else some ([], reading.put .double [c])
  | .doubleEscaped =>
      if c = '\n' then some ([], reading.put .double [])
      else if c = '$' ∨ c = '`' ∨ c = '"' ∨ c = '\\' then
        some ([], reading.put .double [c])
      else some ([], reading.put .double ['\\', c])

end Reading

def lex (reading : Reading) : List Char → Option (List (List Char))
  | [] => if reading.quote = .plain then some reading.current.toList else none
  | c :: rest =>
      match reading.step c with
      | none => none
      | some (ended, next) => (lex next rest).map (ended ++ ·)

def words (text : String) : Option (List String) :=
  (lex {} text.toList).map fun found => found.map String.ofList

/-- The shell takes the text for one word, and that word is the text. -/
def Plain (text : List Char) : Prop :=
  text ≠ [] ∧ (∀ c ∈ text, !isBlank c ∧ !isQuoting c ∧ !isActive c) ∧
    (∀ c ∈ text.head?, !isActiveFirst c) ∧ !hasBracketExpression text

def isPlain (text : List Char) : Bool :=
  !text.isEmpty && text.all (fun c => !isBlank c && !isQuoting c && !isActive c) &&
    text.head?.all (!isActiveFirst ·) && !hasBracketExpression text

theorem isPlain_iff (text : List Char) : isPlain text ↔ Plain text := by
  cases text <;> simp [isPlain, Plain, and_assoc]

instance (text : List Char) : Decidable (Plain text) :=
  decidable_of_iff _ (isPlain_iff text)

theorem hasBracketExpression_of_notMem {text : List Char} (h : '[' ∉ text) :
    hasBracketExpression text = false := by
  have hscan : text.foldlM Bracket.next .outside = some .outside := by
    induction text with
    | nil => rfl
    | cons c text ih =>
        rw [List.mem_cons, not_or] at h
        have hnext : Bracket.next .outside c = some .outside := by
          simp [Bracket.next, Ne.symm h.1]
        rw [List.foldlM_cons, hnext]
        exact ih h.2
  rw [hasBracketExpression, hscan]
  rfl

/-! ## One text after the other -/

theorem lex_nil {reading : Reading} {found : List (List Char)}
    (h : lex reading [] = some found) :
    reading.quote = .plain ∧ reading.current.toList = found := by
  by_cases hquote : reading.quote = .plain <;> simp_all [lex]

theorem lex_cons {reading : Reading} {c : Char} {rest : List Char}
    {found : List (List Char)} (h : lex reading (c :: rest) = some found) :
    ∃ ended next later, reading.step c = some (ended, next) ∧
      lex next rest = some later ∧ found = ended ++ later := by
  rw [lex] at h
  cases hstep : reading.step c with
  | none => simp [hstep] at h
  | some result =>
      obtain ⟨ended, next⟩ := result
      simp only [hstep, Option.map_eq_some_iff] at h
      obtain ⟨later, hlater, rfl⟩ := h
      exact ⟨ended, next, later, rfl, hlater, rfl⟩

theorem lex_of_step {reading next : Reading} {c : Char}
    {ended : List (List Char)} (h : reading.step c = some (ended, next))
    (rest : List Char) :
    lex reading (c :: rest) = (lex next rest).map (ended ++ ·) := by
  rw [lex, h]

theorem lex_append {reading : Reading} {text : List Char}
    {found : List (List Char)} (h : lex reading text = some found)
    (rest : List Char) :
    lex reading (text ++ ' ' :: rest) = (lex {} rest).map (found ++ ·) := by
  induction text generalizing reading found with
  | nil =>
      obtain ⟨hquote, rfl⟩ := lex_nil h
      have hstep : reading.step ' ' = some (reading.current.toList, {}) := by
        simp [Reading.step, hquote, isBlank]
      rw [List.nil_append, lex_of_step hstep]
  | cons c text ih =>
      obtain ⟨ended, next, later, hstep, hlater, rfl⟩ := lex_cons h
      rw [List.cons_append, lex_of_step hstep, ih hlater, Option.map_map]
      simp [Function.comp_def, List.append_assoc]

/-! ## Plain words stay as they are -/

theorem step_plain {reading : Reading} {c : Char}
    (hquote : reading.quote = .plain)
    (hc : !isBlank c ∧ !isQuoting c ∧ !isActive c)
    (hfirst : reading.current = none → !isActiveFirst c)
    {bracket : Bracket} (hbracket : reading.bracket.next c = some bracket) :
    reading.step c =
      some ([], { reading.put .plain [c] with bracket }) := by
  obtain ⟨hblank, hquoting, hactive⟩ := hc
  simp only [isQuoting, Bool.not_eq_true', decide_eq_false_iff_not, not_or]
    at hquoting
  have hnone : ¬(isActive c = true ∨
      reading.current = none ∧ isActiveFirst c = true) := by
    rintro (h | ⟨hcurrent, h⟩)
    · simp [h] at hactive
    · simp [h] at hfirst
      exact hfirst hcurrent
  simp only [Reading.step, hquote, hquoting, if_false, if_neg hnone,
    Bool.not_eq_true'] at hblank ⊢
  simp [hblank, hbracket]

theorem lex_plain {reading : Reading} {text : List Char}
    (hquote : reading.quote = .plain)
    (htext : ∀ c ∈ text, !isBlank c ∧ !isQuoting c ∧ !isActive c)
    (hfirst : reading.current = none → ∀ c ∈ text.head?, !isActiveFirst c)
    (hbracket : (text.foldlM Bracket.next reading.bracket).isSome) :
    lex reading text = some (if text = [] then reading.current.toList
      else [reading.current.getD [] ++ text]) := by
  induction text generalizing reading with
  | nil => simp [lex, hquote]
  | cons c text ih =>
      obtain ⟨hc, htext⟩ := List.forall_mem_cons.mp htext
      rw [List.foldlM_cons] at hbracket
      cases hnext : reading.bracket.next c with
      | none => simp [hnext] at hbracket
      | some bracket =>
          simp only [hnext, Option.bind_eq_bind, Option.bind_some] at hbracket
          have hrest := @ih { reading.put .plain [c] with bracket } rfl htext
            (by simp [Reading.put]) hbracket
          rw [lex_of_step (step_plain hquote hc (fun h => hfirst h c rfl)
            hnext), hrest]
          cases text <;> simp [Reading.put]

theorem lex_word {word : List Char} (h : Plain word) :
    lex {} word = some [word] := by
  obtain ⟨hne, htext, hfirst, hbracket⟩ := h
  rw [lex_plain rfl htext (fun _ => hfirst)
    (by simpa [hasBracketExpression] using hbracket), if_neg hne]
  rfl

theorem lex_joined {found : List (List Char)} (h : ∀ word ∈ found, Plain word) :
    lex {} ([' '].intercalate found) = some found := by
  induction found with
  | nil => rfl
  | cons word rest ih =>
      obtain ⟨hword, hrest⟩ := List.forall_mem_cons.mp h
      cases rest with
      | nil => simpa using lex_word hword
      | cons next rest =>
          rw [List.intercalate_cons_cons, List.append_assoc,
            List.singleton_append, lex_append (lex_word hword), ih hrest]
          rfl

/-! ## Every quote is paid for -/

/-- What is counted of a text: digits alone cost no more than their blank. -/
def size (text : List Char) : Nat := text.countP fun c => !c.isDigit

/-- The room that words take on a line, each with the blank behind it. -/
def cost : List (List Char) → Nat
  | [] => 0
  | word :: rest => size word + 1 + cost rest

@[simp] theorem size_nil : size [] = 0 := rfl

@[simp] theorem size_append (text rest : List Char) :
    size (text ++ rest) = size text + size rest := List.countP_append

theorem size_cons (c : Char) (text : List Char) :
    size (c :: text) = size [c] + size text := size_append [c] text

theorem size_singleton {c : Char} (h : isBlank c ∨ isQuoting c) :
    size [c] = 1 := by
  simp only [isBlank, isQuoting, decide_eq_true_eq] at h
  rcases h with (rfl | rfl) | rfl | rfl | rfl <;> rfl

theorem cost_append (found later : List (List Char)) :
    cost (found ++ later) = cost found + cost later := by
  induction found with
  | nil => simp [cost]
  | cons word rest ih => simp [cost, ih, Nat.add_assoc]

def Quote.owed : Quote → Nat
  | .plain | .escaped | .doubleEscaped => 1
  | .single | .double => 0

def Reading.weight (reading : Reading) : Nat :=
  size (reading.current.getD []) + reading.quote.owed

theorem cost_ended (reading : Reading) :
    cost reading.current.toList ≤ size (reading.current.getD []) + 1 := by
  cases reading.current <;> simp [cost]

theorem put_weight (reading : Reading) {quote : Quote} {text : List Char}
    {n k : Nat} (h : size text + quote.owed + k ≤ n + reading.quote.owed) :
    (reading.put quote text).weight + k ≤ n + reading.weight := by
  simp only [Reading.weight, Reading.put, Option.getD_some, size_append]
  omega

theorem step_weight {reading next : Reading} {c : Char}
    {ended : List (List Char)} (h : reading.step c = some (ended, next)) :
    (isBlank c ∧ reading.quote = .plain ∧ ended = reading.current.toList ∧
      next = {}) ∨
    (ended = [] ∧ next.weight + (if reading.quote = .plain ∧ isQuoting c
      then 1 else 0) ≤ size [c] + reading.weight) := by
  have hplain : reading.quote = .plain → reading.quote.owed = 1 :=
    fun hquote => by rw [hquote]; rfl
  cases hquote : reading.quote with
  | plain =>
      have howed := hplain hquote
      simp only [Reading.step, hquote] at h
      split_ifs at h with hblank hbackslash hsingle hdouble hactive
      · obtain ⟨rfl, rfl⟩ := by simpa using h
        exact .inl ⟨hblank, rfl, rfl, rfl⟩
      · obtain ⟨rfl, rfl⟩ := by simpa using h
        subst hbackslash
        have hone : size ['\\'] = 1 := rfl
        refine .inr ⟨rfl, ?_⟩
        simp only [Reading.weight, hquote, Quote.owed, hone]
        split <;> omega
      · obtain ⟨rfl, rfl⟩ := by simpa using h
        subst hsingle
        exact .inr ⟨rfl, put_weight reading (by rw [howed]; decide)⟩
      · obtain ⟨rfl, rfl⟩ := by simpa using h
        subst hdouble
        exact .inr ⟨rfl, put_weight reading (by rw [howed]; decide)⟩
      · obtain ⟨bracket, -, heq⟩ := Option.map_eq_some_iff.mp h
        obtain ⟨rfl, rfl⟩ := Prod.mk.inj heq
        have hordinary : isQuoting c = false := by
          simp [isQuoting, hbackslash, hsingle, hdouble]
        have hput := @put_weight reading .plain [c] (size [c]) 0
          (by rw [howed]; simp [Quote.owed])
        refine .inr ⟨rfl, ?_⟩
        simpa [hordinary, Reading.weight, Reading.put] using hput
  | escaped =>
      simp only [Reading.step, hquote] at h
      split_ifs at h <;> obtain ⟨rfl, rfl⟩ := by simpa using h
      · exact .inr ⟨rfl, by simp [Reading.weight, hquote, Quote.owed]⟩
      · exact .inr ⟨rfl, put_weight reading (by simp [hquote, Quote.owed])⟩
  | single =>
      simp only [Reading.step, hquote] at h
      split_ifs at h with hclose <;> obtain ⟨rfl, rfl⟩ := by simpa using h
      · subst hclose
        exact .inr ⟨rfl, put_weight reading (by rw [hquote]; decide)⟩
      · exact .inr ⟨rfl, put_weight reading (by simp [hquote, Quote.owed])⟩
  | double =>
      simp only [Reading.step, hquote] at h
      split_ifs at h with hclose hbackslash <;>
        obtain ⟨rfl, rfl⟩ := by simpa using h
      · subst hclose
        exact .inr ⟨rfl, put_weight reading (by rw [hquote]; decide)⟩
      · subst hbackslash
        exact .inr ⟨rfl, put_weight reading (by rw [hquote]; decide)⟩
      · exact .inr ⟨rfl, put_weight reading (by simp [hquote, Quote.owed])⟩
  | doubleEscaped =>
      have hbackslash : size ['\\', c] = 1 + size [c] := size_cons '\\' [c]
      simp only [Reading.step, hquote] at h
      split_ifs at h <;> obtain ⟨rfl, rfl⟩ := by simpa using h
      · exact .inr ⟨rfl, put_weight reading (by simp [hquote, Quote.owed])⟩
      · exact .inr ⟨rfl, put_weight reading (by simp [hquote, Quote.owed])⟩
      · refine .inr ⟨rfl, put_weight reading ?_⟩
        simp [hquote, Quote.owed, hbackslash, Nat.add_comm]

theorem cost_step {reading next : Reading} {c : Char}
    {ended : List (List Char)} (h : reading.step c = some (ended, next)) :
    cost ended + next.weight ≤ size [c] + reading.weight := by
  rcases step_weight h with ⟨hblank, hquote, rfl, rfl⟩ | ⟨rfl, hweight⟩
  · have hended := cost_ended reading
    rw [size_singleton (.inl hblank), Reading.weight, Reading.weight, hquote]
    change _ + 1 ≤ 1 + (_ + 1)
    omega
  · simp only [cost]
    omega

theorem cost_step_lt {reading next : Reading} {c : Char}
    {ended : List (List Char)} (h : reading.step c = some (ended, next))
    (hquote : reading.quote = .plain) (hc : isQuoting c) :
    cost ended + next.weight < size [c] + reading.weight := by
  rcases step_weight h with ⟨hblank, -⟩ | ⟨rfl, hweight⟩
  · revert hc hblank
    simp only [isQuoting, isBlank, decide_eq_true_eq]
    rintro (rfl | rfl | rfl) (h | h) <;> cases h
  · rw [if_pos ⟨hquote, hc⟩] at hweight
    simp only [cost]
    omega

theorem cost_le {reading : Reading} {text : List Char}
    {found : List (List Char)} (h : lex reading text = some found) :
    cost found ≤ size text + reading.weight := by
  induction text generalizing reading found with
  | nil =>
      obtain ⟨hquote, rfl⟩ := lex_nil h
      have hended := cost_ended reading
      simp only [Reading.weight, hquote, Quote.owed, size_nil]
      omega
  | cons c text ih =>
      obtain ⟨ended, next, later, hstep, hlater, rfl⟩ := lex_cons h
      have := cost_step hstep
      have := ih hlater
      rw [cost_append, size_cons]
      omega

theorem step_stays {reading next : Reading} {c : Char}
    {ended : List (List Char)} (h : reading.step c = some (ended, next))
    (hquote : reading.quote = .plain) (hc : ¬isQuoting c) :
    next.quote = .plain := by
  simp only [isQuoting, decide_eq_true_eq, not_or] at hc
  simp only [Reading.step, hquote, hc, if_false] at h
  split_ifs at h
  · obtain ⟨rfl, rfl⟩ := by simpa using h
    rfl
  · obtain ⟨bracket, -, heq⟩ := Option.map_eq_some_iff.mp h
    obtain ⟨rfl, rfl⟩ := Prod.mk.inj heq
    rfl

theorem cost_lt {reading : Reading} {text : List Char}
    {found : List (List Char)} (h : lex reading text = some found)
    (hquote : reading.quote = .plain) (hc : ∃ c ∈ text, isQuoting c) :
    cost found < size text + reading.weight := by
  induction text generalizing reading found with
  | nil => simp at hc
  | cons c text ih =>
      obtain ⟨ended, next, later, hstep, hlater, rfl⟩ := lex_cons h
      rw [cost_append, size_cons]
      by_cases hquoting : isQuoting c
      · have := cost_step_lt hstep hquote hquoting
        have := cost_le hlater
        omega
      · have := cost_step hstep
        have := ih hlater (step_stays hstep hquote hquoting)
          (by simpa [hquoting] using hc)
        omega

/-! ## Words that come from a text without quotes -/

/-- What has been read of a word so far is plain, and read without quotes. -/
structure Reading.Unquoted (reading : Reading) : Prop where
  quote : reading.quote = .plain
  plain : ∀ word ∈ reading.current, Plain word
  bracket : (reading.current.getD []).foldlM Bracket.next .outside =
    some reading.bracket

theorem unquoted_start : ({} : Reading).Unquoted := ⟨rfl, by simp, rfl⟩

theorem Reading.Unquoted.step {reading next : Reading} {c : Char}
    {ended : List (List Char)} (hreading : reading.Unquoted)
    (h : reading.step c = some (ended, next)) (hc : ¬isQuoting c) :
    (∀ word ∈ ended, Plain word) ∧ next.Unquoted := by
  have hstays := step_stays h hreading.quote hc
  have hquoting := hc
  simp only [isQuoting, decide_eq_true_eq, not_or] at hc
  simp only [Reading.step, hreading.quote, hc, if_false] at h
  split_ifs at h with hblank hactive
  · obtain ⟨rfl, rfl⟩ := by simpa using h
    exact ⟨by simpa using hreading.plain, unquoted_start⟩
  · obtain ⟨bracket, hnext, heq⟩ := Option.map_eq_some_iff.mp h
    obtain ⟨rfl, rfl⟩ := Prod.mk.inj heq
    simp only [not_or, not_and] at hactive
    have hordinary : !isBlank c ∧ !isQuoting c ∧ !isActive c :=
      ⟨by simpa using hblank, by simpa using hquoting, by simpa using hactive.1⟩
    have hbracket : (reading.current.getD [] ++ [c]).foldlM Bracket.next
        .outside = some bracket := by
      simp [hreading.bracket, hnext]
    refine ⟨by simp, hstays, fun word hword => ?_, hbracket⟩
    obtain rfl := Option.some.inj hword
    refine ⟨by simp, fun d hd => ?_, ?_,
      by simp [hasBracketExpression, hbracket]⟩
    · rcases List.mem_append.mp hd with hd | hd
      · cases hword : reading.current with
        | none => simp [hword] at hd
        | some word =>
            exact (hreading.plain word hword).2.1 d (by simpa [hword] using hd)
      · obtain rfl := List.mem_singleton.mp hd
        exact hordinary
    · cases hword : reading.current with
      | none =>
          have hfirst : !isActiveFirst c := by simpa using hactive.2 hword
          simpa using hfirst
      | some word =>
          obtain ⟨hne, -, hfirst, -⟩ := hreading.plain word hword
          simpa [List.head?_append_of_ne_nil _ hne] using hfirst

theorem lex_unquoted {reading : Reading} {text : List Char}
    {found : List (List Char)} (h : lex reading text = some found)
    (hreading : reading.Unquoted) (hc : ¬∃ c ∈ text, isQuoting c) :
    ∀ word ∈ found, Plain word := by
  induction text generalizing reading found with
  | nil =>
      obtain ⟨-, rfl⟩ := lex_nil h
      simpa using hreading.plain
  | cons c text ih =>
      obtain ⟨ended, next, later, hstep, hlater, rfl⟩ := lex_cons h
      simp only [List.exists_mem_cons_iff, not_or] at hc
      obtain ⟨hended, hnext⟩ := hreading.step hstep hc.1
      intro word hword
      rcases List.mem_append.mp hword with hword | hword
      · exact hended word hword
      · exact ih hlater hnext hc.2 word hword

theorem size_joined (found : List (List Char)) (hne : found ≠ []) :
    size ([' '].intercalate found) + 1 = cost found := by
  induction found with
  | nil => exact absurd rfl hne
  | cons word rest ih =>
      cases rest with
      | nil => simp [cost]
      | cons next rest =>
          have := ih (by simp)
          have hblank : size [' '] = 1 := rfl
          rw [List.intercalate_cons_cons]
          simp only [cost, size_append, hblank] at this ⊢
          omega

theorem cost_joined_le {words found : List (List Char)} (hne : words ≠ [])
    (h : lex {} ([' '].intercalate words) = some found) :
    cost found ≤ cost words := by
  rw [← size_joined words hne]
  exact cost_le h

theorem lex_joined_iff (found : List (List Char)) :
    lex {} ([' '].intercalate found) = some found ↔
      ∀ word ∈ found, Plain word := by
  refine ⟨fun h => ?_, lex_joined⟩
  by_cases hne : found = []
  · simp [hne]
  · -- No room is left for quotes, which leave no trace in the words.
    refine lex_unquoted h unquoted_start fun hc => ?_
    have hlt := cost_lt h rfl hc
    have hjoined := size_joined found hne
    have hweight : ({} : Reading).weight = 1 := rfl
    omega

theorem words_joined (rest : List String) :
    words (" ".intercalate rest) =
      (lex {} ([' '].intercalate (rest.map String.toList))).map fun found =>
        found.map String.ofList := by
  rw [words, String.toList_intercalate]
  rfl

theorem words_joined_iff (rest : List String) :
    words (" ".intercalate rest) = some rest ↔
      ∀ word ∈ rest, Plain word.toList := by
  have hjoined := lex_joined_iff (rest.map String.toList)
  rw [List.forall_mem_map] at hjoined
  rw [words_joined, ← hjoined]
  cases lex {} ([' '].intercalate (rest.map String.toList)) with
  | none => simp
  | some found =>
      simp only [Option.map_some, Option.some.injEq]
      constructor
      · rintro rfl
        simp [Function.comp_def]
      · rintro rfl
        simp [Function.comp_def]

theorem words_cost_le {rest found : List String} (hne : rest ≠ [])
    (h : words (" ".intercalate rest) = some found) :
    cost (found.map String.toList) ≤ cost (rest.map String.toList) := by
  rw [words_joined] at h
  obtain ⟨chars, hlex, rfl⟩ := Option.map_eq_some_iff.mp h
  simpa [Function.comp_def] using cost_joined_le (by simpa using hne) hlex

theorem words_append {first : String} {start : List String}
    (hfirst : words first = some start) {rest : List String}
    (hrest : rest ≠ []) :
    words (" ".intercalate (first :: rest)) =
      (words (" ".intercalate rest)).map (start ++ ·) := by
  obtain ⟨found, hfound, rfl⟩ := Option.map_eq_some_iff.mp hfirst
  have hlex := lex_append hfound ([' '].intercalate (rest.map String.toList))
  have htext : (" ".intercalate (first :: rest)).toList =
      first.toList ++ ' ' :: [' '].intercalate (rest.map String.toList) := by
    rw [String.intercalate_cons_of_ne_nil hrest, String.toList_append,
      String.toList_append, String.toList_intercalate]
    simp
  rw [words_joined rest, words, htext, hlex, Option.map_map, Option.map_map]
  simp [Function.comp_def]

end Shell
