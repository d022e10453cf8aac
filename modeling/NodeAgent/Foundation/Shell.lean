import Mathlib.Data.List.Basic

/-!
# Lists of commands as a POSIX shell runs them

A text is a list of simple commands and operators.  `&&` and `||` have the same
precedence and associate to the left; `;` separates the lists that they make.
What a simple command does is left open: it returns an exit status.
-/

namespace Shell

inductive Token (C : Type) where
  | cmd (command : C)
  | exit (status : Nat)
  | andIf
  | orIf
  | semi
  | untilT
  | doT
  | doneT
  | ifT
  | thenT
  | fiT

inductive Script (C : Type) where
  | run (command : C)
  | exit (status : Nat)
  | and (first second : Script C)
  | or (first second : Script C)
  | seq (first second : Script C)
  | untilDo (condition body : Script C)
  | ifThen (condition body : Script C)

variable {C : Type}

/-! ## Reading a text -/

def closes : List (Token C) → Bool
  | [] | .doT :: _ | .doneT :: _ | .thenT :: _ | .fiT :: _ => true
  | _ => false

mutual

def parseList : Nat → List (Token C) → Option (Script C × List (Token C))
  | 0, _ => none
  | fuel + 1, tokens => do
      let (first, tokens) ← parseCommand fuel tokens
      let (first, tokens) ← parseAndOr fuel first tokens
      match tokens with
      | .semi :: tokens =>
          if closes tokens then some (first, tokens)
          else do
            let (rest, tokens) ← parseList fuel tokens
            some (.seq first rest, tokens)
      | tokens => some (first, tokens)

def parseAndOr :
    Nat → Script C → List (Token C) → Option (Script C × List (Token C))
  | 0, _, _ => none
  | fuel + 1, first, .andIf :: tokens => do
      let (second, tokens) ← parseCommand fuel tokens
      parseAndOr fuel (.and first second) tokens
  | fuel + 1, first, .orIf :: tokens => do
      let (second, tokens) ← parseCommand fuel tokens
      parseAndOr fuel (.or first second) tokens
  | _ + 1, first, tokens => some (first, tokens)

def parseCommand : Nat → List (Token C) → Option (Script C × List (Token C))
  | 0, _ => none
  | _ + 1, .cmd command :: tokens => some (.run command, tokens)
  | _ + 1, .exit status :: tokens => some (.exit status, tokens)
  | fuel + 1, .untilT :: tokens => do
      let (condition, tokens) ← parseList fuel tokens
      match tokens with
      | .doT :: tokens => do
          let (body, tokens) ← parseList fuel tokens
          match tokens with
          | .doneT :: tokens => some (.untilDo condition body, tokens)
          | _ => none
      | _ => none
  | fuel + 1, .ifT :: tokens => do
      let (condition, tokens) ← parseList fuel tokens
      match tokens with
      | .thenT :: tokens => do
          let (body, tokens) ← parseList fuel tokens
          match tokens with
          | .fiT :: tokens => some (.ifThen condition body, tokens)
          | _ => none
      | _ => none
  | _ + 1, _ => none

end

/-- The script that the whole text is; every round reads a token at least. -/
def parse (tokens : List (Token C)) : Option (Script C) :=
  match parseList (2 * tokens.length + 2) tokens with
  | some (script, []) => some script
  | _ => none

/-! ## Running a script -/

/-- What is left to do around the command that runs. -/
inductive Frame (C : Type) where
  | andThen (second : Script C)
  | orElse (second : Script C)
  | seqThen (second : Script C)
  | untilCondition (condition body : Script C)
  | untilBody (condition body : Script C)
  | ifCondition (body : Script C)

/-- A shell waits for a command to return, or has exited. -/
inductive State (C : Type) where
  | waiting (command : C) (stack : List (Frame C))
  | exited (status : Nat)

/-- Go down to the first command of a script. -/
def enter : Script C → List (Frame C) → State C
  | .run command, stack => .waiting command stack
  | .exit status, _ => .exited status
  | .and first second, stack => enter first (.andThen second :: stack)
  | .or first second, stack => enter first (.orElse second :: stack)
  | .seq first second, stack => enter first (.seqThen second :: stack)
  | .untilDo condition body, stack =>
      enter condition (.untilCondition condition body :: stack)
  | .ifThen condition body, stack => enter condition (.ifCondition body :: stack)

/-- Go on with the status that a command returned. -/
def resume (status : Nat) : List (Frame C) → State C
  | [] => .exited status
  | .andThen second :: stack =>
      if status = 0 then enter second stack else resume status stack
  | .orElse second :: stack =>
      if status = 0 then resume status stack else enter second stack
  | .seqThen second :: stack => enter second stack
  | .untilCondition condition body :: stack =>
      if status = 0 then resume 0 stack
      else enter body (.untilBody condition body :: stack)
  | .untilBody condition body :: stack =>
      enter condition (.untilCondition condition body :: stack)
  | .ifCondition body :: stack =>
      if status = 0 then enter body stack else resume 0 stack

def start (script : Script C) : State C := enter script []

def State.returns (status : Nat) : State C → State C
  | .waiting _ stack => resume status stack
  | .exited status => .exited status

/-! ## Which commands a shell can run -/

namespace Script

/-- Every command of the script satisfies `P`. -/
def All (P : C → Prop) : Script C → Prop
  | .run command => P command
  | .exit _ => True
  | .and first second | .or first second | .seq first second =>
      first.All P ∧ second.All P
  | .untilDo condition body | .ifThen condition body =>
      condition.All P ∧ body.All P

end Script

def Frame.All (P : C → Prop) : Frame C → Prop
  | .andThen second | .orElse second | .seqThen second => second.All P
  | .untilCondition condition body | .untilBody condition body =>
      condition.All P ∧ body.All P
  | .ifCondition body => body.All P

def State.All (P : C → Prop) : State C → Prop
  | .waiting command stack => P command ∧ ∀ frame ∈ stack, frame.All P
  | .exited _ => True

variable {P : C → Prop}

theorem enter_all {script : Script C} {stack : List (Frame C)}
    (hscript : script.All P) (hstack : ∀ frame ∈ stack, frame.All P) :
    (enter script stack).All P := by
  induction script generalizing stack with
  | run command => exact ⟨hscript, hstack⟩
  | exit status => trivial
  | and first second ih _ =>
      exact ih hscript.1 (List.forall_mem_cons.mpr ⟨hscript.2, hstack⟩)
  | or first second ih _ =>
      exact ih hscript.1 (List.forall_mem_cons.mpr ⟨hscript.2, hstack⟩)
  | seq first second ih _ =>
      exact ih hscript.1 (List.forall_mem_cons.mpr ⟨hscript.2, hstack⟩)
  | untilDo condition body ih _ =>
      exact ih hscript.1 (List.forall_mem_cons.mpr ⟨hscript, hstack⟩)
  | ifThen condition body ih _ =>
      exact ih hscript.1 (List.forall_mem_cons.mpr ⟨hscript.2, hstack⟩)

theorem start_all {script : Script C} (h : script.All P) : (start script).All P :=
  enter_all h (by simp)

theorem resume_all {status : Nat} {stack : List (Frame C)}
    (h : ∀ frame ∈ stack, frame.All P) : (resume status stack).All P := by
  induction stack generalizing status with
  | nil => trivial
  | cons frame stack ih =>
      obtain ⟨hframe, hstack⟩ := List.forall_mem_cons.mp h
      cases frame with
      | andThen second =>
          by_cases hs : status = 0
          · simpa [resume, hs] using enter_all hframe hstack
          · simpa [resume, hs] using ih hstack
      | orElse second =>
          by_cases hs : status = 0
          · simpa [resume, hs] using ih hstack
          · simpa [resume, hs] using enter_all hframe hstack
      | seqThen second => exact enter_all hframe hstack
      | untilCondition condition body =>
          by_cases hs : status = 0
          · simpa [resume, hs] using ih hstack
          · rw [resume, if_neg hs]
            exact enter_all hframe.2
              (List.forall_mem_cons.mpr ⟨hframe, hstack⟩)
      | untilBody condition body =>
          exact enter_all hframe.1 (List.forall_mem_cons.mpr ⟨hframe, hstack⟩)
      | ifCondition body =>
          by_cases hs : status = 0
          · simpa [resume, hs] using enter_all hframe hstack
          · simpa [resume, hs] using ih hstack

theorem State.All.returns {state : State C} (h : state.All P) (status : Nat) :
    (state.returns status).All P := by
  cases state with
  | waiting command stack => exact resume_all h.2
  | exited status => trivial

/-! ## Chains of commands joined by `&&` -/

/-- The texts joined with ` && ` between them. -/
def joinAnd : List (List (Token C)) → List (Token C) :=
  List.intercalate [.andIf]

end Shell
