import NodeAgent.Protocol
import NodeAgent.Foundation.Decimal
import NodeAgent.Foundation.Text
import Mathlib.Data.Finset.Union

/-!
# The ports that docker has bound

`_docker_bound_ports` reads what `docker ps` prints of the ports of all running
containers, so that a port of theirs is not handed out.
-/

namespace NodeAgent.BoundPorts

open Decimal

/-! ## The model -/

def portOfChunk (chunk : List Char) : Option Int :=
  match Text.cut ['-', '>'] (Text.strip chunk) with
  | none => none
  | some (lhs, _) => parseInt? (String.ofList (Text.afterLast ':' lhs))

def portsOf (stdout : List Char) : Finset Int :=
  ((Text.splitLines stdout).flatMap fun line =>
    (line.splitOn ',').filterMap portOfChunk).toFinset

/-- `_docker_bound_ports` on the exit status and the output of `docker ps`. -/
def dockerBoundPorts (result : Except Exn (Int × List Char)) :
    Except Exn (Finset Int) :=
  match result with
  | .error e => if e.isMissingOrTimeout then .ok ∅ else .error e
  | .ok (returncode, stdout) =>
      if returncode ≠ 0 then .ok ∅ else .ok (portsOf stdout)

/-! ## What docker prints -/

def isAddressChar (c : Char) : Bool :=
  c.isAlphanum ∨ c ∈ ['.', ':', '[', ']', '%']

structure Address where
  text : List Char
  chars : ∀ c ∈ text, isAddressChar c
  deriving DecidableEq

inductive IpProtocol where
  | tcp
  | udp
  | sctp
  deriving DecidableEq, Repr

def IpProtocol.text : IpProtocol → List Char
  | .tcp => ['t', 'c', 'p']
  | .udp => ['u', 'd', 'p']
  | .sctp => ['s', 'c', 't', 'p']

inductive Entry where
  | exposed (containerPort : Nat) (proto : IpProtocol)
  | single (ip : Option Address) (hostPort containerPort : Nat)
      (proto : IpProtocol)
  | range (ip : Option Address) (first last containerFirst containerLast : Nat)
      (proto : IpProtocol)
  deriving DecidableEq

/-- `[ip:]port` -/
def hostText (ip : Option Address) (ports : List Char) : List Char :=
  match ip with
  | none => ports
  | some address => address.text ++ ':' :: ports

namespace Entry

def text : Entry → List Char
  | exposed containerPort proto => digits containerPort ++ '/' :: proto.text
  | single ip hostPort containerPort proto =>
      hostText ip (digits hostPort) ++
        '-' :: '>' :: (digits containerPort ++ '/' :: proto.text)
  | range ip first last containerFirst containerLast proto =>
      hostText ip (digits first ++ '-' :: digits last) ++
        '-' :: '>' :: (digits containerFirst ++ '-' :: digits containerLast ++
          '/' :: proto.text)

/-- The host ports that are published. -/
def hostPorts : Entry → Finset Int
  | exposed _ _ => ∅
  | single _ hostPort _ _ => {(hostPort : Int)}
  | range _ first last _ _ _ =>
      ((List.range' first (last + 1 - first)).map Int.ofNat).toFinset

/-- The port of an entry that publishes one port alone. -/
def singlePort : Entry → Option Int
  | single _ hostPort _ _ => some hostPort
  | _ => none

def isRange : Entry → Bool
  | range _ _ _ _ _ _ => true
  | _ => false

end Entry

def lineText (blanks : Nat) (entries : List Entry) : List Char :=
  (',' :: List.replicate blanks ' ').intercalate (entries.map Entry.text)

/-- One line for each container. -/
def output (blanks : Nat) (containers : List (List Entry)) : List Char :=
  containers.flatMap fun entries => lineText blanks entries ++ ['\n']

def published (containers : List (List Entry)) : Finset Int :=
  containers.flatten.toFinset.biUnion Entry.hostPorts

/-! ## Numbers -/

/-! ## The characters of an entry -/

def isEntryChar (c : Char) : Bool :=
  isAddressChar c ∨ c ∈ ['-', '>', '/']

theorem ne_of_isEntryChar {c d : Char} (hc : isEntryChar c)
    (hd : isEntryChar d = false) : c ≠ d := by
  rintro rfl
  simp [hd] at hc

theorem isSpace_of_isEntryChar {c : Char} (hc : isEntryChar c) :
    Text.isSpace c = false := by
  have hspaces : Text.spaces.all fun d => isEntryChar d = false := by decide
  rw [Text.isSpace, decide_eq_false_iff_not]
  intro hmem
  have hspace := of_decide_eq_true (List.all_eq_true.mp hspaces c hmem)
  exact ne_of_isEntryChar hc hspace rfl

theorem isLineBreak_of_isEntryChar {c : Char} (hc : isEntryChar c) :
    Text.isLineBreak c = false := by
  have hbreaks : ['\n', '\r', '\x0b', '\x0c', '\x1c', '\x1d', '\x1e',
      '\u0085', '\u2028', '\u2029'].all fun d => isEntryChar d = false := by
    decide
  rw [Text.isLineBreak, decide_eq_false_iff_not]
  intro hmem
  have hbreak := of_decide_eq_true (List.all_eq_true.mp hbreaks c hmem)
  exact ne_of_isEntryChar hc hbreak rfl

theorem isEntryChar_of_isDigit {c : Char} (hc : c.isDigit) : isEntryChar c := by
  simp [isEntryChar, isAddressChar, Char.isAlphanum, hc]

theorem isEntryChar_of_isAddressChar {c : Char} (hc : isAddressChar c) :
    isEntryChar c := by
  simp [isEntryChar, hc]

theorem isEntryChar_proto (proto : IpProtocol) :
    ∀ c ∈ proto.text, isEntryChar c := by
  cases proto <;> exact List.all_eq_true.mp (by decide)

theorem isEntryChar_digits (n : Nat) : ∀ c ∈ digits n, isEntryChar c :=
  fun _ hc => isEntryChar_of_isDigit (isDigit_digits hc)

theorem isEntryChar_hostText {ports : List Char}
    (hports : ∀ c ∈ ports, isEntryChar c) (ip : Option Address) :
    ∀ c ∈ hostText ip ports, isEntryChar c := by
  cases ip with
  | none => exact hports
  | some address =>
      simp only [hostText, List.forall_mem_append, List.forall_mem_cons]
      exact ⟨fun c hc => isEntryChar_of_isAddressChar (address.chars c hc),
        by decide, hports⟩

theorem isEntryChar_text (entry : Entry) : ∀ c ∈ entry.text, isEntryChar c := by
  have hminus : isEntryChar '-' := by decide
  have hgreater : isEntryChar '>' := by decide
  have hslash : isEntryChar '/' := by decide
  cases entry with
  | exposed containerPort proto =>
      simp only [Entry.text, List.forall_mem_append, List.forall_mem_cons]
      exact ⟨isEntryChar_digits _, hslash, isEntryChar_proto proto⟩
  | single ip hostPort containerPort proto =>
      simp only [Entry.text, List.forall_mem_append, List.forall_mem_cons]
      exact ⟨isEntryChar_hostText (isEntryChar_digits _) ip, hminus, hgreater,
        isEntryChar_digits _, hslash, isEntryChar_proto proto⟩
  | range ip first last containerFirst containerLast proto =>
      have hports : ∀ c ∈ digits first ++ '-' :: digits last, isEntryChar c := by
        simp only [List.forall_mem_append, List.forall_mem_cons]
        exact ⟨isEntryChar_digits _, hminus, isEntryChar_digits _⟩
      simp only [Entry.text, List.forall_mem_append, List.forall_mem_cons]
      exact ⟨isEntryChar_hostText hports ip, hminus, hgreater,
        ⟨isEntryChar_digits _, hminus, isEntryChar_digits _⟩, hslash,
        isEntryChar_proto proto⟩

/-! ## One entry -/

theorem not_mem_of_isDigit {d : Char} (hd : d.isDigit = false) (n : Nat) :
    d ∉ digits n := by
  intro hmem
  have := isDigit_digits hmem
  simp [hd] at this

theorem afterLast_hostText {ports : List Char} (h : ':' ∉ ports)
    (ip : Option Address) : Text.afterLast ':' (hostText ip ports) = ports := by
  cases ip with
  | none => exact Text.afterLast_of_not_mem h
  | some address => exact Text.afterLast_append h address.text

theorem not_mem_hostText {ports : List Char} (h : '>' ∉ ports)
    (ip : Option Address) : '>' ∉ hostText ip ports := by
  cases ip with
  | none => exact h
  | some address =>
      simp only [hostText, List.mem_append, List.mem_cons, not_or]
      refine ⟨fun hmem => ?_, by decide, h⟩
      exact absurd (address.chars '>' hmem) (by decide)

theorem portOfChunk_published {ports : List Char} (hcolon : ':' ∉ ports)
    (hgreater : '>' ∉ ports) (ip : Option Address) (after : List Char)
    {chunk : List Char}
    (hchunk : Text.strip chunk = hostText ip ports ++ '-' :: '>' :: after) :
    portOfChunk chunk = parseInt? (String.ofList ports) := by
  rw [portOfChunk, hchunk,
    Text.cut_append (by decide) (not_mem_hostText hgreater ip)]
  simp only [afterLast_hostText hcolon]

theorem portOfChunk_text (blanks : Nat) (entry : Entry) :
    portOfChunk (List.replicate blanks ' ' ++ entry.text) = entry.singlePort := by
  have hblank : ∀ c ∈ List.replicate blanks ' ', Text.isSpace c := by
    intro c hc
    obtain rfl := List.eq_of_mem_replicate hc
    decide
  have hstrip : Text.strip (List.replicate blanks ' ' ++ entry.text) =
      entry.text :=
    Text.trim_append hblank fun c hc =>
      isSpace_of_isEntryChar (isEntryChar_text entry c hc)
  cases entry with
  | exposed containerPort proto =>
      have hgreater : '>' ∉ (Entry.exposed containerPort proto).text := by
        have hproto : '>' ∉ proto.text := by cases proto <;> decide
        simp [Entry.text, not_mem_of_isDigit, hproto]
      rw [portOfChunk, hstrip, Text.cut_eq_none hgreater]
      rfl
  | single ip hostPort containerPort proto =>
      rw [portOfChunk_published (not_mem_of_isDigit (by decide) _)
        (not_mem_of_isDigit (by decide) _) ip _ hstrip, parseInt?_digits]
      rfl
  | range ip first last containerFirst containerLast proto =>
      rw [portOfChunk_published (by simp [not_mem_of_isDigit])
        (by simp [not_mem_of_isDigit]) ip _ hstrip, parseInt?_range]
      rfl

/-! ## The whole output -/

theorem append_intercalate (pad separator first : List Char)
    (rest : List (List Char)) :
    pad ++ separator.intercalate (first :: rest) =
      separator.intercalate ((pad ++ first) :: rest) := by
  cases rest <;> simp [List.intercalate_cons_cons]

theorem lineText_cons (blanks : Nat) (entry : Entry) (rest : List Entry) :
    lineText blanks (entry :: rest) =
      [','].intercalate (entry.text ::
        rest.map fun entry => List.replicate blanks ' ' ++ entry.text) := by
  induction rest generalizing entry with
  | nil => simp [lineText]
  | cons next rest ih =>
      have hcons : lineText blanks (entry :: next :: rest) =
          entry.text ++ ',' :: List.replicate blanks ' ' ++
            lineText blanks (next :: rest) := by
        rw [lineText, List.map_cons, List.map_cons, List.intercalate_cons_cons]
        rfl
      rw [hcons, ih next, List.append_assoc, List.cons_append, append_intercalate,
        List.map_cons, List.intercalate_cons_cons, List.append_assoc]
      rfl

theorem chunks_lineText (blanks : Nat) (entries : List Entry) :
    ((lineText blanks entries).splitOn ',').filterMap portOfChunk =
      entries.filterMap Entry.singlePort := by
  cases entries with
  | nil => rfl
  | cons entry rest =>
      have hcomma : ∀ entry : Entry, ',' ∉ entry.text := fun entry hmem =>
        ne_of_isEntryChar (isEntryChar_text entry ',' hmem) (by decide) rfl
      rw [lineText_cons, List.splitOn_intercalate _ _ (by simp)]
      · have hfirst := portOfChunk_text 0 entry
        simp only [List.replicate_zero, List.nil_append] at hfirst
        rw [List.filterMap_cons, List.filterMap_cons, hfirst, List.filterMap_map]
        simp only [Function.comp_def, portOfChunk_text]
      · simp [hcomma]

theorem isLineBreak_lineText (blanks : Nat) (entries : List Entry) :
    ∀ c ∈ lineText blanks entries, Text.isLineBreak c = false := by
  have hentry : ∀ entry : Entry, ∀ c ∈ entry.text, Text.isLineBreak c = false :=
    fun entry c hc => isLineBreak_of_isEntryChar (isEntryChar_text entry c hc)
  have hblank : ∀ c ∈ List.replicate blanks ' ', Text.isLineBreak c = false := by
    intro c hc
    obtain rfl := List.eq_of_mem_replicate hc
    decide
  induction entries with
  | nil => simp [lineText]
  | cons entry rest ih =>
      cases rest with
      | nil => simpa [lineText] using hentry entry
      | cons next rest =>
          rw [lineText, List.map_cons, List.map_cons, List.intercalate_cons_cons]
          simp only [List.forall_mem_append, List.forall_mem_cons]
          exact ⟨⟨hentry entry, by decide, hblank⟩, ih⟩

theorem portsOf_output (blanks : Nat) (containers : List (List Entry)) :
    portsOf (output blanks containers) =
      (containers.flatten.filterMap Entry.singlePort).toFinset := by
  have hlines : Text.splitLines (output blanks containers) =
      containers.map (lineText blanks) := by
    have hunlines := @Text.splitLines_unlines (containers.map (lineText blanks))
      (by simpa using fun entries _ => isLineBreak_lineText blanks entries)
    rwa [List.flatMap_map] at hunlines
  rw [portsOf, hlines, List.flatMap_map]
  simp only [chunks_lineText]
  rw [List.filterMap_flatten, List.flatMap]

example : portsOf "0.0.0.0:30375->22/tcp, :::30375->22/tcp\n".toList = {30375} := by
  decide +kernel

theorem hostPorts_of_singlePort {entry : Entry} {port : Int}
    (h : entry.singlePort = some port) : entry.hostPorts = {port} := by
  cases entry with
  | single ip hostPort containerPort proto =>
      obtain rfl := Option.some.inj h
      rfl
  | _ => simp [Entry.singlePort] at h

theorem hostPorts_cases {entry : Entry} {port : Int}
    (h : port ∈ entry.hostPorts) :
    entry.singlePort = some port ∨ entry.isRange := by
  cases entry with
  | exposed containerPort proto => simp [Entry.hostPorts] at h
  | single ip hostPort containerPort proto =>
      obtain rfl := Finset.mem_singleton.mp h
      exact .inl rfl
  | range ip first last containerFirst containerLast proto => exact .inr rfl

/--
All published ports are read exactly if each port of a range is published by an
entry of its own too.
-/
theorem dockerBoundPorts_eq_iff (blanks : Nat) (containers : List (List Entry)) :
    dockerBoundPorts (.ok (0, output blanks containers)) =
        .ok (published containers) ↔
      ∀ entry ∈ containers.flatten, entry.isRange →
        ∀ port ∈ entry.hostPorts, ∃ other ∈ containers.flatten,
          other.singlePort = some port := by
  have hread : ∀ port, port ∈ portsOf (output blanks containers) ↔
      ∃ entry ∈ containers.flatten, entry.singlePort = some port := by
    intro port
    rw [portsOf_output, List.mem_toFinset, List.mem_filterMap]
  have hpublished : ∀ port, port ∈ published containers ↔
      ∃ entry ∈ containers.flatten, port ∈ entry.hostPorts := by
    intro port
    simp only [published, Finset.mem_biUnion, List.mem_toFinset]
  rw [dockerBoundPorts, if_neg (by simp), Except.ok.injEq, Finset.ext_iff]
  constructor
  · intro h entry hentry _ port hport
    exact (hread port).mp ((h port).mpr ((hpublished port).mpr ⟨entry, hentry, hport⟩))
  · intro h port
    rw [hread, hpublished]
    constructor
    · rintro ⟨entry, hentry, hsingle⟩
      exact ⟨entry, hentry, by simp [hostPorts_of_singlePort hsingle]⟩
    · rintro ⟨entry, hentry, hport⟩
      rcases hostPorts_cases hport with hsingle | hrange
      · exact ⟨entry, hentry, hsingle⟩
      · exact h entry hentry hrange port hport

def anyAddress : Address := ⟨"0.0.0.0".toList, List.all_eq_true.mp (by decide +kernel)⟩

def threePorts : List (List Entry) :=
  [[.range anyAddress 8000 8002 8000 8002 .tcp]]

theorem range_not_read :
    output 1 threePorts = "0.0.0.0:8000-8002->8000-8002/tcp\n".toList ∧
      published threePorts = {8000, 8001, 8002} ∧
      dockerBoundPorts (.ok (0, output 1 threePorts)) ≠
        .ok (published threePorts) := by
  refine ⟨by decide +kernel, by decide +kernel, fun h => ?_⟩
  have hnone : portsOf (output 1 threePorts) = ∅ := portsOf_output 1 threePorts
  rw [dockerBoundPorts, if_neg (by simp), hnone, Except.ok.injEq] at h
  exact absurd h (by decide +kernel)

end NodeAgent.BoundPorts
