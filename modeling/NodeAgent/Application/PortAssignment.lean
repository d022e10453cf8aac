import NodeAgent.Application.Start
import Mathlib.Data.Finset.Dedup
import Mathlib.Data.Finset.Insert

/-!
# The ports of one pod

The part of a pod's start that deals with ports, with every answer of the host
taken by itself: between two of them anything may have changed.  The agent asks
one thing after the other, so the answers are numbered, and each function has the
number of the next one beside its result.  A loop that has not ended after
`limit` rounds has no result.
-/

namespace NodeAgent.PortAssignment

/-- What the host would answer to the `k`-th question. -/
structure Answers where
  /-- `_docker_bound_ports()`; a docker that cannot be asked has none. -/
  dockerBound : Nat → Except Exn (Finset Int)
  /-- `sock.bind(("0.0.0.0", port))` -/
  bind : Nat → Int → Except Exn Unit
  /-- A random number, from which `secrets.randbelow` takes the remainder. -/
  random : Nat → Nat

structure PortRanges where
  sshPortRangeStart : Int
  sshPortRangeEnd : Int
  userPortRangeStart : Int
  userPortRangeEnd : Int

/-! ## The model -/

section Host

variable (host : Answers)

def tryBind (port : Int) (k : Nat) : Except Exn Bool × Nat :=
  match host.bind k port with
  | .ok () => (.ok true, k + 1)
  | .error e => (if e.isOSError then .ok false else .error e, k + 1)

def isPortFree (port : Int) (k : Nat) : Except Exn Bool × Nat :=
  match host.dockerBound k with
  | .error e => (.error e, k + 1)
  | .ok dockerUsed =>
      if port ∈ dockerUsed then (.ok false, k + 1)
      else tryBind host port (k + 1)

/-- The loop of `choose_free_port`. -/
def drawPort (start stop : Int) (dockerUsed : Finset Int) :
    Nat → Finset Int → Nat → Option (Except Exn Int × Nat)
  | 0, _, _ => none
  | limit + 1, tried, k =>
      if tried.card < stop - start then
        let port := host.random k % (stop - start) + start
        if port ∈ tried then drawPort start stop dockerUsed limit tried (k + 1)
        else if port ∈ dockerUsed then
          drawPort start stop dockerUsed limit (insert port tried) (k + 1)
        else
          match tryBind host port (k + 1) with
          | (.error e, k) => some (.error e, k)
          | (.ok true, k) => some (.ok port, k)
          | (.ok false, k) =>
              drawPort start stop dockerUsed limit (insert port tried) k
      else some (.error (.sshError "no free SSH port found in range"), k)

def chooseFreePort (limit : Nat) (start stop : Int) (k : Nat) :
    Option (Except Exn Int × Nat) :=
  match host.dockerBound k with
  | .error e => some (.error e, k + 1)
  | .ok dockerUsed => drawPort host start stop dockerUsed limit ∅ (k + 1)

/-- Choose a port, and again `while host_port in used_host_ports`. -/
def chooseUnusedPort (limit : Nat) (start stop : Int) (used : List Int) :
    Nat → Nat → Option (Except Exn Int × Nat)
  | 0, _ => none
  | rounds + 1, k =>
      match chooseFreePort host limit start stop k with
      | none => none
      | some (.error e, k) => some (.error e, k)
      | some (.ok port, k) =>
          if port ∈ used then chooseUnusedPort limit start stop used rounds k
          else some (.ok port, k)

/-- `in_range and container_port not in used_host_ports and is_port_free(…)` -/
def sameNumberFree (ranges : PortRanges) (used : List Int) (containerPort : Int)
    (k : Nat) : Except Exn Bool × Nat :=
  if ranges.userPortRangeStart ≤ containerPort ∧
      containerPort ≤ ranges.userPortRangeEnd ∧ containerPort ∉ used then
    isPortFree host containerPort k
  else (.ok false, k)

def assignPorts (limit : Nat) (ranges : PortRanges)
    (assigned : List (Int × Int)) :
    List Int → Nat → Option (Except Exn (List (Int × Int)) × Nat)
  | [], k => some (.ok assigned, k)
  | containerPort :: rest, k =>
      let used := assigned.map Prod.snd
      match sameNumberFree host ranges used containerPort k with
      | (.error e, k) => some (.error e, k)
      | (.ok true, k) =>
          assignPorts limit ranges
            (assigned ++ [(containerPort, containerPort)]) rest k
      | (.ok false, k) =>
          match chooseUnusedPort host limit ranges.userPortRangeStart
              ranges.userPortRangeEnd used limit k with
          | none => none
          | some (.error e, k) =>
              -- The user range is exhausted: what is assigned is kept.
              some (if isSSHError e then .ok assigned else .error e, k)
          | some (.ok hostPort, k) =>
              assignPorts limit ranges
                (assigned ++ [(containerPort, hostPort)]) rest k

end Host

section Requests

variable {Entry : Type} (toInt : Entry → Except Exn Int)

def isUsable (port : Int) : Bool := 1 ≤ port ∧ port ≤ 65535 ∧ port ≠ 22

def normalizePorts (seen : Finset Int) (requested : List Int) :
    List Entry → Except Exn (List Int)
  | [] => .ok requested
  | p :: rest =>
      match toInt p with
      | .error .typeError | .error .valueError =>
          normalizePorts seen requested rest
      | .error e => .error e
      | .ok port =>
          if isUsable port ∧ port ∉ seen then
            if 10 ≤ (requested ++ [port]).length then .ok (requested ++ [port])
            else normalizePorts (insert port seen) (requested ++ [port]) rest
          else if 10 ≤ requested.length then .ok requested
          else normalizePorts seen requested rest

/-- The SSH port, and the ports that are assigned for the request. -/
def podPorts (host : Answers) (limit : Nat) (ranges : PortRanges)
    (requestedPortsRaw : List Entry) :
    Option (Except Exn (Int × List (Int × Int))) :=
  match chooseFreePort host limit ranges.sshPortRangeStart
      ranges.sshPortRangeEnd 0 with
  | none => none
  | some (.error e, _) => some (.error e)
  | some (.ok sshPort, k) =>
      match normalizePorts toInt ∅ [] requestedPortsRaw with
      | .error e => some (.error e)
      | .ok requested =>
          (assignPorts host limit ranges [] requested k).map fun (result, _) =>
            result.map (sshPort, ·)

end Requests

/-! ## The normalised request -/

section Requests

variable {Entry : Type} (toInt : Entry → Except Exn Int)

def usablePort (entry : Entry) : Option Int :=
  match toInt entry with
  | .ok port => if isUsable port then some port else none
  | .error _ => none

/-- The usable ports of the request, each at its first place. -/
def normalized (requestedPortsRaw : List Entry) : List Int :=
  (requestedPortsRaw.filterMap (usablePort toInt)).eraseDups

variable {toInt}

theorem eraseDups_eq_dedup {α : Type} [DecidableEq α] (items : List α) :
    items.eraseDups = items.reverse.dedup.reverse := by
  induction items using List.reverseRecOn with
  | nil => rfl
  | append_singleton items item ih =>
      rw [List.eraseDups_append, ih, List.reverse_append, List.reverse_singleton,
        List.singleton_append]
      by_cases hitem : item ∈ items
      · rw [List.dedup_cons_of_mem (by simpa using hitem)]
        simp [List.removeAll, hitem]
      · rw [List.dedup_cons_of_notMem (by simpa using hitem)]
        simp [List.removeAll, hitem, List.eraseDups_cons]

theorem eraseDups_of_nodup {ports : List Int} (h : ports.Nodup) :
    ports.eraseDups = ports := by
  rw [eraseDups_eq_dedup, List.dedup_eq_self.mpr (List.nodup_reverse.mpr h),
    List.reverse_reverse]

theorem eraseDups_append_of_mem {ports : List Int} {port : Int}
    (h : port ∈ ports) (rest : List Int) :
    (ports ++ port :: rest).eraseDups = (ports ++ rest).eraseDups := by
  rw [List.eraseDups_append, List.eraseDups_append, List.removeAll,
    List.removeAll, List.filter_cons_of_neg (by simpa using h)]

theorem normalizePorts_cons {seen : Finset Int} {requested result : List Int}
    {p : Entry} {rest : List Entry} (hlength : requested.length < 10)
    (h : normalizePorts toInt seen requested (p :: rest) = .ok result) :
    ((usablePort toInt p = none ∨ ∃ port ∈ seen,
        usablePort toInt p = some port) ∧
      normalizePorts toInt seen requested rest = .ok result) ∨
    ∃ port, usablePort toInt p = some port ∧ port ∉ seen ∧
      (if 10 ≤ requested.length + 1 then result = requested ++ [port]
        else normalizePorts toInt (insert port seen) (requested ++ [port])
          rest = .ok result) := by
  rw [normalizePorts] at h
  cases hp : toInt p with
  | error e =>
      refine .inl ⟨.inl (by simp [usablePort, hp]), ?_⟩
      cases e <;> simp_all
  | ok port =>
      simp only [hp, List.length_append, List.length_singleton] at h
      by_cases husable : isUsable port
      · have hport : usablePort toInt p = some port := by
          simp [usablePort, hp, husable]
        by_cases hseen : port ∈ seen
        · rw [if_neg (by simp [hseen]), if_neg (by omega)] at h
          exact .inl ⟨.inr ⟨port, hseen, hport⟩, h⟩
        · rw [if_pos (by simp [hseen, husable])] at h
          refine .inr ⟨port, hport, hseen, ?_⟩
          split_ifs at h ⊢
          · exact (Except.ok.inj h).symm
          · exact h
      · rw [if_neg (by simp [husable]), if_neg (by omega)] at h
        exact .inl ⟨.inl (by simp [usablePort, hp, husable]), h⟩

theorem normalizePorts_eq {seen : Finset Int} {requested result : List Int}
    {raw : List Entry} (hseen : seen = requested.toFinset)
    (hnodup : requested.Nodup) (hlength : requested.length < 10)
    (h : normalizePorts toInt seen requested raw = .ok result) :
    result =
      ((requested ++ raw.filterMap (usablePort toInt)).eraseDups).take 10 := by
  induction raw generalizing seen requested with
  | nil =>
      obtain rfl := Except.ok.inj h
      rw [List.filterMap_nil, List.append_nil, eraseDups_of_nodup hnodup,
        List.take_of_length_le hlength.le]
  | cons p rest ih =>
      rcases normalizePorts_cons hlength h with
        ⟨hnone | ⟨port, hport, hsome⟩, hrest⟩ | ⟨port, hsome, hport, hrest⟩
      · rw [List.filterMap_cons_none hnone]
        exact ih hseen hnodup hlength hrest
      · rw [hseen, List.mem_toFinset] at hport
        rw [List.filterMap_cons_some hsome, eraseDups_append_of_mem hport]
        exact ih hseen hnodup hlength hrest
      · rw [hseen, List.mem_toFinset] at hport
        have hnodup' : (requested ++ [port]).Nodup :=
          hnodup.append (List.nodup_singleton port) (by simpa using hport)
        rw [List.filterMap_cons_some hsome, List.append_cons]
        split_ifs at hrest with hfull
        · -- The tenth port is the last one that counts.
          rw [hrest, List.eraseDups_append, eraseDups_of_nodup hnodup',
            List.take_append_of_le_length (by simp; omega),
            List.take_of_length_le (by simp; omega)]
        · have hinsert : insert port seen =
              (requested ++ [port]).toFinset := by
            ext other
            simp [hseen]
          exact ih hinsert hnodup' (by simp; omega) hrest

theorem normalized_toInt (raw : List Json) :
    (normalized Json.toInt raw).take 10 = (requestedPorts raw).map Int.ofNat := by
  have hports : raw.filterMap (usablePort Json.toInt) =
      (raw.filterMap normalizePort).map Int.ofNat := by
    rw [List.map_filterMap]
    refine List.filterMap_congr fun entry _ => ?_
    cases hint : entry.toInt with
    | error e => simp [usablePort, normalizePort, hint]
    | ok n =>
        by_cases husable : 1 ≤ n ∧ n ≤ 65535 ∧ n ≠ 22
        · have hcast : (n.toNat : Int) = n := by omega
          simp [usablePort, normalizePort, hint, isUsable, husable, hcast]
        · simp [usablePort, normalizePort, hint, isUsable, husable]
  rw [normalized, hports, requestedPorts, eraseDups_eq_dedup, ← List.map_reverse,
    List.dedup_map_of_injective Int.ofNat_injective, ← List.map_reverse,
    List.map_take]

end Requests

/-! ## Picking a port -/

section Host

variable {host : Answers} {limit : Nat}

/-- Docker did not publish the port, and then it could be bound. -/
def FreeBetween (host : Answers) (k k' : Nat) (port : Int) : Prop :=
  ∃ i j dockerUsed, k ≤ i ∧ i < j ∧ j < k' ∧
    host.dockerBound i = .ok dockerUsed ∧ port ∉ dockerUsed ∧
    host.bind j port = .ok ()

theorem FreeBetween.mono {k k' first last : Nat} {port : Int}
    (h : FreeBetween host k k' port) (hfirst : first ≤ k) (hlast : k' ≤ last) :
    FreeBetween host first last port := by
  obtain ⟨i, j, dockerUsed, hki, hij, hjk, hdocker⟩ := h
  exact ⟨i, j, dockerUsed, by omega, hij, by omega, hdocker⟩

theorem tryBind_true {port : Int} {k k' : Nat}
    (h : tryBind host port k = (.ok true, k')) :
    host.bind k port = .ok () ∧ k' = k + 1 := by
  rw [tryBind] at h
  cases hbind : host.bind k port with
  | ok _ =>
      rw [hbind] at h
      exact ⟨rfl, (Prod.mk.inj h).2.symm⟩
  | error e => cases hos : e.isOSError <;> simp [hbind, hos] at h

theorem tryBind_next (port : Int) (k : Nat) :
    (tryBind host port k).2 = k + 1 := by
  cases hbind : host.bind k port <;> simp [tryBind, hbind]

theorem isPortFree_true {port : Int} {k k' : Nat}
    (h : isPortFree host port k = (.ok true, k')) :
    FreeBetween host k k' port := by
  rw [isPortFree] at h
  cases hdocker : host.dockerBound k with
  | error e => simp [hdocker] at h
  | ok dockerUsed =>
      by_cases hport : port ∈ dockerUsed
      · simp [hdocker, hport] at h
      · simp only [hdocker, hport, if_false] at h
        obtain ⟨hbind, rfl⟩ := tryBind_true h
        exact ⟨k, k + 1, dockerUsed, le_rfl, by omega, by omega, hdocker, hport,
          hbind⟩

theorem drawPort_ok {start stop port : Int} {dockerUsed tried : Finset Int}
    {k k' : Nat}
    (h : drawPort host start stop dockerUsed limit tried k = some (.ok port, k')) :
    (start ≤ port ∧ port < stop) ∧ port ∉ dockerUsed ∧
      ∃ j, k < j ∧ j < k' ∧ host.bind j port = .ok () := by
  induction limit generalizing tried k with
  | zero => simp [drawPort] at h
  | succ limit ih =>
      have hlater : ∀ {tried' : Finset Int} {next : Nat}, k < next →
          drawPort host start stop dockerUsed limit tried' next =
            some (.ok port, k') →
          (start ≤ port ∧ port < stop) ∧ port ∉ dockerUsed ∧
            ∃ j, k < j ∧ j < k' ∧ host.bind j port = .ok () := by
        intro tried' next hnext h
        obtain ⟨hrange, hdocker, j, hj, hjk, hbind⟩ := ih h
        exact ⟨hrange, hdocker, j, by omega, hjk, hbind⟩
      rw [drawPort] at h
      by_cases hroom : (tried.card : Int) < stop - start
      · have hpos : 0 < stop - start := by omega
        have hlow := Int.emod_nonneg (host.random k) hpos.ne'
        have hhigh := Int.emod_lt_of_pos (host.random k) hpos
        simp only [hroom, if_true] at h
        generalize hdrawn : (host.random k : Int) % (stop - start) + start = drawn at h
        by_cases htried : drawn ∈ tried
        · rw [if_pos htried] at h
          exact hlater (by omega) h
        · rw [if_neg htried] at h
          by_cases hdocker : drawn ∈ dockerUsed
          · rw [if_pos hdocker] at h
            exact hlater (by omega) h
          · rw [if_neg hdocker] at h
            obtain ⟨result, hresult⟩ : ∃ result,
                tryBind host drawn (k + 1) = (result, k + 1 + 1) :=
              ⟨_, Prod.ext rfl (tryBind_next drawn (k + 1))⟩
            rw [hresult] at h
            match result with
            | .error e => simp at h
            | .ok false => exact hlater (by omega) h
            | .ok true =>
                obtain ⟨rfl, rfl⟩ : drawn = port ∧ k + 1 + 1 = k' := by
                  simpa using h
                exact ⟨by omega, hdocker, k + 1, by omega, by omega,
                  (tryBind_true hresult).1⟩
      · simp [hroom] at h

theorem chooseFreePort_ok {start stop port : Int} {k k' : Nat}
    (h : chooseFreePort host limit start stop k = some (.ok port, k')) :
    (start ≤ port ∧ port < stop) ∧ FreeBetween host k k' port := by
  rw [chooseFreePort] at h
  cases hdocker : host.dockerBound k with
  | error e => simp [hdocker] at h
  | ok dockerUsed =>
      rw [hdocker] at h
      obtain ⟨hrange, hport, j, hkj, hjk, hbind⟩ := drawPort_ok h
      exact ⟨hrange, k, j, dockerUsed, le_rfl, by omega, hjk, hdocker, hport,
        hbind⟩

theorem FreeBetween.lt {k k' : Nat} {port : Int}
    (h : FreeBetween host k k' port) : k < k' := by
  obtain ⟨i, j, -, hki, hij, hjk, -⟩ := h
  omega

theorem chooseUnusedPort_ok {start stop port : Int} {used : List Int}
    {rounds k k' : Nat}
    (h : chooseUnusedPort host limit start stop used rounds k =
      some (.ok port, k')) :
    (start ≤ port ∧ port < stop) ∧ port ∉ used ∧ FreeBetween host k k' port := by
  induction rounds generalizing k with
  | zero => simp [chooseUnusedPort] at h
  | succ rounds ih =>
      rw [chooseUnusedPort] at h
      match hchosen : chooseFreePort host limit start stop k with
      | none => simp [hchosen] at h
      | some (.error e, next) => simp [hchosen] at h
      | some (.ok chosen, next) =>
          obtain ⟨hrange, hfree⟩ := chooseFreePort_ok hchosen
          simp only [hchosen] at h
          by_cases hused : chosen ∈ used
          · rw [if_pos hused] at h
            obtain ⟨hrange', hunused, hfree'⟩ := ih h
            exact ⟨hrange', hunused, hfree'.mono hfree.lt.le le_rfl⟩
          · rw [if_neg hused] at h
            obtain ⟨rfl, rfl⟩ : chosen = port ∧ next = k' := by simpa using h
            exact ⟨hrange, hused, hfree⟩

/-! ## One requested port after the other -/

variable {ranges : PortRanges}

def PortRanges.InUserRange (ranges : PortRanges) (port : Int) : Prop :=
  ranges.userPortRangeStart ≤ port ∧ port ≤ ranges.userPortRangeEnd

/-- What holds of the port that one requested port is assigned. -/
structure Picked (host : Answers) (ranges : PortRanges) (used : List Int)
    (containerPort hostPort : Int) (k k' : Nat) : Prop where
  inRange : ranges.InUserRange hostPort
  unused : hostPort ∉ used
  free : FreeBetween host k k' hostPort

theorem sameNumberFree_true {used : List Int} {containerPort : Int} {k k' : Nat}
    (h : sameNumberFree host ranges used containerPort k = (.ok true, k')) :
    Picked host ranges used containerPort containerPort k k' := by
  rw [sameNumberFree] at h
  split_ifs at h with hcond
  · exact ⟨⟨hcond.1, hcond.2.1⟩, hcond.2.2, isPortFree_true h⟩
  · simp at h

theorem tryBind_le (port : Int) (k : Nat) : k ≤ (tryBind host port k).2 := by
  rw [tryBind_next]
  omega

theorem isPortFree_le (port : Int) (k : Nat) :
    k ≤ (isPortFree host port k).2 := by
  have := @tryBind_le host port (k + 1)
  cases hdocker : host.dockerBound k with
  | error e => simp [isPortFree, hdocker]
  | ok dockerUsed =>
      by_cases hport : port ∈ dockerUsed
      · simp [isPortFree, hdocker, hport]
      · simp only [isPortFree, hdocker, hport, if_false]
        omega

theorem sameNumberFree_le (used : List Int) (containerPort : Int) (k : Nat) :
    k ≤ (sameNumberFree host ranges used containerPort k).2 := by
  unfold sameNumberFree
  split_ifs
  · exact isPortFree_le containerPort k
  · exact le_rfl

theorem assignPorts_cons {assigned result : List (Int × Int)}
    {containerPort : Int} {rest : List Int} {k k' : Nat}
    (h : assignPorts host limit ranges assigned (containerPort :: rest) k =
      some (.ok result, k')) :
    let used := assigned.map Prod.snd
    let sameNumber := (sameNumberFree host ranges used containerPort k).1
    (sameNumber ≠ .ok true ∧ ∀ rest',
      assignPorts host limit ranges assigned (containerPort :: rest') k =
        some (.ok assigned, k')) ∨
    ∃ hostPort next,
      Picked host ranges used containerPort hostPort k next ∧
      (sameNumber = .ok true → hostPort = containerPort) ∧ ∀ rest',
        assignPorts host limit ranges assigned (containerPort :: rest') k =
          assignPorts host limit ranges (assigned ++ [(containerPort, hostPort)])
            rest' next := by
  intro used sameNumber
  simp only [assignPorts] at h ⊢
  match hsame : sameNumberFree host ranges used containerPort k with
  | (.error e, next) => simp [used, hsame] at h
  | (.ok true, next) =>
      exact .inr ⟨containerPort, next, sameNumberFree_true hsame,
        fun _ => rfl, fun _ => rfl⟩
  | (.ok false, turn) =>
      have hne : sameNumber ≠ .ok true := by simp [sameNumber, hsame]
      have hturn : k ≤ turn := by
        have hle := @sameNumberFree_le host ranges used containerPort k
        rwa [hsame] at hle
      simp only [used, hsame] at h ⊢
      match hchosen : chooseUnusedPort host limit ranges.userPortRangeStart
          ranges.userPortRangeEnd used limit turn with
      | none => simp [used, hchosen] at h
      | some (.error e, next) =>
          refine .inl ⟨hne, fun rest' => ?_⟩
          cases hssh : isSSHError e <;> simp [used, hchosen, hssh] at h ⊢
          exact h.2
      | some (.ok hostPort, next) =>
          obtain ⟨hrange, hunused, hfree⟩ := chooseUnusedPort_ok hchosen
          exact .inr ⟨hostPort, next,
            ⟨⟨hrange.1, by omega⟩, hunused, hfree.mono hturn le_rfl⟩,
            fun hsame => absurd hsame hne, fun _ => rfl⟩

theorem assignPorts_extends {requested : List Int}
    {assigned result : List (Int × Int)} {k k' : Nat}
    (h : assignPorts host limit ranges assigned requested k =
      some (.ok result, k')) :
    assigned <+: result ∧
      result.map Prod.fst <+: assigned.map Prod.fst ++ requested := by
  induction requested generalizing assigned k with
  | nil =>
      obtain ⟨rfl, -⟩ : assigned = result ∧ k = k' := by simpa [assignPorts] using h
      simp
  | cons containerPort rest ih =>
      rcases assignPorts_cons h with ⟨-, hbreak⟩ | ⟨hostPort, next, -, -, hnext⟩
      · obtain ⟨rfl, -⟩ := by simpa [h] using hbreak rest
        exact ⟨List.prefix_refl _, List.prefix_append _ _⟩
      · obtain ⟨hfirst, hkeys⟩ := ih ((hnext rest).symm.trans h)
        refine ⟨(List.prefix_append _ _).trans hfirst, ?_⟩
        simpa using hkeys

theorem assignPorts_after {before : List Int}
    {assigned middle : List (Int × Int)} {k turn : Nat}
    (h : assignPorts host limit ranges assigned before k =
      some (.ok middle, turn))
    (hkeys : middle.map Prod.fst = assigned.map Prod.fst ++ before)
    (after : List Int) :
    assignPorts host limit ranges assigned (before ++ after) k =
      assignPorts host limit ranges middle after turn := by
  induction before generalizing assigned k with
  | nil =>
      obtain ⟨rfl, rfl⟩ : assigned = middle ∧ k = turn := by
        simpa [assignPorts] using h
      rfl
  | cons containerPort rest ih =>
      rcases assignPorts_cons h with ⟨-, hbreak⟩ | ⟨hostPort, next, -, -, hnext⟩
      · obtain rfl : assigned = middle := by
          simpa using (hbreak rest).symm.trans h
        simp at hkeys
      · exact (hnext _).trans
          (ih ((hnext rest).symm.trans h) (by simpa using hkeys))

theorem assignPorts_reaches {before after : List Int}
    {assigned result : List (Int × Int)} {k k' : Nat}
    (h : assignPorts host limit ranges assigned (before ++ after) k =
      some (.ok result, k')) :
    ∃ middle turn,
      assignPorts host limit ranges assigned before k = some (.ok middle, turn) ∧
      (middle.map Prod.fst = assigned.map Prod.fst ++ before ∨
        result = middle) := by
  induction before generalizing assigned k with
  | nil => exact ⟨assigned, k, rfl, .inl (by simp)⟩
  | cons containerPort rest ih =>
      rcases assignPorts_cons h with ⟨-, hbreak⟩ | ⟨hostPort, next, -, -, hnext⟩
      · obtain rfl : assigned = result := by
          simpa using (hbreak _).symm.trans h
        exact ⟨assigned, k', hbreak rest, .inr rfl⟩
      · obtain ⟨middle, turn, hmiddle, hcases⟩ := ih ((hnext _).symm.trans h)
        refine ⟨middle, turn, (hnext rest).trans hmiddle, ?_⟩
        simpa using hcases

/-- The loop that begins at `first` has assigned `before`, and is at `k`. -/
def Turn (host : Answers) (limit : Nat) (ranges : PortRanges) (first : Nat)
    (before : List (Int × Int)) (k : Nat) : Prop :=
  assignPorts host limit ranges [] (before.map Prod.fst) first =
    some (.ok before, k)

theorem Turn.goes_on {first k : Nat} {before : List (Int × Int)}
    (h : Turn host limit ranges first before k) (after : List Int) :
    assignPorts host limit ranges [] (before.map Prod.fst ++ after) first =
      assignPorts host limit ranges before after k :=
  assignPorts_after h (by simp) after

theorem assignPorts_picked {requested : List Int}
    {before after : List (Int × Int)} {entry : Int × Int} {first last : Nat}
    (h : assignPorts host limit ranges [] requested first =
      some (.ok (before ++ entry :: after), last)) :
    ∃ k k', Turn host limit ranges first before k ∧
      Turn host limit ranges first (before ++ [entry]) k' ∧
      Picked host ranges (before.map Prod.snd) entry.1 entry.2 k k' := by
  obtain ⟨rest, hrest⟩ := (assignPorts_extends h).2
  obtain rfl : before.map Prod.fst ++ entry.1 :: (after.map Prod.fst ++ rest) =
      requested := by simpa using hrest
  obtain ⟨middle, turn, hmiddle, hkeys⟩ := assignPorts_reaches h
  have hlength := (assignPorts_extends hmiddle).2.length_le
  have hkeys : middle.map Prod.fst = before.map Prod.fst := by
    refine hkeys.resolve_right fun hresult => ?_
    simp only [← hresult, List.length_map, List.length_append,
      List.length_cons, List.length_nil] at hlength
    omega
  have hafter := (assignPorts_after hmiddle (by simpa using hkeys) _).symm.trans h
  obtain rfl : middle = before := by
    refine List.IsPrefix.eq_of_length ?_ (by simpa using congrArg List.length hkeys)
    exact List.prefix_of_prefix_length_le (assignPorts_extends hafter).1
      (List.prefix_append _ _) (by simpa using hlength)
  rcases assignPorts_cons hafter with ⟨-, hbreak⟩ |
    ⟨hostPort, next, hpicked, -, hnext⟩
  · have hresult := (hbreak _).symm.trans hafter
    simp at hresult
  · obtain ⟨tail, htail⟩ := (assignPorts_extends ((hnext _).symm.trans hafter)).1
    have hentry : (entry.1, hostPort) = entry := by
      have hcons : (entry.1, hostPort) :: tail = entry :: after := by
        simpa using htail
      exact (List.cons.inj hcons).1
    rw [hentry] at hnext
    obtain rfl : hostPort = entry.2 := congrArg Prod.snd hentry
    refine ⟨turn, next, hmiddle, ?_, hpicked⟩
    have hturn : Turn host limit ranges first middle turn := hmiddle
    rw [Turn, List.map_append, List.map_singleton, hturn.goes_on, hnext]
    rfl

theorem assignPorts_sameNumber {before : List (Int × Int)} {containerPort : Int}
    {after : List Int} {result : List (Int × Int)} {first last k k' : Nat}
    (h : assignPorts host limit ranges []
        (before.map Prod.fst ++ containerPort :: after) first =
      some (.ok result, last))
    (hturn : Turn host limit ranges first before k)
    (hrange : ranges.InUserRange containerPort)
    (hunused : containerPort ∉ before.map Prod.snd)
    (hfree : isPortFree host containerPort k = (.ok true, k')) :
    (containerPort, containerPort) ∈ result := by
  have hsame : sameNumberFree host ranges (before.map Prod.snd) containerPort k =
      (.ok true, k') := by
    rw [sameNumberFree, if_pos ⟨hrange.1, hrange.2, hunused⟩, hfree]
  rw [hturn.goes_on] at h
  rcases assignPorts_cons h with ⟨hother, -⟩ | ⟨hostPort, next, -, hnumber, hnext⟩
  · exact absurd (congrArg Prod.fst hsame) hother
  · obtain rfl := hnumber (congrArg Prod.fst hsame)
    exact (assignPorts_extends ((hnext after).symm.trans h)).1.subset (by simp)

theorem assignPorts_distinct {requested : List Int}
    {assigned result : List (Int × Int)} {k k' : Nat}
    (h : assignPorts host limit ranges assigned requested k =
      some (.ok result, k'))
    (hassigned : (assigned.map Prod.snd).Nodup) :
    (result.map Prod.snd).Nodup := by
  induction requested generalizing assigned k with
  | nil =>
      obtain ⟨rfl, -⟩ : assigned = result ∧ k = k' := by
        simpa [assignPorts] using h
      exact hassigned
  | cons containerPort rest ih =>
      rcases assignPorts_cons h with ⟨-, hbreak⟩ |
        ⟨hostPort, next, hpicked, -, hnext⟩
      · obtain rfl : assigned = result := by
          simpa using (hbreak rest).symm.trans h
        exact hassigned
      · refine ih ((hnext rest).symm.trans h) ?_
        rw [List.map_append]
        exact hassigned.append (List.nodup_singleton _)
          (by simpa using hpicked.unused)

/-- What a pod's start makes of its request, from the number `first` on. -/
structure Served (host : Answers) (limit : Nat) (ranges : PortRanges)
    (first : Nat) (requested : List Int) (sshPort : Int)
    (allocations : List (Int × Int)) : Prop where
  kept : allocations.map Prod.fst <+: requested
  distinct : (allocations.map Prod.snd).Nodup
  inRange : ∀ entry ∈ allocations,
    ranges.InUserRange entry.2 ∧ entry.2 ≠ sshPort
  free : ∀ before entry after, allocations = before ++ entry :: after →
    ∃ k k', Turn host limit ranges first before k ∧
      Turn host limit ranges first (before ++ [entry]) k' ∧
      FreeBetween host k k' entry.2
  sameNumber : ∀ before containerPort after k k',
    requested = before.map Prod.fst ++ containerPort :: after →
    Turn host limit ranges first before k →
    ranges.InUserRange containerPort → containerPort ∉ before.map Prod.snd →
    isPortFree host containerPort k = (.ok true, k') →
    (containerPort, containerPort) ∈ allocations

theorem assignPorts_served {requested : List Int} {sshPort : Int}
    {allocations : List (Int × Int)} {first last : Nat}
    (h : assignPorts host limit ranges [] requested first =
      some (.ok allocations, last))
    (hssh : ∀ port, ranges.InUserRange port → port ≠ sshPort) :
    Served host limit ranges first requested sshPort allocations where
  kept := by simpa using (assignPorts_extends h).2
  distinct := assignPorts_distinct h (by simp)
  inRange := by
    intro entry hentry
    obtain ⟨before, after, rfl⟩ := List.append_of_mem hentry
    obtain ⟨_, _, -, -, hpicked⟩ := assignPorts_picked h
    exact ⟨hpicked.inRange, hssh _ hpicked.inRange⟩
  free := by
    rintro before entry after rfl
    obtain ⟨k, k', hturn, hturn', hpicked⟩ := assignPorts_picked h
    exact ⟨k, k', hturn, hturn', hpicked.free⟩
  sameNumber := by
    rintro before containerPort after k k' rfl hturn
    exact assignPorts_sameNumber h hturn

/-- The SSH range `[start, end)` and the user range `[start, end]`. -/
def PortRanges.Apart (ranges : PortRanges) : Prop :=
  ∀ port, ranges.sshPortRangeStart ≤ port → port < ranges.sshPortRangeEnd →
    ¬ranges.InUserRange port

variable {Entry : Type} {toInt : Entry → Except Exn Int}

theorem usable_of_mem_normalized {raw : List Entry} {port : Int}
    (h : port ∈ normalized toInt raw) :
    (∃ entry ∈ raw, toInt entry = .ok port) ∧
      1 ≤ port ∧ port ≤ 65535 ∧ port ≠ 22 := by
  rw [normalized, List.mem_eraseDups, List.mem_filterMap] at h
  obtain ⟨entry, hentry, husable⟩ := h
  rw [usablePort] at husable
  cases hint : toInt entry with
  | error e => simp [hint] at husable
  | ok number =>
      simp only [hint, Option.ite_none_right_eq_some, Option.some.injEq]
        at husable
      obtain ⟨husable, rfl⟩ := husable
      exact ⟨⟨entry, hentry, hint⟩, by simpa [isUsable] using husable⟩

/--
A pod's start that ends with ports has assigned the first of the at most ten
ports that the request comes down to, each to a port of the user range of its
own that was free when it was picked, and to its own number if that one was.
-/
theorem podPorts_served (host : Answers) (limit : Nat) (ranges : PortRanges)
    (hapart : ranges.Apart) (raw : List Entry) (sshPort : Int)
    (allocations : List (Int × Int))
    (h : podPorts toInt host limit ranges raw =
      some (.ok (sshPort, allocations))) :
    (allocations.length ≤ 10 ∧ (allocations.map Prod.fst).Nodup ∧
      ∀ entry ∈ allocations, (∃ item ∈ raw, toInt item = .ok entry.1) ∧
        1 ≤ entry.1 ∧ entry.1 ≤ 65535 ∧ entry.1 ≠ 22) ∧
    ∃ first,
      chooseFreePort host limit ranges.sshPortRangeStart ranges.sshPortRangeEnd
        0 = some (.ok sshPort, first) ∧
      Served host limit ranges first ((normalized toInt raw).take 10) sshPort
        allocations := by
  rw [podPorts] at h
  match hssh : chooseFreePort host limit ranges.sshPortRangeStart
      ranges.sshPortRangeEnd 0 with
  | none => simp [hssh] at h
  | some (.error e, first) => simp [hssh] at h
  | some (.ok port, first) =>
      simp only [hssh] at h
      cases hrequested : normalizePorts toInt ∅ [] raw with
      | error e => simp [hrequested] at h
      | ok requested =>
          obtain rfl : requested = (normalized toInt raw).take 10 :=
            normalizePorts_eq rfl List.nodup_nil (by simp) hrequested
          simp only [hrequested, Option.map_eq_some_iff] at h
          obtain ⟨⟨result, last⟩, hassign, hresult⟩ := h
          cases result with
          | error e => simp [Except.map] at hresult
          | ok assigned =>
              obtain ⟨rfl, rfl⟩ : port = sshPort ∧ assigned = allocations := by
                simpa [Except.map] using hresult
              have hrange := (chooseFreePort_ok hssh).1
              have hserved := @assignPorts_served _ _ _ _ port _ _ _ hassign
                fun other hother heq =>
                  hapart port hrange.1 hrange.2 (heq ▸ hother)
              refine ⟨⟨?_, ?_, fun entry hentry => ?_⟩, first, rfl, hserved⟩
              · have := hserved.kept.length_le
                simp only [List.length_map, List.length_take] at this
                omega
              · exact (hserved.kept.sublist.trans (List.take_sublist _ _)).nodup
                  (by simp [normalized, eraseDups_eq_dedup, List.nodup_dedup])
              · exact usable_of_mem_normalized (List.mem_of_mem_take
                  (hserved.kept.subset (List.mem_map_of_mem hentry)))

end Host

/-- Docker publishes port 40006, and another program has bound 40007. -/
def busyHost : Answers where
  dockerBound _ := .ok {40006}
  bind _ port := if port = 40007 then .error (.osError "in use") else .ok ()
  random := id

def podRanges : PortRanges := ⟨30000, 31000, 40000, 40010⟩

def someRequest : List Json := [.str "40010", .int 22, .int 8080, .null]

theorem podPorts_served_busyHost :
    ∃ first, Served busyHost 20 podRanges first
      ((normalized Json.toInt someRequest).take 10) 30001
      [(40010, 40010), (8080, 40009)] :=
  let ⟨_, first, _, h⟩ := podPorts_served busyHost 20 podRanges
    (by intro port; simp [podRanges, PortRanges.InUserRange]; omega)
    someRequest 30001 [(40010, 40010), (8080, 40009)] (by decide +kernel)
  ⟨first, h⟩

end NodeAgent.PortAssignment
