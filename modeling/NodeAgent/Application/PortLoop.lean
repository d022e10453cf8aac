import NodeAgent.Application.Start
import Mathlib.Order.Interval.Finset.Nat

/-!
# The loops that assign host ports

`choose_free_port` draws ports until one is free, the start of a pod draws again
until the port is none of its own, and it does so for one requested port after
the other.  The random numbers are a given sequence; a loop that has not ended
after `fuel` rounds has no result.
-/

namespace NodeAgent.PortLoop

/-- The ports of the host that are taken all through one start. -/
structure HostPorts where
  dockerBound : Finset Nat
  socketBound : Finset Nat

/-- `is_port_free(port)` -/
def HostPorts.isPortFree (host : HostPorts) (port : Nat) : Bool :=
  if port ∈ host.dockerBound then false else port ∉ host.socketBound

/-- The `k`-th random number as `secrets.randbelow(end - start) + start`. -/
def drawn (draws : Nat → Nat) (start stop k : Nat) : Nat :=
  draws k % (stop - start) + start

section Loops

variable (host : HostPorts) (draws : Nat → Nat) (start stop : Nat)

/-- `choose_free_port` from the `k`-th draw on, with the next draw beside. -/
def chooseFreePort : Nat → Finset Nat → Nat → Option (Except Exn Nat × Nat)
  | 0, _, _ => none
  | fuel + 1, tried, k =>
      if tried.card < stop - start then
        let port := drawn draws start stop k
        if port ∈ tried then chooseFreePort fuel tried (k + 1)
        else if port ∈ host.dockerBound then
          chooseFreePort fuel (insert port tried) (k + 1)
        else if port ∈ host.socketBound then
          chooseFreePort fuel (insert port tried) (k + 1)
        else some (.ok port, k + 1)
      else some (.error (.sshError "no free SSH port found in range"), k)

/-- Choose a port, and again `while host_port in used_host_ports`. -/
def chooseUnusedPort (limit : Nat) (used : List Nat) :
    Nat → Nat → Option (Except Exn Nat × Nat)
  | 0, _ => none
  | fuel + 1, k =>
      match chooseFreePort host draws start stop limit ∅ k with
      | none => none
      | some (.error e, k) => some (.error e, k)
      | some (.ok port, k) =>
          if port ∈ used then chooseUnusedPort limit used fuel k
          else some (.ok port, k)

/-- The loop over the requested ports; `limit` bounds both loops inside. -/
def assignPorts (limit : Nat) (assigned : List (Nat × Nat)) :
    List Nat → Nat → Option (List (Nat × Nat))
  | [], _ => some assigned
  | containerPort :: rest, k =>
      let used := assigned.map Prod.snd
      if start ≤ containerPort ∧ containerPort ≤ stop ∧ containerPort ∉ used ∧
          host.isPortFree containerPort then
        assignPorts limit (assigned ++ [(containerPort, containerPort)]) rest k
      else
        match chooseUnusedPort host draws start stop limit used limit k with
        | none => none
        | some (.error _, _) => some assigned
        | some (.ok hostPort, k) =>
            assignPorts limit (assigned ++ [(containerPort, hostPort)]) rest k

end Loops

/-! ## Ports of the range -/

/-- The free ports of `[start, stop)`. -/
def HostPorts.freeIn (host : HostPorts) (start stop : Nat) : Finset Nat :=
  (Finset.Ico start stop).filter fun port => host.isPortFree port

/-- Every port of the range is drawn again and again. -/
def Fair (draws : Nat → Nat) (start stop : Nat) : Prop :=
  ∀ port, start ≤ port → port < stop →
    ∀ k, ∃ j, k ≤ j ∧ drawn draws start stop j = port

variable {host : HostPorts} {draws : Nat → Nat} {start stop : Nat}

theorem mem_freeIn {port : Nat} :
    port ∈ host.freeIn start stop ↔
      (start ≤ port ∧ port < stop) ∧ host.isPortFree port := by
  simp [HostPorts.freeIn]

theorem drawn_mem (draws : Nat → Nat) (h : start < stop) (k : Nat) :
    start ≤ drawn draws start stop k ∧ drawn draws start stop k < stop := by
  have := Nat.mod_lt (draws k) (Nat.sub_pos_of_lt h)
  unfold drawn
  omega

theorem chooseFreePort_succ (fuel : Nat) (tried : Finset Nat) (k : Nat) :
    chooseFreePort host draws start stop (fuel + 1) tried k =
      if tried.card < stop - start then
        if drawn draws start stop k ∈ tried then
          chooseFreePort host draws start stop fuel tried (k + 1)
        else if host.isPortFree (drawn draws start stop k) then
          some (.ok (drawn draws start stop k), k + 1)
        else chooseFreePort host draws start stop fuel
          (insert (drawn draws start stop k) tried) (k + 1)
      else some (.error (.sshError "no free SSH port found in range"), k) := by
  rw [chooseFreePort]
  by_cases hdocker : drawn draws start stop k ∈ host.dockerBound
  · simp [HostPorts.isPortFree, hdocker]
  · by_cases hsocket : drawn draws start stop k ∈ host.socketBound <;>
      simp [HostPorts.isPortFree, hdocker, hsocket]

structure Tried (host : HostPorts) (start stop : Nat) (tried : Finset Nat) :
    Prop where
  inRange : tried ⊆ Finset.Ico start stop
  taken : ∀ port ∈ tried, ¬host.isPortFree port

theorem Tried.empty (host : HostPorts) (start stop : Nat) :
    Tried host start stop ∅ := ⟨by simp, by simp⟩

theorem Tried.insert {tried : Finset Nat} (h : Tried host start stop tried)
    {port : Nat} (hport : start ≤ port ∧ port < stop)
    (htaken : ¬host.isPortFree port) :
    Tried host start stop (Insert.insert port tried) where
  inRange := Finset.insert_subset (Finset.mem_Ico.mpr hport) h.inRange
  taken := by
    intro port' hmem
    rcases Finset.mem_insert.mp hmem with rfl | hmem
    · exact htaken
    · exact h.taken port' hmem

theorem Tried.card_lt {tried : Finset Nat} (h : Tried host start stop tried)
    {port : Nat} (hport : start ≤ port ∧ port < stop) (hmem : port ∉ tried) :
    tried.card < stop - start := by
  have hproper : tried ⊂ Finset.Ico start stop :=
    (Finset.ssubset_iff_of_subset h.inRange).mpr
      ⟨port, Finset.mem_Ico.mpr hport, hmem⟩
  simpa using Finset.card_lt_card hproper

theorem chooseFreePort_sound {fuel : Nat} {tried : Finset Nat} {k : Nat}
    {result : Except Exn Nat × Nat} (h : Tried host start stop tried)
    (hresult : chooseFreePort host draws start stop fuel tried k = some result) :
    match result.1 with
    | .ok port => port ∈ host.freeIn start stop
    | .error _ => host.freeIn start stop = ∅ := by
  induction fuel generalizing tried k with
  | zero => simp [chooseFreePort] at hresult
  | succ fuel ih =>
      rw [chooseFreePort_succ] at hresult
      by_cases hroom : tried.card < stop - start
      · have hport := drawn_mem draws (show start < stop by omega) k
        by_cases htried : drawn draws start stop k ∈ tried
        · simp only [hroom, htried, if_true] at hresult
          exact ih h hresult
        · by_cases hfree : host.isPortFree (drawn draws start stop k)
          · simp only [hroom, htried, hfree, if_true, if_false,
              Option.some.injEq] at hresult
            subst hresult
            exact mem_freeIn.mpr ⟨hport, hfree⟩
          · simp only [hroom, htried, hfree, if_true, if_false] at hresult
            exact ih (h.insert hport hfree) hresult
      · simp only [hroom, if_false, Option.some.injEq] at hresult
        subst hresult
        refine Finset.eq_empty_of_forall_notMem fun port hmem => ?_
        obtain ⟨hport, hfree⟩ := mem_freeIn.mp hmem
        by_cases htried : port ∈ tried
        · exact h.taken port htried hfree
        · exact hroom (h.card_lt hport htried)

theorem chooseFreePort_first {tried : Finset Nat} {k j fuel : Nat}
    (h : Tried host start stop tried) (hkj : k ≤ j)
    (hfree : drawn draws start stop j ∈ host.freeIn start stop)
    (hfirst : ∀ i, k ≤ i → i < j →
      drawn draws start stop i ∉ host.freeIn start stop)
    (hfuel : j - k < fuel) :
    chooseFreePort host draws start stop fuel tried k =
      some (.ok (drawn draws start stop j), j + 1) := by
  have hmem := mem_freeIn.mp hfree
  have hj : drawn draws start stop j ∉ tried :=
    fun htried => h.taken _ htried hmem.2
  induction fuel generalizing tried k with
  | zero => omega
  | succ fuel ih =>
      rw [chooseFreePort_succ, if_pos (h.card_lt hmem.1 hj)]
      rcases Nat.eq_or_lt_of_le hkj with rfl | hlt
      · simp [hj, hmem.2]
      · have hport := drawn_mem draws (show start < stop by omega) k
        have htaken : ¬host.isPortFree (drawn draws start stop k) :=
          fun hk => hfirst k le_rfl hlt (mem_freeIn.mpr ⟨hport, hk⟩)
        have hne : drawn draws start stop j ≠ drawn draws start stop k :=
          fun heq => htaken (heq ▸ hmem.2)
        have hlater : ∀ i, k + 1 ≤ i → i < j →
            drawn draws start stop i ∉ host.freeIn start stop :=
          fun i hi hij => hfirst i (by omega) hij
        by_cases htried : drawn draws start stop k ∈ tried
        · rw [if_pos htried]
          exact ih h hlt hlater (by omega) hj
        · rw [if_neg htried, if_neg htaken]
          exact ih (h.insert hport htaken) hlt hlater (by omega)
            (by simp [hne, hj])

theorem chooseFreePort_skip {tried : Finset Nat} {k j : Nat}
    (hroom : tried.card < stop - start) (hkj : k ≤ j)
    (htried : ∀ i, k ≤ i → i < j → drawn draws start stop i ∈ tried)
    (fuel : Nat) :
    chooseFreePort host draws start stop (fuel + (j - k)) tried k =
      chooseFreePort host draws start stop fuel tried j := by
  obtain ⟨n, rfl⟩ := Nat.exists_eq_add_of_le hkj
  rw [Nat.add_sub_cancel_left]
  induction n generalizing k with
  | zero => rfl
  | succ n ih =>
      have hk := htried k le_rfl (by omega)
      rw [← Nat.add_assoc, chooseFreePort_succ, if_pos hroom, if_pos hk,
        ih (by omega) fun i hi hij => htried i (by omega) (by omega)]
      congr 1
      omega

theorem chooseFreePort_raises (hfair : Fair draws start stop)
    (hnone : host.freeIn start stop = ∅) {tried : Finset Nat} (k : Nat)
    (h : Tried host start stop tried) :
    ∃ fuel, ∀ limit, fuel ≤ limit → ∃ e k',
      chooseFreePort host draws start stop limit tried k =
        some (.error e, k') := by
  induction hm : stop - start - tried.card generalizing tried k with
  | zero =>
      refine ⟨1, fun limit hlimit => ?_⟩
      obtain ⟨fuel, rfl⟩ := Nat.exists_eq_add_of_le' hlimit
      rw [chooseFreePort_succ, if_neg (by omega)]
      exact ⟨_, _, rfl⟩
  | succ m ih =>
      -- Some port of the range is untried, and comes up sooner or later.
      obtain ⟨port, hport, huntried⟩ : ∃ port ∈ Finset.Ico start stop,
          port ∉ tried := by
        by_contra hall
        push Not at hall
        have := Finset.card_le_card (show Finset.Ico start stop ⊆ tried from hall)
        simp at this
        omega
      have hport := Finset.mem_Ico.mp hport
      have hdrawn : ∃ j, k ≤ j ∧ drawn draws start stop j ∉ tried := by
        obtain ⟨j, hkj, hj⟩ := hfair port hport.1 hport.2 k
        exact ⟨j, hkj, hj ▸ huntried⟩
      obtain ⟨hkj, hj⟩ := Nat.find_spec hdrawn
      generalize hfirst : Nat.find hdrawn = j at hkj hj
      have hbefore : ∀ i, k ≤ i → i < j → drawn draws start stop i ∈ tried := by
        intro i hki hij
        by_contra hi
        exact Nat.find_min hdrawn (hfirst ▸ hij) ⟨hki, hi⟩
      have hrange := drawn_mem draws (show start < stop by omega) j
      have htaken : ¬host.isPortFree (drawn draws start stop j) := by
        intro hfree
        have hmem := mem_freeIn.mpr ⟨hrange, hfree⟩
        simp [hnone] at hmem
      obtain ⟨fuel, hfuel⟩ := ih (j + 1) (h.insert hrange htaken)
        (by rw [Finset.card_insert_of_notMem hj]; omega)
      refine ⟨fuel + 1 + (j - k), fun limit hlimit => ?_⟩
      obtain ⟨extra, rfl⟩ := Nat.exists_eq_add_of_le hlimit
      rw [show fuel + 1 + (j - k) + extra = fuel + extra + 1 + (j - k) by omega,
        chooseFreePort_skip (by omega) hkj hbefore, chooseFreePort_succ,
        if_pos (by omega), if_neg hj, if_neg htaken]
      exact hfuel _ (by omega)

/-! ## Drawing again while the port is one of the pod's own -/

theorem chooseUnusedPort_sound {limit fuel k : Nat} {used : List Nat}
    {result : Except Exn Nat × Nat}
    (hresult : chooseUnusedPort host draws start stop limit used fuel k =
      some result) :
    match result.1 with
    | .ok port => port ∈ host.freeIn start stop ∧ port ∉ used
    | .error _ => host.freeIn start stop = ∅ := by
  induction fuel generalizing k with
  | zero => simp [chooseUnusedPort] at hresult
  | succ fuel ih =>
      rw [chooseUnusedPort] at hresult
      cases hchosen : chooseFreePort host draws start stop limit ∅ k with
      | none => simp [hchosen] at hresult
      | some chosen =>
          have hsound := chooseFreePort_sound (Tried.empty host start stop) hchosen
          obtain ⟨e | port, k'⟩ := chosen
          · simp only [hchosen, Option.some.injEq] at hresult
            subst hresult
            exact hsound
          · by_cases hused : port ∈ used
            · simp only [hchosen, hused, if_true] at hresult
              exact ih hresult
            · simp only [hchosen, hused, if_false, Option.some.injEq] at hresult
              subst hresult
              exact ⟨hsound, hused⟩

theorem chooseUnusedPort_first {limit fuel k j : Nat} {used : List Nat}
    (hkj : k ≤ j) (hfree : drawn draws start stop j ∈ host.freeIn start stop)
    (hunused : drawn draws start stop j ∉ used)
    (hfirst : ∀ i, k ≤ i → i < j →
      drawn draws start stop i ∈ host.freeIn start stop →
      drawn draws start stop i ∈ used)
    (hlimit : j - k < limit) (hfuel : j - k < fuel) :
    chooseUnusedPort host draws start stop limit used fuel k =
      some (.ok (drawn draws start stop j), j + 1) := by
  induction fuel generalizing k with
  | zero => omega
  | succ fuel ih =>
      -- The chooser stops at its first free port, which is the one or is used.
      have hdrawn : ∃ i, k ≤ i ∧
          drawn draws start stop i ∈ host.freeIn start stop := ⟨j, hkj, hfree⟩
      obtain ⟨hki, hi⟩ := Nat.find_spec hdrawn
      have hij : Nat.find hdrawn ≤ j := Nat.find_min' hdrawn ⟨hkj, hfree⟩
      have hbefore : ∀ i', k ≤ i' → i' < Nat.find hdrawn →
          drawn draws start stop i' ∉ host.freeIn start stop :=
        fun i' hki' hlt hmem => Nat.find_min hdrawn hlt ⟨hki', hmem⟩
      generalize Nat.find hdrawn = i at hki hi hij hbefore
      rw [chooseUnusedPort, chooseFreePort_first (Tried.empty host start stop) hki hi
        hbefore (by omega)]
      rcases Nat.eq_or_lt_of_le hij with rfl | hlt
      · simp [hunused]
      · simp only [hfirst i hki hlt hi, if_true]
        exact ih hlt (fun i' hi' hlt' => hfirst i' (by omega) hlt') (by omega)
          (by omega)

/-! ## One requested port after the other -/

structure Assigned (host : HostPorts) (start stop : Nat)
    (assigned : List (Nat × Nat)) : Prop where
  distinct : (assigned.map Prod.snd).Nodup
  free : ∀ entry ∈ assigned, entry.2 ∈ host.freeIn start stop ∨
    (entry = (stop, stop) ∧ host.isPortFree stop)

/-- The free ports of the range that are not assigned yet. -/
def left (host : HostPorts) (start stop : Nat) (assigned : List (Nat × Nat)) :
    Finset Nat :=
  (host.freeIn start stop).filter fun port => port ∉ assigned.map Prod.snd

def AtEnd (host : HostPorts) (stop containerPort : Nat) : Prop :=
  containerPort = stop ∧ host.isPortFree stop

instance : DecidablePred (AtEnd host stop) := fun containerPort =>
  inferInstanceAs (Decidable (containerPort = stop ∧ _))

/-- How many of the requested ports take a port out of the range. -/
def needed (host : HostPorts) (stop : Nat) (requested : List Nat) : Nat :=
  requested.countP fun containerPort => ¬AtEnd host stop containerPort

/-- What the loop may leave for a list of requested ports. -/
structure Served (host : HostPorts) (start stop : Nat) (requested : List Nat)
    (assigned : List (Nat × Nat)) : Prop where
  kept : assigned.map Prod.fst <+: requested
  ports : Assigned host start stop assigned
  exhausted : assigned.map Prod.fst = requested ∨ left host start stop assigned = ∅

theorem Assigned.nil : Assigned host start stop [] := ⟨by simp, by simp⟩

theorem left_append (assigned : List (Nat × Nat)) (containerPort hostPort : Nat) :
    left host start stop (assigned ++ [(containerPort, hostPort)]) =
      (left host start stop assigned).erase hostPort := by
  ext port
  simp [left]
  tauto

theorem Assigned.append {assigned : List (Nat × Nat)}
    (h : Assigned host start stop assigned) (containerPort : Nat)
    {hostPort : Nat} (hunused : hostPort ∉ assigned.map Prod.snd)
    (hfree : hostPort ∈ host.freeIn start stop ∨
      ((containerPort, hostPort) = (stop, stop) ∧ host.isPortFree stop)) :
    Assigned host start stop (assigned ++ [(containerPort, hostPort)]) where
  distinct := by
    simp only [List.map_append, List.map_cons, List.map_nil]
    refine h.distinct.append (by simp) ?_
    simpa using hunused
  free := by
    intro entry hentry
    rcases List.mem_append.mp hentry with hold | hnew
    · exact h.free entry hold
    · obtain rfl := List.mem_singleton.mp hnew
      exact hfree

theorem Assigned.stop_mem {assigned : List (Nat × Nat)}
    (h : Assigned host start stop assigned)
    (hstop : stop ∈ assigned.map Prod.snd) : stop ∈ assigned.map Prod.fst := by
  obtain ⟨entry, hentry, hsnd⟩ := List.mem_map.mp hstop
  rcases h.free entry hentry with hrange | ⟨rfl, -⟩
  · have := (mem_freeIn.mp hrange).1.2
    omega
  · exact List.mem_map.mpr ⟨_, hentry, rfl⟩

theorem needed_cons (containerPort : Nat) (rest : List Nat) :
    needed host stop (containerPort :: rest) =
      needed host stop rest +
        if AtEnd host stop containerPort then 0 else 1 := by
  simp only [needed, List.countP_cons]
  by_cases h : AtEnd host stop containerPort <;> simp [h]

theorem sameNumber_cases {containerPort : Nat}
    (hle : start ≤ containerPort ∧ containerPort ≤ stop)
    (hfree : host.isPortFree containerPort) :
    (containerPort ∈ host.freeIn start stop ∧ ¬AtEnd host stop containerPort) ∨
      (containerPort = stop ∧ AtEnd host stop containerPort) := by
  by_cases hstop : containerPort = stop
  · exact .inr ⟨hstop, hstop, hstop ▸ hfree⟩
  · exact .inl ⟨mem_freeIn.mpr ⟨by omega, hfree⟩, fun h => hstop h.1⟩

theorem not_atEnd_of_drawn {assigned : List (Nat × Nat)} {containerPort : Nat}
    (h : Assigned host start stop assigned)
    (hnew : containerPort ∉ assigned.map Prod.fst)
    (hsome : host.freeIn start stop ≠ ∅)
    (hdrawn : ¬(start ≤ containerPort ∧ containerPort ≤ stop ∧
      containerPort ∉ assigned.map Prod.snd ∧ host.isPortFree containerPort)) :
    ¬AtEnd host stop containerPort := by
  rintro ⟨rfl, hfree⟩
  obtain ⟨port, hport⟩ := Finset.nonempty_iff_ne_empty.mpr hsome
  have hrange := (mem_freeIn.mp hport).1
  exact hdrawn ⟨by omega, le_rfl, fun hused => hnew (h.stop_mem hused), hfree⟩

theorem card_left_erase {assigned : List (Nat × Nat)} {port : Nat}
    (hport : port ∈ left host start stop assigned) :
    ((left host start stop assigned).erase port).card + 1 =
      (left host start stop assigned).card :=
  Finset.card_erase_add_one hport

theorem mem_left {assigned : List (Nat × Nat)} {port : Nat} :
    port ∈ left host start stop assigned ↔
      port ∈ host.freeIn start stop ∧ port ∉ assigned.map Prod.snd := by
  simp [left]

theorem needed_le_left {assigned : List (Nat × Nat)}
    {containerPort hostPort : Nat} {rest : List Nat}
    (hunused : hostPort ∉ assigned.map Prod.snd)
    (hport : hostPort ∈ host.freeIn start stop ∧
        ¬AtEnd host stop containerPort ∨
      hostPort = stop ∧ AtEnd host stop containerPort)
    (henough : needed host stop (containerPort :: rest) ≤
      (left host start stop assigned).card) :
    needed host stop rest ≤
      (left host start stop (assigned ++ [(containerPort, hostPort)])).card := by
  rw [left_append]
  rw [needed_cons] at henough
  rcases hport with ⟨hrange, hnot⟩ | ⟨rfl, hend⟩
  · have := card_left_erase (mem_left.mpr ⟨hrange, hunused⟩)
    rw [if_neg hnot] at henough
    omega
  · rw [if_pos hend] at henough
    have hout : hostPort ∉ left host start hostPort assigned := by
      intro hmem
      have := (mem_freeIn.mp (mem_left.mp hmem).1).1.2
      omega
    rw [Finset.erase_eq_of_notMem hout]
    omega

theorem exists_first_drawn (hfair : Fair draws start stop)
    {assigned : List (Nat × Nat)}
    (hleft : (left host start stop assigned).Nonempty) (k : Nat) :
    ∃ j, k ≤ j ∧ drawn draws start stop j ∈ left host start stop assigned ∧
      ∀ i, k ≤ i → i < j → drawn draws start stop i ∈ host.freeIn start stop →
        drawn draws start stop i ∈ assigned.map Prod.snd := by
  obtain ⟨port, hport⟩ := hleft
  have hdrawn : ∃ j, k ≤ j ∧
      drawn draws start stop j ∈ left host start stop assigned := by
    obtain ⟨hstart, hstop⟩ := (mem_freeIn.mp (mem_left.mp hport).1).1
    obtain ⟨j, hkj, hj⟩ := hfair port hstart hstop k
    exact ⟨j, hkj, hj ▸ hport⟩
  obtain ⟨hkj, hj⟩ := Nat.find_spec hdrawn
  refine ⟨Nat.find hdrawn, hkj, hj, fun i hki hlt hfree => ?_⟩
  by_contra hout
  exact Nat.find_min hdrawn hlt ⟨hki, mem_left.mpr ⟨hfree, hout⟩⟩

theorem assignPorts_ends (hfair : Fair draws start stop)
    (requested : List Nat) (assigned : List (Nat × Nat)) (k : Nat)
    (h : Assigned host start stop assigned)
    (hnodup : (assigned.map Prod.fst ++ requested).Nodup)
    (henough : host.freeIn start stop = ∅ ∨
      needed host stop requested ≤ (left host start stop assigned).card) :
    ∃ fuel, ∀ limit, fuel ≤ limit → ∃ result,
      assignPorts host draws start stop limit assigned requested k = some result ∧
        Served host start stop (assigned.map Prod.fst ++ requested) result := by
  induction requested generalizing assigned k with
  | nil => exact ⟨0, fun limit _ => ⟨assigned, rfl, ⟨by simp, h, by simp⟩⟩⟩
  | cons containerPort rest ih =>
      have hnew : containerPort ∉ assigned.map Prod.fst := fun hmem =>
        List.disjoint_of_nodup_append hnodup hmem (by simp)
      -- The rest of the loop, once this request has its port.
      have hrest : ∀ hostPort k', hostPort ∉ assigned.map Prod.snd →
          (hostPort ∈ host.freeIn start stop ∧ ¬AtEnd host stop containerPort ∨
            (containerPort, hostPort) = (stop, stop) ∧
              AtEnd host stop containerPort) →
          ∃ fuel, ∀ limit, fuel ≤ limit → ∃ result,
            assignPorts host draws start stop limit
              (assigned ++ [(containerPort, hostPort)]) rest k' = some result ∧
            Served host start stop
              (assigned.map Prod.fst ++ containerPort :: rest) result := by
        intro hostPort k' hunused hport
        have hassigned := h.append containerPort hunused
          (hport.imp (fun hrange => hrange.1) fun hend => ⟨hend.1, hend.2.2⟩)
        have hport' := hport.imp id fun hend =>
          (⟨(Prod.mk.inj hend.1).2, hend.2⟩ :
            hostPort = stop ∧ AtEnd host stop containerPort)
        have := ih (assigned ++ [(containerPort, hostPort)]) k' hassigned
          (by simpa using hnodup) (henough.imp id (needed_le_left hunused hport'))
        simpa using this
      by_cases hsame : start ≤ containerPort ∧ containerPort ≤ stop ∧
          containerPort ∉ assigned.map Prod.snd ∧ host.isPortFree containerPort
      · obtain ⟨fuel, hfuel⟩ := hrest containerPort k hsame.2.2.1
          ((sameNumber_cases ⟨hsame.1, hsame.2.1⟩ hsame.2.2.2).imp id
            fun hend => ⟨by rw [hend.1], hend.2⟩)
        refine ⟨fuel, fun limit hlimit => ?_⟩
        rw [assignPorts, if_pos hsame]
        exact hfuel limit hlimit
      · by_cases hnone : host.freeIn start stop = ∅
        · obtain ⟨fuel, hfuel⟩ := chooseFreePort_raises hfair hnone k
            (Tried.empty host start stop)
          refine ⟨fuel + 1, fun limit hlimit => ⟨assigned, ?_, ?_⟩⟩
          · obtain ⟨e, k', hraises⟩ := hfuel limit (by omega)
            obtain ⟨n, rfl⟩ := Nat.exists_eq_add_of_le' (show 1 ≤ limit by omega)
            simp only [assignPorts, if_neg hsame, chooseUnusedPort, hraises]
          · exact ⟨by simp, h, .inr (by simp [left, hnone])⟩
        · have hnot := not_atEnd_of_drawn h hnew hnone hsame
          have henough := henough.resolve_left hnone
          rw [needed_cons, if_neg hnot] at henough
          -- The first draw of a port that is left is the one assigned.
          obtain ⟨j, hkj, hj, hbefore⟩ := exists_first_drawn hfair
            (Finset.card_pos.mp (show 0 < (left host start stop assigned).card
              by omega)) k
          obtain ⟨hfree, hunused⟩ := mem_left.mp hj
          obtain ⟨fuel, hfuel⟩ := hrest _ (j + 1) hunused (.inl ⟨hfree, hnot⟩)
          refine ⟨max fuel (j - k + 1), fun limit hlimit => ?_⟩
          simp only [assignPorts, if_neg hsame,
            chooseUnusedPort_first hkj hfree hunused hbefore
              (show j - k < limit by omega) (show j - k < limit by omega)]
          exact hfuel limit (by omega)

theorem assignPorts_never (draws : Nat → Nat) (limit : Nat)
    (hsome : host.freeIn start stop ≠ ∅)
    (requested : List Nat) (assigned : List (Nat × Nat)) (k : Nat)
    (h : Assigned host start stop assigned)
    (hnodup : (assigned.map Prod.fst ++ requested).Nodup)
    (hshort : (left host start stop assigned).card <
      needed host stop requested) :
    assignPorts host draws start stop limit assigned requested k = none := by
  induction requested generalizing assigned k with
  | nil => simp [needed] at hshort
  | cons containerPort rest ih =>
      have hnew : containerPort ∉ assigned.map Prod.fst := fun hmem =>
        List.disjoint_of_nodup_append hnodup hmem (by simp)
      have hnodup' : ∀ hostPort, ((assigned ++ [(containerPort, hostPort)]).map
          Prod.fst ++ rest).Nodup := by
        intro hostPort
        simpa using hnodup
      rw [needed_cons] at hshort
      by_cases hsame : start ≤ containerPort ∧ containerPort ≤ stop ∧
          containerPort ∉ assigned.map Prod.snd ∧ host.isPortFree containerPort
      · have hcases := sameNumber_cases ⟨hsame.1, hsame.2.1⟩ hsame.2.2.2
        have hassigned := h.append containerPort hsame.2.2.1
          (hcases.imp (fun hrange => hrange.1)
            fun hend => ⟨by rw [hend.1], hend.2.2⟩)
        rw [assignPorts, if_pos hsame]
        refine ih _ k hassigned (hnodup' containerPort) ?_
        rw [left_append]
        rcases hcases with ⟨hrange, hnot⟩ | ⟨-, hend⟩
        · have := card_left_erase (mem_left.mpr ⟨hrange, hsame.2.2.1⟩)
          rw [if_neg hnot] at hshort
          omega
        · rw [if_pos hend] at hshort
          exact (Finset.card_erase_le).trans_lt hshort
      · have hnot := not_atEnd_of_drawn h hnew hsome hsame
        rw [if_neg hnot] at hshort
        simp only [assignPorts, if_neg hsame]
        cases hchosen : chooseUnusedPort host draws start stop limit
            (assigned.map Prod.snd) limit k with
        | none => rfl
        | some chosen =>
            have hsound := chooseUnusedPort_sound hchosen
            obtain ⟨e | hostPort, k'⟩ := chosen
            · exact absurd hsound hsome
            · obtain ⟨hfree, hunused⟩ := hsound
              have hcard := card_left_erase (mem_left.mpr ⟨hfree, hunused⟩)
              refine ih _ k' (h.append containerPort hunused (.inl hfree))
                (hnodup' hostPort) ?_
              rw [left_append]
              omega

theorem requestedPorts_nodup (raw : List Json) : (requestedPorts raw).Nodup :=
  (List.nodup_reverse.mpr (List.nodup_dedup _)).sublist (List.take_sublist _ _)

/-- The loop over a pod's requested ports ends with what it could assign. -/
def Ends (host : HostPorts) (s : Settings) (draws : Nat → Nat)
    (requested : List Nat) : Prop :=
  ∃ limit assigned,
    assignPorts host draws s.userPortRangeStart s.userPortRangeEnd limit []
        requested 0 = some assigned ∧
      Served host s.userPortRangeStart s.userPortRangeEnd requested assigned

/--
The loop ends exactly when the range has a free port for every request that
takes one, or has no free port at all.
-/
theorem ends_iff (host : HostPorts) (s : Settings) (draws : Nat → Nat)
    (raw : List Json)
    (hfair : Fair draws s.userPortRangeStart s.userPortRangeEnd) :
    Ends host s draws (requestedPorts raw) ↔
      host.freeIn s.userPortRangeStart s.userPortRangeEnd = ∅ ∨
      needed host s.userPortRangeEnd (requestedPorts raw) ≤
        (host.freeIn s.userPortRangeStart s.userPortRangeEnd).card := by
  have hleft : left host s.userPortRangeStart s.userPortRangeEnd [] =
      host.freeIn s.userPortRangeStart s.userPortRangeEnd := by simp [left]
  have hnodup : (([] : List (Nat × Nat)).map Prod.fst ++
      requestedPorts raw).Nodup := by
    simpa using requestedPorts_nodup raw
  constructor
  · rintro ⟨limit, assigned, hassigned, -⟩
    by_contra hcond
    push Not at hcond
    have hnever := assignPorts_never draws limit
      (Finset.nonempty_iff_ne_empty.mp (by simpa using hcond.1))
      (requestedPorts raw) [] 0 Assigned.nil hnodup (hleft ▸ hcond.2)
    simp [hassigned] at hnever
  · intro hcond
    obtain ⟨fuel, hfuel⟩ := assignPorts_ends hfair (requestedPorts raw) [] 0
      Assigned.nil hnodup (by rwa [hleft])
    obtain ⟨assigned, hassigned, hserved⟩ := hfuel fuel le_rfl
    exact ⟨fuel, assigned, hassigned, by simpa using hserved⟩

theorem fair_id (start stop : Nat) : Fair id start stop := by
  intro port hstart hstop k
  refine ⟨(port - start) + (stop - start) * k, ?_, ?_⟩
  · have := Nat.le_mul_of_pos_left k (show 0 < stop - start by omega)
    omega
  · simp only [drawn, id, Nat.add_mul_mod_self_left]
    rw [Nat.mod_eq_of_lt (by omega)]
    omega

def narrowRange : Settings where
  userPortRangeStart := 40000
  userPortRangeEnd := 40001

theorem ends_iff_narrowRange :
    Ends ⟨∅, ∅⟩ narrowRange id (requestedPorts [.int 8000]) :=
  (ends_iff ⟨∅, ∅⟩ narrowRange id [.int 8000] (fair_id _ _)).mpr
    (.inr (by decide))

theorem drawn_for_ever (limit : Nat) :
    assignPorts ⟨∅, ∅⟩ id 40000 40001 limit []
      (requestedPorts [.int 8000, .int 8001]) 0 = none :=
  assignPorts_never id limit (by decide) _ [] 0 Assigned.nil
    (requestedPorts_nodup _) (by decide)

theorem not_ends_of_one_port :
    Fair id narrowRange.userPortRangeStart narrowRange.userPortRangeEnd ∧
      ¬Ends ⟨∅, ∅⟩ narrowRange id
        (requestedPorts [.int 8000, .int 8001]) := by
  refine ⟨fair_id _ _, ?_⟩
  rintro ⟨limit, assigned, hassigned, -⟩
  simp [narrowRange, drawn_for_ever] at hassigned

end NodeAgent.PortLoop
