import NodeAgent.Application.Leased

/-!
# A fleet of agents

Any number of agents share one hotkey.  Each goes through its own passes on its
own host, one call at a time, while the control plane moves the leases about.
-/

namespace NodeAgent

open Effectful Program Agent

/-! ## What a pass does, given the lease list it read -/

/-- Calls by which a deployment is dispatched or resumed. -/
def Dispatches (d : String) : Effect → Prop
  | .allocate owner _ _ | .allocateSpecific owner _ | .dockerStart owner _ =>
      owner = d
  | .dockerRun command => command.owner = d
  | .upsertRuntime runtime => runtime.deploymentId = d ∧
      (runtime.status = .accepted ∨ runtime.status = .starting ∨
        runtime.status = .ready)
  | .updateDeploymentStatus update =>
      update.deploymentId = d ∧ update.state = .ready
  | _ => False

def ReportsTerminated (d : String) : Effect → Prop
  | .updateDeploymentStatus update =>
      update.deploymentId = d ∧ update.state = .terminated
  | _ => False

def PinnedTo (s : Settings) (leases : List LeaseAssignment) (d : String) :
    Prop :=
  ∃ lease ∈ leases, lease.deploymentId = d ∧ lease.nodeId = some s.nodeId

/-- The control plane called `d` terminated after the first `since` calls. -/
def ToldTerminated (since : Nat) (w : World) (d : String) : Prop :=
  ∃ deployment : Deployment, deployment.state = .terminated ∧
    ⟨.getDeployment d, .ok (some deployment)⟩ ∈ w.log.drop since

/-- A call that the lease list stands for, in a pass that began at `since`. -/
def GoesBy (s : Settings) (leases : List LeaseAssignment) (since : Nat)
    (w : World) (e : Effect) : Prop :=
  (∀ d, Dispatches d e → PinnedTo s leases d) ∧
  (∀ d, ReportsTerminated d e →
    (∀ lease ∈ leases, lease.deploymentId ≠ d) ∨ ToldTerminated since w d)

structure WellPinned (leases : List LeaseAssignment) : Prop where
  nodup : (leases.map (·.deploymentId)).Nodup
  pinned : ∀ lease ∈ leases, truthy lease.nodeId = true

variable {s : Settings} {leases : List LeaseAssignment} {since : Nat}
variable {w w' : World} {d b : String} {e : Effect}

theorem Dispatches.owner_ne_none (h : Dispatches d e) : e.owner ≠ none := by
  intro howner
  cases e <;> first | exact h.elim | simp [Effect.owner] at howner

theorem ReportsTerminated.owner_ne_none (h : ReportsTerminated d e) :
    e.owner ≠ none := by
  intro howner
  cases e <;> first | exact h.elim | simp [Effect.owner] at howner

theorem TeardownCall.not_dispatches {reported : Bool}
    (h : TeardownCall d reported e) : ¬Dispatches b e := by
  intro hb
  cases e with
  | upsertRuntime runtime =>
      rcases hb with ⟨-, hb⟩
      simp [h.2] at hb
  | updateDeploymentStatus update =>
      rcases hb with ⟨-, hb⟩
      simp [h.2.2] at hb
  | allocate _ _ _ => exact h
  | allocateSpecific _ _ => exact h
  | dockerStart _ _ => exact h
  | dockerRun _ => exact h
  | _ => exact hb

theorem TeardownCall.of_reportsTerminated {reported : Bool}
    (h : TeardownCall d reported e) (hb : ReportsTerminated b e) :
    reported = true ∧ b = d := by
  cases e with
  | updateDeploymentStatus update => exact ⟨h.1, hb.1.symm.trans h.2.1⟩
  | _ => exact hb.elim

theorem Local.of_dispatches {own : String → String → Prop}
    (h : Local s own d e) (hb : Dispatches b e) : b = d := by
  cases e with
  | allocate _ _ _ => exact hb.symm.trans (h.elim False.elim id)
  | allocateSpecific _ _ => exact hb.symm.trans (h.elim False.elim id)
  | dockerStart _ _ => exact hb.symm.trans (h.elim And.left False.elim)
  | dockerRun _ => exact hb.symm.trans (h.elim id False.elim)
  | upsertRuntime runtime =>
      exact hb.1.symm.trans (h.elim False.elim And.left)
  | updateDeploymentStatus update =>
      exact hb.1.symm.trans (h.elim False.elim id)
  | _ => exact hb.elim

theorem Conduct.not_reportsTerminated {F : World → Finset Nat → Prop}
    (h : Conduct F w e) : ¬ReportsTerminated b e := by
  intro hb
  cases e with
  | updateDeploymentStatus update => exact h hb.2
  | _ => exact hb

theorem WellPinned.pinnedTo (h : WellPinned leases) {lease : LeaseAssignment}
    (hmem : lease ∈ leases) (hmine : isMine s lease = true) :
    PinnedTo s leases lease.deploymentId := by
  refine ⟨lease, hmem, rfl, ?_⟩
  simpa [isMine, h.pinned lease hmem] using hmine

theorem WellPinned.unique (h : WellPinned leases) {t : Settings}
    (hs : PinnedTo s leases d) (ht : PinnedTo t leases d) :
    s.nodeId = t.nodeId := by
  rcases hs with ⟨lease, hmem, hid, hnode⟩
  rcases ht with ⟨lease', hmem', hid', hnode'⟩
  obtain rfl := List.inj_on_of_nodup_map h.nodup hmem hmem'
    (hid.trans hid'.symm)
  exact Option.some.inj (hnode.symm.trans hnode')

theorem ToldTerminated.answer (h : ToldTerminated since w d) (a : Answer e) :
    ToldTerminated since (w.answer e a).2 d := by
  rcases h with ⟨deployment, hstate, hmem⟩
  refine ⟨deployment, hstate, ?_⟩
  rw [log_answer, List.drop_append]
  exact List.mem_append_left _ hmem

theorem told_answer (hsince : since ≤ w.log.length) {deployment : Deployment}
    (hstate : deployment.state = .terminated) {a : Answer (.getDeployment d)}
    (hresult : (w.perform (.getDeployment d) a).1 = .ok (some deployment)) :
    ToldTerminated since (w.answer (.getDeployment d) a).2 d := by
  refine ⟨deployment, hstate, ?_⟩
  rw [log_answer, List.drop_append_of_le_length hsince, hresult]
  simp

section Pass

variable {M : Machine Effect Effect.Ret Exn World} (hM : Refines M)
include hM

theorem refines_since {r : Except Exn e.Ret} (hsince : since ≤ w.log.length)
    (hstep : M.Step w e r w') : since ≤ w'.log.length := by
  obtain ⟨a, -, -, rfl⟩ := hM.performed hstep
  simp
  omega

theorem handleLease_goesBy (hpinned : WellPinned leases)
    {lease : LeaseAssignment} (hmem : lease ∈ leases)
    (hmine : isMine s lease = true) :
    Keeps M (GoesBy s leases since) (fun w => since ≤ w.log.length)
      (handleLease s lease) := by
  intro w hsince
  have hlocal : Sat M (fun _ e => Local s anyContainer lease.deploymentId e)
      (handleLease s lease) (fun _ _ => True) w :=
    (Always.sat (handleLease_local rfl).always fun _ _ _ _ _ hstep =>
      host_typed s (hM.host hstep)).weaken fun _ _ _ => trivial
  have hconduct := handleLease_conduct (s := s) (watchful_any hM) lease w
  refine ((hlocal.both hconduct).keeping (I := fun w => since ≤ w.log.length)
    (fun _ _ _ _ h _ hstep => refines_since hM h hstep) hsince).both
    (hlocal.both hconduct) |>.mono ?_ fun _ _ h => h.1.2
  rintro w e ⟨-, hlocal, hconduct⟩
  constructor
  · intro d hd
    rw [hlocal.of_dispatches hd]
    exact hpinned.pinnedTo hmem hmine
  · exact fun d hd => (hconduct.not_reportsTerminated hd).elim

theorem teardown_goesBy {α : Type} {p : Agent α} {reported : Bool}
    {Q : α → Prop} {I : World → Prop}
    (hp : Within (Typed s anyContainer) (TeardownCall d reported) p Q)
    (hinv : ∀ w e r w', I w → M.Step w e r w' → I w')
    (hreported : ∀ w, I w → reported = true →
      (∀ lease ∈ leases, lease.deploymentId ≠ d) ∨ ToldTerminated since w d) :
    Keeps M (GoesBy s leases since) I p := by
  refine keeps_of_always hp.always (fun w e hw he => ⟨?_, ?_⟩)
    fun w e r w' hw _ hstep =>
      ⟨host_typed s (hM.host hstep), hinv w e r w' hw hstep⟩
  · exact fun b hb => (he.not_dispatches hb).elim
  · intro b hb
    obtain ⟨htrue, rfl⟩ := he.of_reportsTerminated hb
    exact hreported w hw htrue

theorem reapSuspended_goesBy {runtime : UnifiedRuntimeRecord} :
    Keeps M (GoesBy s leases since) (fun w => since ≤ w.log.length)
      (reapSuspended s runtime) := by
  intro w hsince
  have hquestion : GoesBy s leases since w
      (.getDeployment runtime.deploymentId) :=
    ⟨fun _ h => h.elim, fun _ h => h.elim⟩
  unfold reapSuspended
  refine sat_step_attempt hM hquestion fun a _ hstep => ?_
  have hsince' := refines_since hM hsince hstep
  cases hresult : (w.perform (.getDeployment runtime.deploymentId) a).1 with
  | error x => exact hsince'
  | ok found =>
      cases found with
      | none => exact hsince'
      | some deployment =>
          dsimp only
          split
          · rename_i hstate
            have htold := told_answer hsince hstate hresult
            have hreap : Within (Typed s anyContainer)
                (TeardownCall runtime.deploymentId true) (do
                  terminateRuntime s runtime
                  removeRuntime runtime.deploymentId) fun _ => True :=
              within_bind (terminateRuntime_teardown rfl true)
                fun _ _ => perform_teardown rfl
            refine (teardown_goesBy hM hreap (I := fun w =>
              since ≤ w.log.length ∧
                ToldTerminated since w runtime.deploymentId) ?_
              (fun w h _ => .inr h.2) _ ⟨hsince', htold⟩).weaken
              fun _ _ h => h.1
            rintro w e r w' ⟨hlength, hold⟩ hstep
            refine ⟨refines_since hM hlength hstep, ?_⟩
            obtain ⟨a, -, -, rfl⟩ := hM.answered hstep
            exact hold.answer a
          · exact hsince'

theorem cleanUp_goesBy {runtime : UnifiedRuntimeRecord}
    (active : List String) :
    Keeps M (GoesBy s leases since) (fun w => since ≤ w.log.length)
      (cleanUp s active (leases.map (·.deploymentId)) runtime) := by
  unfold cleanUp
  split
  · exact keeps_pure ()
  · split
    · exact keeps_pure ()
    · exact reapSuspended_goesBy hM
    · refine teardown_goesBy hM (terminateRuntime_teardown rfl _)
        (fun _ _ _ _ h hstep => refines_since hM h hstep) fun w _ habsent => ?_
      left
      intro lease hmem hid
      have hnot : runtime.deploymentId ∉ leases.map (·.deploymentId) :=
        of_decide_eq_true habsent
      exact hnot (hid ▸ List.mem_map_of_mem hmem)

end Pass

theorem reconcileOnce_goesBy {hotkey : String} (hpinned : WellPinned leases) :
    Keeps (host (listing (.ok leases))) (GoesBy s leases since)
      (fun w => since ≤ w.log.length) (reconcileOnce s hotkey) := by
  refine keeps_reconcileOnce (L := fun heard => heard = leases)
    (fun e he => ?_) host_refines ?_ ?_ ?_
  · refine keeps_perform (fun w _ => ⟨fun d hd => ?_, fun d hd => ?_⟩)
      fun w r w' hsince hstep => refines_since host_refines hsince hstep
    · exact absurd he.owner_eq_none hd.owner_ne_none
    · exact absurd he.owner_eq_none hd.owner_ne_none
  · intro w r w' hstep
    obtain rfl : r = .ok leases := hstep.1
    rfl
  · rintro _ rfl lease hmem hmine
    exact handleLease_goesBy host_refines hpinned hmem hmine
  · rintro _ rfl w runtime - -
    exact cleanUp_goesBy host_refines _

/-! ## A pass lists the leases once -/

def isListing : Effect → Bool
  | .listLeases _ => true
  | _ => false

def listener (s : Settings) : Machine Effect Effect.Ret Exn Bool where
  Step listed e r listed' :=
    Typed s anyContainer e r ∧ listed' = (listed || isListing e)

def ListsFirst (listed : Bool) (e : Effect) : Prop :=
  (isListing e = true → listed = false) ∧ (e.owner ≠ none → listed = true)

theorem local_listsFirst {α : Type} {p : Agent α} {Q : α → Prop}
    (hp : Within (Typed s anyContainer) (Local s anyContainer d) p Q) :
    Keeps (listener s) ListsFirst (· = true) p := by
  refine keeps_of_always hp.always (fun listed e hlisted he => ?_)
    fun listed e r listed' hlisted _ hstep => ⟨hstep.1, ?_⟩
  · refine ⟨fun hlisting => ?_, fun _ => hlisted⟩
    cases e with
    | listLeases hotkey => exact (he.elim id id).elim
    | _ => exact absurd hlisting Bool.false_ne_true
  · rw [hstep.2, hlisted, Bool.true_or]

theorem quiet_listsFirst {e : Effect} {f : e.Ret → Agent Unit} {listed : Bool}
    (howner : e.owner = none) (he : isListing e = false)
    (hf : ∀ a, Sat (listener s) ListsFirst (f a) (fun _ _ => True) listed) :
    Sat (listener s) ListsFirst (perform e >>= f) (fun _ _ => True) listed := by
  refine ⟨⟨fun h => absurd (he.symm.trans h) Bool.false_ne_true,
    fun h => absurd howner h⟩, ?_⟩
  rintro r _ ⟨-, rfl⟩
  rw [he, Bool.or_false]
  cases r with
  | ok a => exact hf a
  | error x => trivial

theorem reconcileOnce_listsFirst (hotkey : String) :
    Sat (listener s) ListsFirst (reconcileOnce s hotkey) (fun _ _ => True)
      false := by
  have hrest : ∀ allLeases : List LeaseAssignment,
      Sat (listener s) ListsFirst (do
        let leases := allLeases.filter (isMine s)
        forEach (handleLease s) leases
        let runtimes ← snapshotRuntimeItems
        forEach (cleanUp s (leases.map (·.deploymentId))
          (allLeases.map (·.deploymentId))) runtimes)
        (fun _ _ => True) true := by
    intro allLeases
    have hleases : Keeps (listener s) ListsFirst (· = true)
        (forEach (handleLease s) (allLeases.filter (isMine s))) :=
      keeps_forEach fun lease _ => local_listsFirst (handleLease_local rfl)
    refine (hleases true rfl).bind (fun _ listed hlisted => ?_)
      fun _ _ _ => trivial
    refine quiet_listsFirst rfl rfl fun runtimes => ?_
    refine (keeps_forEach (fun runtime _ => local_listsFirst
      (cleanUp_local (Ledger.belongs_any runtime) _ _)) listed
      hlisted).weaken fun _ _ _ => trivial
  have hpass : Sat (listener s) ListsFirst (reconcileOnceLocked s hotkey)
      (fun _ _ => True) false := by
    unfold reconcileOnceLocked syncLeases
    refine sat_bind'.mpr (sat_bind'.mpr (sat_attempt.mpr
      ⟨⟨fun _ => rfl, fun h => absurd rfl h⟩, ?_⟩))
    rintro r _ ⟨-, rfl⟩
    rw [sat_done, andThen_ok]
    cases r with
    | ok leases => exact hrest leases
    | error x =>
        dsimp only
        split
        · exact hrest []
        · trivial
  unfold reconcileOnce underReconcileLock
  refine quiet_listsFirst rfl rfl fun acquired => ?_
  cases acquired with
  | false => trivial
  | true =>
      refine sat_bind'.mpr (sat_attempt.mpr (hpass.weaken
        fun result listed _ => ?_))
      refine quiet_listsFirst rfl rfl fun _ => ?_
      cases result <;> trivial

/-! ## The fleet -/

/-- One agent: its host, what is left of its pass, and what the pass has read. -/
structure Member where
  world : World
  rest : Agent Unit
  heard : Option (List LeaseAssignment) := none
  /-- How many calls its log had when the pass began. -/
  since : Nat := 0

structure Fleet (ι : Type) where
  /-- The leases that the control plane gives out at the moment. -/
  leases : List LeaseAssignment
  members : ι → Member

/-- The lease list that a pass goes by from a call on. -/
def hears (heard : Option (List LeaseAssignment)) :
    (e : Effect) → Except Exn e.Ret → Option (List LeaseAssignment)
  | .listLeases _, .ok leases => some leases
  | _, _ => heard

namespace Member

def begin (m : Member) (p : Agent Unit) : Member where
  world := m.world
  rest := p
  since := m.world.log.length

def answered (m : Member) (e : Effect) (a : Answer e)
    (next : Except Exn e.Ret → Agent Unit) : Member where
  world := (m.world.answer e a).2
  rest := next (m.world.perform e a).1
  heard := hears m.heard e (m.world.perform e a).1
  since := m.since

/-- The agent dies and is started again. -/
def restart (s : Settings) (m : Member) : Member where
  world := m.world.restart s
  rest := pure ()

end Member

def Fleet.update {ι : Type} [DecidableEq ι] (f : Fleet ι) (i : ι)
    (m : Member) : Fleet ι :=
  { f with members := Function.update f.members i m }

/-- Every order of the agents' calls, the control plane's edits and deaths. -/
inductive FleetRun {ι : Type} [DecidableEq ι] (settings : ι → Settings)
    (hotkey : String) : Fleet ι → Prop
  | start (f : Fleet ι) (hleases : WellPinned f.leases)
      (hidle : ∀ i, (f.members i).rest = pure ())
      (hquiet : ∀ i, (f.members i).heard = none) : FleetRun settings hotkey f
  | edit {f : Fleet ι} (before : FleetRun settings hotkey f)
      (leases : List LeaseAssignment) (hleases : WellPinned leases) :
      FleetRun settings hotkey { f with leases := leases }
  | begin {f : Fleet ι} (before : FleetRun settings hotkey f) (i : ι)
      {r : Except Exn Unit} (hidle : (f.members i).rest = .done r) :
      FleetRun settings hotkey
        (f.update i ((f.members i).begin (reconcileOnce (settings i) hotkey)))
  | call {f : Fleet ι} (before : FleetRun settings hotkey f) (i : ι)
      {e : Effect} {next : Except Exn e.Ret → Agent Unit} (a : Answer e)
      (hrest : (f.members i).rest = .call e next)
      (hallows : (f.members i).world.allows e a = true)
      (hlist : listing (.ok f.leases) e ((f.members i).world.perform e a).1) :
      FleetRun settings hotkey (f.update i ((f.members i).answered e a next))
  | restart {f : Fleet ι} (before : FleetRun settings hotkey f) (i : ι) :
      FleetRun settings hotkey
        (f.update i ((f.members i).restart (settings i)))

/-- What is left of a pass goes by the list it has read, or is going to read. -/
def Member.Obeys (s : Settings) (m : Member) : Prop :=
  Sat (listener s) ListsFirst m.rest (fun _ _ => True) m.heard.isSome ∧
  ∀ leases, WellPinned leases → (∀ heard, m.heard = some heard →
    heard = leases) → Sat (host (listing (.ok leases)))
      (GoesBy s leases m.since) m.rest (fun _ _ => True) m.world

def Member.HeardWell (m : Member) : Prop :=
  ∀ leases, m.heard = some leases → WellPinned leases

theorem Member.obeys_idle {m : Member} {r : Except Exn Unit}
    (h : m.rest = .done r) : m.Obeys s := by
  unfold Obeys
  rw [h]
  exact ⟨trivial, fun _ _ _ => trivial⟩

theorem Member.obeys_begin (m : Member) (hotkey : String) :
    (m.begin (reconcileOnce s hotkey)).Obeys s := by
  refine ⟨reconcileOnce_listsFirst hotkey, fun leases hleases _ => ?_⟩
  exact (reconcileOnce_goesBy hleases _ (Nat.le_refl _)).weaken
    fun _ _ _ => trivial

theorem Member.Obeys.answered {m : Member} (h : m.Obeys s)
    (hwell : m.HeardWell) {next : Except Exn e.Ret → Agent Unit}
    (hrest : m.rest = .call e next) {a : Answer e}
    (hallows : m.world.allows e a = true) (hleases : WellPinned leases)
    (hlist : listing (.ok leases) e (m.world.perform e a).1) :
    (m.answered e a next).Obeys s ∧ (m.answered e a next).HeardWell := by
  obtain ⟨honce, hgoes⟩ := h
  rw [hrest] at honce hgoes
  have hstep : (host (listing (.ok leases))).Step m.world e
      (m.world.perform e a).1 (m.world.answer e a).2 :=
    ⟨hlist, a, hallows, rfl⟩
  have htyped := host_typed s hstep
  cases hlisting : isListing e with
  | true =>
      cases e with
      | listLeases hotkey =>
          have hnone : m.heard = none := by
            simpa using honce.1.1 hlisting
          have hheard : hears m.heard (.listLeases hotkey)
              (m.world.perform (.listLeases hotkey) a).1 = some leases := by
            rw [show (m.world.perform (.listLeases hotkey) a).1 = .ok leases
              from hlist]
            rfl
          refine ⟨⟨?_, fun leases' _ hsame => ?_⟩, fun leases' heq => ?_⟩
          · simp only [Member.answered, hheard]
            exact honce.2 _ true ⟨htyped, by simp [isListing]⟩
          · obtain rfl := hsame leases hheard
            exact (hgoes leases hleases (by simp [hnone])).2 _ _ hstep
          · obtain rfl := Option.some.inj (hheard.symm.trans heq)
            exact hleases
      | _ => cases hlisting
  | false =>
      have hheard : hears m.heard e (m.world.perform e a).1 = m.heard := by
        cases e with
        | listLeases hotkey => cases hlisting
        | _ => rfl
      refine ⟨⟨?_, fun leases' hleases' hsame => ?_⟩, fun leases' heq => ?_⟩
      · simp only [Member.answered, hheard]
        exact honce.2 _ _ ⟨htyped, by simp [hlisting]⟩
      · have hpermitted : listing (.ok leases') e (m.world.perform e a).1 := by
          cases e with
          | listLeases hotkey => cases hlisting
          | _ => trivial
        refine (hgoes leases' hleases' fun heard h => ?_).2 _ _
          ⟨hpermitted, a, hallows, rfl⟩
        exact hsame heard (hheard.trans h)
      · exact hwell leases' (hheard.symm.trans heq)

theorem fleetRun_obeys {ι : Type} [DecidableEq ι] {settings : ι → Settings}
    {hotkey : String} {f : Fleet ι} (h : FleetRun settings hotkey f) :
    WellPinned f.leases ∧ ∀ i, (f.members i).HeardWell ∧
      (f.members i).Obeys (settings i) := by
  have hupdate : ∀ {f : Fleet ι} {i : ι} {m : Member},
      (∀ j, (f.members j).HeardWell ∧ (f.members j).Obeys (settings j)) →
      m.HeardWell ∧ m.Obeys (settings i) →
      ∀ j, ((f.update i m).members j).HeardWell ∧
        ((f.update i m).members j).Obeys (settings j) := by
    intro f i m hall hm j
    by_cases hj : j = i
    · subst hj
      simpa [Fleet.update] using hm
    · simpa [Fleet.update, hj] using hall j
  have hsilent : ∀ {m : Member}, m.heard = none → m.HeardWell := by
    intro m hm leases heq
    rw [hm] at heq
    cases heq
  induction h with
  | start f hleases hidle hquiet =>
      exact ⟨hleases, fun i => ⟨hsilent (hquiet i),
        Member.obeys_idle (hidle i)⟩⟩
  | edit before leases hleases ih => exact ⟨hleases, ih.2⟩
  | begin before i hidle ih =>
      exact ⟨ih.1, hupdate ih.2 ⟨hsilent rfl, Member.obeys_begin _ hotkey⟩⟩
  | call before i a hrest hallows hlist ih =>
      have hi := ih.2 i
      have hafter := hi.2.answered hi.1 hrest hallows ih.1 hlist
      exact ⟨ih.1, hupdate ih.2 hafter.symm⟩
  | restart before i ih =>
      exact ⟨ih.1, hupdate ih.2 ⟨hsilent rfl, Member.obeys_idle rfl⟩⟩

theorem fleetRun_goesBy {ι : Type} [DecidableEq ι] {settings : ι → Settings}
    {hotkey : String} {f : Fleet ι} (h : FleetRun settings hotkey f) {i : ι}
    {next : Except Exn e.Ret → Agent Unit}
    (hrest : (f.members i).rest = .call e next) {leases : List LeaseAssignment}
    (hheard : (f.members i).heard = some leases) :
    GoesBy (settings i) leases (f.members i).since (f.members i).world e := by
  have hmember := (fleetRun_obeys h).2 i
  have hgoes := hmember.2.2 leases (hmember.1 leases hheard)
    fun heard heq => Option.some.inj (heq.symm.trans hheard)
  rw [hrest] at hgoes
  exact hgoes.1

/--
In every run of a fleet: an agent dispatches or resumes a deployment only where
the list that its pass has read pins it to that agent, it reports TERMINATED
only if that list has no lease for the deployment or the control plane called it
terminated during the pass, and no two agents act on the same list for the same
deployment.
-/
theorem fleet_acts_on_pinned {ι : Type} [DecidableEq ι]
    {settings : ι → Settings} {hotkey : String}
    (hdistinct : ∀ i j, (settings i).nodeId = (settings j).nodeId → i = j)
    {f : Fleet ι} (h : FleetRun settings hotkey f) {i : ι}
    {e : Effect} {next : Except Exn e.Ret → Agent Unit}
    (hrest : (f.members i).rest = .call e next) (d : String) :
    (Dispatches d e → ∃ leases, (f.members i).heard = some leases ∧
      PinnedTo (settings i) leases d ∧
      ∀ f', FleetRun settings hotkey f' → ∀ (j : ι) (e' : Effect)
        (next' : Except Exn e'.Ret → Agent Unit),
        (f'.members j).rest = .call e' next' →
        (f'.members j).heard = some leases → Dispatches d e' → j = i) ∧
    (ReportsTerminated d e → ∃ leases, (f.members i).heard = some leases ∧
      ((∀ lease ∈ leases, lease.deploymentId ≠ d) ∨
        ToldTerminated (f.members i).since (f.members i).world d)) := by
  have hwell := ((fleetRun_obeys h).2 i).1
  have howned : e.owner ≠ none → ∃ leases,
      (f.members i).heard = some leases ∧ WellPinned leases ∧
        GoesBy (settings i) leases (f.members i).since
          (f.members i).world e := by
    intro howner
    have honce := ((fleetRun_obeys h).2 i).2.1
    rw [hrest] at honce
    have hheard := honce.1.2 howner
    obtain ⟨leases, heq⟩ := Option.isSome_iff_exists.mp hheard
    exact ⟨leases, heq, hwell leases heq, fleetRun_goesBy h hrest heq⟩
  constructor
  · intro hdispatch
    obtain ⟨leases, heq, hleases, hgoes⟩ := howned hdispatch.owner_ne_none
    have hpinned := hgoes.1 d hdispatch
    refine ⟨leases, heq, hpinned, fun f' h' j e' next' hrest' heq' hd' => ?_⟩
    have hpinned' := (fleetRun_goesBy h' hrest' heq').1 d hd'
    exact hdistinct j i (hleases.unique hpinned' hpinned)
  · intro hreport
    obtain ⟨leases, heq, -, hgoes⟩ := howned hreport.owner_ne_none
    exact ⟨leases, heq, hgoes.2 d hreport⟩

/-! ## Two nodes -/

/-- The next calls of a member, answered by an environment. -/
def Member.advance (env : Environment) : Nat → Member → Member
  | 0, m => m
  | n + 1, m =>
      match m.rest with
      | .done _ => m
      | .call e next =>
          if m.world.allows e (env m.world e) then
            advance env n (m.answered e (env m.world e) next)
          else m

theorem fleetRun_advance {ι : Type} [DecidableEq ι] {settings : ι → Settings}
    {hotkey : String} {f : Fleet ι} {i : ι} {env : Environment}
    (henv : env.Respects (listing (.ok f.leases))) (n : Nat) {m : Member}
    (h : FleetRun settings hotkey (f.update i m)) :
    FleetRun settings hotkey (f.update i (m.advance env n)) := by
  induction n generalizing m with
  | zero => exact h
  | succ n ih =>
      have hm : (f.update i m).members i = m := by simp [Fleet.update]
      rw [Member.advance]
      split
      · exact h
      · rename_i e next hrest
        split
        · rename_i hallows
          have hcall := FleetRun.call (e := e) h i
            (env m.world e) (by rw [hm, hrest]) (by rw [hm]; exact hallows)
            (by rw [hm]; exact henv m.world e)
          rw [hm] at hcall
          exact ih (by simpa [Fleet.update] using hcall)
        · exact h

def twoNodes (second : Bool) : Settings :=
  if second then { nodeId := "node-b" } else {}

def pinnedLease : LeaseAssignment :=
  { leaseOn "pod-1" with nodeId := some "node-local" }

def idleFleet : Fleet Bool where
  leases := [pinnedLease]
  members := fun _ => { world := .init {}, rest := pure () }

def dispatchingMember : Member :=
  ((idleFleet.members false).begin (reconcileOnce {} "hotkey")).advance
    (podHost [pinnedLease]) 4

theorem fleet_acts_on_pinned_dispatching : ∃ runtime next leases,
    dispatchingMember.rest = .call (.upsertRuntime runtime) next ∧
      runtime.status = .accepted ∧
      dispatchingMember.heard = some leases ∧
      PinnedTo {} leases "pod-1" := by
  have hpinned : WellPinned [pinnedLease] := by
    constructor
    · simp
    · intro lease hmem
      obtain rfl := List.mem_singleton.mp hmem
      rfl
  have hdistinct : ∀ i j, (twoNodes i).nodeId = (twoNodes j).nodeId → i = j := by
    decide
  have hbegin : FleetRun twoNodes "hotkey" (idleFleet.update false
      ((idleFleet.members false).begin (reconcileOnce {} "hotkey"))) :=
    .begin (.start idleFleet hpinned (fun _ => rfl) fun _ => rfl) false rfl
  have hrun := fleetRun_advance (podHost_listing [pinnedLease]) 4 hbegin
  obtain ⟨leases, hheard, hpin, -⟩ := (fleet_acts_on_pinned hdistinct hrun
    (i := false) (e := .upsertRuntime _) rfl "pod-1").1 ⟨rfl, .inl rfl⟩
  exact ⟨_, _, leases, rfl, rfl, hheard, hpin⟩

end NodeAgent
