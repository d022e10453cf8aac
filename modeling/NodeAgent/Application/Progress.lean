import NodeAgent.Application.Handling

/-!
# What a pass gets done

A pass that returns has gone through both of its loops.  What it has made of one
deployment is what the handlers of that deployment made of it, since handling
others leaves its record, its books and its history alone.
-/

namespace NodeAgent

open Effectful Program Agent

variable {s : Settings} {permitted : Permitted}
variable {M : Machine Effect Effect.Ret Exn World} {I J K : World → Prop}
variable {w w' : World} {d b : String}

/-- Whenever the program starts in `I` and returns, it ends in `J`. -/
def Turns (M : Machine Effect Effect.Ret Exn World) (I J : World → Prop)
    (p : Agent Unit) : Prop :=
  ∀ w, I w → Sat M (fun _ _ => True) p (fun r w' => r = .ok () → J w') w

/-- Calls that act for no deployment keep the condition. -/
def Undisturbed (M : Machine Effect Effect.Ret Exn World) (I : World → Prop) :
    Prop :=
  ∀ e : Effect, e.owner = none → ∀ w r w', I w → M.Step w e r w' → I w'

theorem turns_reconcileOnce (hM : Refines M) {hotkey : String}
    {leases : List LeaseAssignment}
    (hlist : ∀ w r w', M.Step w (.listLeases hotkey) r w' → r = .ok leases)
    (hI : Undisturbed M I) (hJ : Undisturbed M J) (hK : Undisturbed M K)
    (hleases : Turns M I J
      (forEach (handleLease s) (leases.filter (isMine s))))
    (hclean : ∀ runtimes, Turns M
      (fun w => J w ∧ runtimes = w.runtimes.snapshot) K
      (forEach (cleanUp s (activeIds s leases) (leases.map (·.deploymentId)))
        runtimes)) :
    Turns M (fun w => I w ∧ w.reconcileLock = false) K
      (reconcileOnce s hotkey) := by
  rintro w ⟨hw, hlock⟩
  have hpass : Turns M I K (reconcileOnceLocked s hotkey) := by
    intro w hw
    unfold reconcileOnceLocked syncLeases
    refine sat_bind'.mpr ?_
    refine sat_step_attempt hM trivial fun a _ hstep => ?_
    have hw₁ := hI _ rfl w _ _ hw hstep
    have hheard := hlist w _ _ hstep
    simp only [hheard]
    rw [sat_pure, andThen_ok]
    refine Sat.bind (hleases _ hw₁) (fun _ w₂ h₂ => ?_)
      fun x w₂ _ heq => nomatch heq
    refine sat_step_bind hM trivial fun c _ hsnapshot => ?_
    have hw₃ := hJ _ rfl w₂ _ _ (h₂ rfl) hsnapshot
    exact hclean _ _ ⟨hw₃, rfl⟩
  unfold reconcileOnce underReconcileLock
  refine sat_step_bind hM trivial fun a _ hstep => ?_
  have hw₁ := hI _ rfl w _ _ hw hstep
  simp only [World.perform, hlock, Bool.not_false, andThen_ok, if_true]
  refine sat_bind'.mpr (sat_attempt.mpr ((hpass _ hw₁).weaken
    fun r w₂ h₂ => ?_))
  rw [andThen_ok]
  refine sat_step_bind hM trivial fun c _ hrelease => ?_
  cases r with
  | ok => exact fun _ => hK _ rfl w₂ _ _ (h₂ rfl) hrelease
  | error x => exact fun heq => nomatch heq

/-! ## Others leave a deployment alone -/

/-- What the books and the log say of `d`. -/
def Same (d : String) (w₀ w : World) : Prop :=
  w.ledger d = w₀.ledger d ∧ w.history d = w₀.history d

theorem Same.record {w₀ : World} (h : Same d w₀ w) :
    w.runtimes.get? d = w₀.runtimes.get? d :=
  congrArg Ledger.record h.1

theorem same_answer {w₀ : World} {e : Effect} {r : Except Exn e.Ret}
    (h : Same d w₀ w) (hM : Refines M) (hstep : M.Step w e r w')
    (hledger : w'.ledger d = w.ledger d) (hmark : markOf d ⟨e, r⟩ = none) :
    Same d w₀ w' := by
  obtain ⟨a, -, rfl, rfl⟩ := hM.answered hstep
  refine ⟨hledger.trans h.1, ?_⟩
  have hhistory := history_answer (w := w) a d
  rw [hmark] at hhistory
  exact (hhistory.trans (List.append_nil _)).trans h.2

theorem same_undisturbed (hM : Refines M) {w₀ : World} :
    Undisturbed M (Same d w₀) := by
  intro e he w r w' h hstep
  have htouches := World.untouched_of_owner he
  exact same_answer h hM hstep (host_untouched htouches (hM.host hstep) d)
    (markOf_of_owner he)

theorem other_same (hM : Refines M) {p : Agent Unit} {w₀ : World} (hb : b ≠ d)
    (hp : Within (Typed s anyContainer) (Local s anyContainer b) p
      fun _ => True) :
    Keeps M (fun _ _ => True) (Same d w₀) p := by
  refine keeps_of_always hp.always (fun _ _ _ _ => trivial)
    fun w e r w' h he hstep => ⟨host_typed s (hM.host hstep), ?_⟩
  exact same_answer h hM hstep (host_frame he (hM.host hstep) hb.symm)
    (markOf_of_ne he hb)

def LooksAt (d : String) (I : World → Prop) : Prop :=
  ∀ w w', I w → Same d w w' → I w'

theorem LooksAt.undisturbed (h : LooksAt d I) (hM : Refines M) :
    Undisturbed M I :=
  fun e he w _ _ hw hstep =>
    h w _ hw (same_undisturbed hM e he w _ _ ⟨rfl, rfl⟩ hstep)

theorem LooksAt.other (h : LooksAt d I) (hM : Refines M) {p : Agent Unit}
    (hb : b ≠ d)
    (hp : Within (Typed s anyContainer) (Local s anyContainer b) p
      fun _ => True) :
    Turns M I I p :=
  fun w hw => (other_same hM hb hp w ⟨rfl, rfl⟩).weaken
    fun _ w' hsame _ => h w w' hw hsame

/-! ## A deployment with a lease -/

section Leased

variable {hotkey : String} {leases : List LeaseAssignment}
variable (hM : Refines M) (hI : LooksAt d I) (hJ : LooksAt d J)
variable (hlist : ∀ w r w', M.Step w (.listLeases hotkey) r w' →
  r = .ok leases)
include hM hI hJ hlist

theorem turns_leased
    (hmine : ∃ lease ∈ leases, isMine s lease = true ∧ lease.deploymentId = d)
    (hhandle : ∀ lease ∈ leases, isMine s lease = true →
      lease.deploymentId = d → Turns M I J (handleLease s lease))
    (hagain : ∀ lease ∈ leases, isMine s lease = true →
      lease.deploymentId = d → Turns M J J (handleLease s lease)) :
    Turns M (fun w => I w ∧ w.reconcileLock = false) J
      (reconcileOnce s hotkey) := by
  refine turns_reconcileOnce hM hlist (hI.undisturbed hM) (hJ.undisturbed hM)
    (hJ.undisturbed hM) (fun w hw => ?_) fun runtimes w hw => ?_
  · refine sat_forEach_once (P := fun lease => lease.deploymentId = d) ?_
      (fun lease _ hb => hI.other hM hb (handleLease_local rfl))
      (fun lease hmem hid => ?_) (fun lease hmem => ?_) hw
    · obtain ⟨lease, hmem, hmine, hid⟩ := hmine
      exact ⟨lease, List.mem_filter.mpr ⟨hmem, hmine⟩, hid⟩
    · obtain ⟨hmem, hmine⟩ := List.mem_filter.mp hmem
      exact hhandle lease hmem hmine hid
    · obtain ⟨hmem, hmine⟩ := List.mem_filter.mp hmem
      by_cases hid : lease.deploymentId = d
      · exact hagain lease hmem hmine hid
      · exact hJ.other hM hid (handleLease_local rfl)
  · refine sat_forEach_ok (fun runtime _ => ?_) hw.1
    by_cases hid : runtime.deploymentId = d
    · obtain ⟨lease, hmem, hmine, hlease⟩ := hmine
      have hactive : runtime.deploymentId ∈ activeIds s leases :=
        List.mem_map.mpr ⟨lease, List.mem_filter.mpr ⟨hmem, hmine⟩,
          hlease.trans hid.symm⟩
      intro w hw
      rw [cleanUp, if_pos hactive]
      exact fun _ => hw
    · exact hJ.other hM hid (cleanUp_local (Ledger.belongs_any runtime) _ _)

end Leased

/-! ## A deployment without a lease -/

theorem turns_unleased (hM : Refines M) (hI : LooksAt d I) (hJ : LooksAt d J)
    {hotkey : String} {leases : List LeaseAssignment}
    (hlist : ∀ w r w', M.Step w (.listLeases hotkey) r w' → r = .ok leases)
    (hunleased : ∀ lease ∈ leases, isMine s lease = true →
      lease.deploymentId ≠ d)
    (hgone : ∀ w, I w → w.runtimes.get? d = none → J w)
    (hclean : ∀ runtime, runtime.deploymentId = d →
      Turns M (fun w => I w ∧ w.runtimes.get? d = some runtime) J
        (cleanUp s (activeIds s leases) (leases.map (·.deploymentId)) runtime))
    (hagain : ∀ runtime, runtime.deploymentId = d → Turns M J J
      (cleanUp s (activeIds s leases) (leases.map (·.deploymentId)) runtime)) :
    Turns M (fun w => I w ∧ w.reconcileLock = false) J
      (reconcileOnce s hotkey) := by
  have hother : ∀ {I : World → Prop}, LooksAt d I → ∀ runtime,
      runtime.deploymentId ≠ d → Turns M I I
        (cleanUp s (activeIds s leases) (leases.map (·.deploymentId))
          runtime) :=
    fun hI runtime hne =>
      hI.other hM hne (cleanUp_local (Ledger.belongs_any runtime) _ _)
  refine turns_reconcileOnce hM hlist (hI.undisturbed hM) (hI.undisturbed hM)
    (hJ.undisturbed hM) (fun w hw => ?_) ?_
  · refine sat_forEach_ok (fun lease hmem => ?_) hw
    obtain ⟨hmem, hmine⟩ := List.mem_filter.mp hmem
    exact hI.other hM (hunleased lease hmem hmine) (handleLease_local rfl)
  · rintro runtimes w ⟨hw, rfl⟩
    cases hget : w.runtimes.get? d with
    | none =>
        refine sat_forEach_ok (fun runtime hmem => hother hJ runtime ?_)
          (hgone w hw hget)
        rintro rfl
        rw [Table.mem_snapshot_iff.mp hmem] at hget
        cases hget
    | some runtime =>
        have hlooks : LooksAt d fun w =>
            I w ∧ w.runtimes.get? d = some runtime :=
          fun w w' h hsame => ⟨hI w w' h.1 hsame, hsame.record.trans h.2⟩
        refine sat_forEach_once (P := fun runtime => runtime.deploymentId = d)
          (I := fun w => I w ∧ w.runtimes.get? d = some runtime) ?_
          (fun runtime _ hne => hother hlooks runtime hne)
          (fun runtime' hmem hid => ?_) (fun runtime' _ => ?_) ⟨hw, hget⟩
        · have hid := Table.key_of_get? hget
          refine ⟨runtime, Table.mem_snapshot_iff.mpr ?_, hid⟩
          rw [hid]
          exact hget
        · have hsame := Table.mem_snapshot_iff.mp hmem
          rw [hid, hget] at hsame
          cases hsame
          exact hclean runtime hid
        · by_cases hid : runtime'.deploymentId = d
          · exact hagain runtime' hid
          · exact hother hJ runtime' hid

end NodeAgent
