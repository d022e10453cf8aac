import NodeAgent.Application.Bookkeeping
import NodeAgent.Infrastructure.Steps

/-!
# The books of a whole node

Each deployment's books as the state of the host gives them.  A call for one
deployment moves that deployment's books as the ledger says and leaves every
other deployment's books alone, so handlers that keep one deployment's books
sound keep the node's books sound.
-/

namespace NodeAgent

open Effectful Program Agent

/-- The reports sent for a deployment, in order. -/
def reportOf (d : String) (event : Event) : Option (DeploymentState × Bool) :=
  match event with
  | ⟨.updateDeploymentStatus update, r⟩ =>
      if update.deploymentId = d then some (update.state, World.isOk r)
      else none
  | _ => none

namespace World

def ledger (w : World) (d : String) : Ledger where
  record := w.runtimes.get? d
  held := w.allocator.getAllocation d
  sent := w.log.filterMap (reportOf d)

theorem ledger_of_eq {w w' : World} {d : String}
    (hruntimes : w'.runtimes = w.runtimes)
    (hallocator : w'.allocator = w.allocator)
    (hlog : ∃ event, w'.log = w.log ++ [event] ∧ reportOf d event = none) :
    w'.ledger d = w.ledger d := by
  obtain ⟨event, hlog, hreport⟩ := hlog
  unfold ledger
  rw [hruntimes, hallocator, hlog, List.filterMap_append]
  simp [hreport]

def touchesBooks : Effect → Bool
  | .allocate _ _ _ | .allocateSpecific _ _ | .release _ | .upsertRuntime _
  | .removeRuntime _ | .updateDeploymentStatus _ => true
  | _ => false

theorem untouched_of_owner {e : Effect} (he : e.owner = none) :
    touchesBooks e = false := by
  cases e <;> first | rfl | simp [Effect.owner] at he

theorem perform_books {e : Effect} (he : touchesBooks e = false) (w : World)
    (a : Answer e) :
    (w.perform e a).2.runtimes = w.runtimes ∧
      (w.perform e a).2.stateFile = w.stateFile ∧
      (w.perform e a).2.allocator = w.allocator ∧
      (w.perform e a).2.log = w.log := by
  cases e with
  | dockerRun command =>
      cases h : a.created <;> simp [perform, withContainer, h]
  | dockerRm owner target =>
      by_cases h : a.tookEffect <;> simp [perform, h, withoutContainer]
  | dockerStop owner target =>
      by_cases h : a.tookEffect <;> simp [perform, h, setRunning]
  | dockerStart owner target =>
      by_cases h : a.tookEffect <;> simp [perform, h, setRunning]
  | spawnServer owner => cases h : a.result <;> simp [perform, h]
  | terminatePid owner pid => by_cases h : a.tookEffect <;> simp [perform, h]
  | stageArtifact d uri digest =>
      by_cases h : a.tookEffect <;> simp [perform, h]
  | makeRuntimeDir d => by_cases h : a.tookEffect <;> simp [perform, h]
  | deleteRuntimeDir owner path =>
      by_cases h : a.tookEffect <;> simp [perform, h]
  | deleteStagedArtifact owner path =>
      by_cases h : a.tookEffect <;> simp [perform, h]
  | createVolume volume => by_cases h : a.tookEffect <;> simp [perform, h]
  | deleteVolume volume => by_cases h : a.tookEffect <;> simp [perform, h]
  | allocate _ _ _ => simp [touchesBooks] at he
  | allocateSpecific _ _ => simp [touchesBooks] at he
  | release _ => simp [touchesBooks] at he
  | upsertRuntime _ => simp [touchesBooks] at he
  | removeRuntime _ => simp [touchesBooks] at he
  | updateDeploymentStatus _ => simp [touchesBooks] at he
  | _ => simp [perform]

theorem reportOf_eq_none {e : Effect} (he : touchesBooks e = false)
    (d : String) (r : Except Exn e.Ret) : reportOf d ⟨e, r⟩ = none := by
  cases e <;> first | rfl | simp [touchesBooks] at he

/-- What a call makes of the record of `d`. -/
def recordAfter (d : String) (e : Effect)
    (record : Option UnifiedRuntimeRecord) : Option UnifiedRuntimeRecord :=
  match e with
  | .upsertRuntime runtime =>
      if runtime.deploymentId = d then some runtime else record
  | .removeRuntime b => if b = d then none else record
  | _ => record

theorem perform_record (w : World) (e : Effect) (a : Answer e) (d : String) :
    (w.perform e a).2.runtimes.get? d =
      recordAfter d e (w.runtimes.get? d) := by
  by_cases he : touchesBooks e = false
  · rw [(perform_books he w a).1]
    cases e <;> first | rfl | simp [touchesBooks] at he
  · cases e with
    | upsertRuntime runtime =>
        simp [perform, saved, recordAfter, Table.get?_upsert]
    | removeRuntime b =>
        simp [perform, saved, recordAfter, Table.get?_remove]
    | allocate _ _ _ => rfl
    | allocateSpecific _ _ => rfl
    | release _ => rfl
    | updateDeploymentStatus _ => rfl
    | _ => exact absurd rfl he

end World

variable {permitted : Permitted} {w w' : World} {e : Effect}
variable {r : Except Exn e.Ret}

theorem host_untouched (he : World.touchesBooks e = false)
    (hstep : (host permitted).Step w e r w') (d : String) :
    w'.ledger d = w.ledger d := by
  obtain ⟨a, -, -, rfl⟩ := host_refines.performed hstep
  obtain ⟨hruntimes, -, hallocator, -⟩ := World.perform_books he w a
  exact World.ledger_of_eq hruntimes hallocator
    ⟨⟨e, (w.perform e a).1⟩, rfl, World.reportOf_eq_none he d _⟩

/-- Every record in memory names containers of its own deployment. -/
def Belonging (s : Settings) (own : String → String → Prop) (w : World) :
    Prop :=
  ∀ d runtime, w.runtimes.get? d = some runtime → Belongs s own d runtime

theorem belonging_any (s : Settings) (w : World) :
    Belonging s anyContainer w :=
  fun _ _ hget => ⟨Table.key_of_get? hget, fun _ _ _ => trivial⟩

theorem host_typed_of_belonging {s : Settings} {own : String → String → Prop}
    (h : Belonging s own w) (hstep : (host permitted).Step w e r w')
    (hrun : ∀ command completed, (⟨e, r⟩ : Event) =
      ⟨.dockerRun command, .ok completed⟩ → completed.returncode = 0 →
      own command.owner (strip completed.stdout)) : Typed s own e r := by
  obtain ⟨a, -, rfl, -⟩ := host_refines.performed hstep
  cases e with
  | getRuntime d =>
      cases hget : w.runtimes.get? d with
      | none => simp [World.perform, hget, Typed]
      | some runtime =>
          simp only [World.perform, hget, Typed]
          exact h d runtime hget
  | snapshotRuntimeItems =>
      exact fun runtime hmem => h _ runtime (Table.mem_snapshot_iff.mp hmem)
  | dockerRun command =>
      simp only [World.perform] at hrun ⊢
      cases hresult : a.result with
      | ok completed => exact hrun command completed (by rw [hresult])
      | error x => exact trivial
  | popVolumeRecord d =>
      cases hget : w.volumeRecords.get? d with
      | none => simp [World.perform, hget, Typed]
      | some volume =>
          simp only [World.perform, hget, Typed]
          exact Table.key_of_get? hget
  | _ => exact trivial

theorem host_typed (s : Settings)
    (hstep : (host permitted).Step w e r w') : Typed s anyContainer e r :=
  host_typed_of_belonging (belonging_any s w) hstep fun _ _ _ _ => trivial

theorem host_belonging {s : Settings} {own : String → String → Prop}
    {d : String} (h : Belonging s own w) (hlocal : Local s own d e)
    (hstep : (host permitted).Step w e r w') : Belonging s own w' := by
  obtain ⟨a, -, -, rfl⟩ := host_refines.performed hstep
  by_cases he : World.touchesBooks e = false
  · intro b runtime hget
    simp only [(World.perform_books he w a).1] at hget
    exact h b runtime hget
  · cases e with
    | upsertRuntime runtime =>
        have hbelongs := hlocal.belongs
        intro b runtime' hget
        simp only [World.perform, World.saved, Table.get?_upsert] at hget
        split at hget
        · rename_i hb
          cases hget
          rw [← hb, hbelongs.1]
          exact hbelongs
        · exact h b runtime' hget
    | removeRuntime c =>
        intro b runtime' hget
        simp only [World.perform, World.saved, Table.get?_remove] at hget
        split at hget
        · cases hget
        · exact h b runtime' hget
    | allocate _ _ _ => exact h
    | allocateSpecific _ _ => exact h
    | release _ => exact h
    | updateDeploymentStatus _ => exact h
    | _ => exact absurd rfl he

theorem backend_host {M : Machine Effect Effect.Ret Exn World} (hM : Refines M)
    {s : Settings} {guard : World → Effect → Prop} {d : String} {α : Type}
    {p : Agent α} {ends : Except Exn α → Prop}
    (hguard : ∀ w e, BackendCall anyContainer d e → guard w e)
    (hp : Always (Typed s anyContainer) (BackendCall anyContainer d) p ends) :
    Sat M guard p (fun r w' => ends r ∧ w'.runtimes = w.runtimes ∧
      w'.allocator = w.allocator) w := by
  have hsat := Always.sat (M := M) (s := w) hp
    fun _ _ _ _ _ hstep => host_typed s (hM.host hstep)
  refine (hsat.both (hsat.keeping (I := fun w' => w'.runtimes = w.runtimes ∧
    w'.allocator = w.allocator) ?_ ⟨rfl, rfl⟩)).mono
    (fun w e h => hguard w e h.1) fun r w' h => h.2
  rintro w₁ e r w₂ ⟨hruntimes, hallocator⟩ he hstep
  have htouches : World.touchesBooks e = false := by
    cases e <;> first | rfl | exact absurd he id
  obtain ⟨a, -, -, rfl⟩ := hM.performed hstep
  obtain ⟨hruntimes', -, hallocator', -⟩ := World.perform_books htouches w₁ a
  exact ⟨hruntimes'.trans hruntimes, hallocator'.trans hallocator⟩

theorem host_ledger {s : Settings} {d : String} {free : Nat → Prop}
    (hlocal : Local s anyContainer d e)
    (hstep : (host permitted).Step w e r w')
    (hfree : ∀ x, (∀ b, b ≠ d → x ∉ w.allocator.getAllocation b) → free x) :
    Ledger.Step s permitted free (w.ledger d) e r (w'.ledger d) := by
  have htyped := host_typed s hstep
  have huntouched := fun he => host_untouched he hstep d
  have hr := hstep.1
  obtain ⟨a, -, rfl, rfl⟩ := host_refines.performed hstep
  cases e with
  | allocate b n avoid =>
      obtain rfl : b = d := hlocal.owner_eq rfl
      rcases w.allocator.allocate_cases b n avoid with
        ⟨hn, h⟩ | ⟨-, message, h⟩ | ⟨hn, hle, h⟩
      · exact .inl ⟨hn, by simp [World.perform, h],
          by simp [World.perform, World.ledger, h, reportOf]⟩
      · exact .inr (.inl ⟨message, by simp [World.perform, h],
          by simp [World.perform, World.ledger, h, reportOf]⟩)
      · refine .inr (.inr ⟨hn, (w.allocator.usable avoid).take n.toNat,
          by simp [World.perform, h], ?_, ?_, fun x hx => hfree x ?_,
          by simp [World.perform, World.ledger, h, reportOf]⟩)
        · rw [List.length_take]
          omega
        · exact (w.allocator.usable_sorted avoid).sublist
            (List.take_sublist _ _)
        · have husable := List.mem_of_mem_take hx
          have hmem := (GpuAllocator.mem_usable.mp husable).1
          exact fun b' _ => (GpuAllocator.mem_freeDevices.mp hmem).2 b'
  | allocateSpecific b devices =>
      obtain rfl : b = d := hlocal.owner_eq rfl
      rcases w.allocator.allocateSpecific_cases b devices with
        ⟨hn, h⟩ | ⟨-, ⟨message, h⟩, -⟩ | ⟨hn, havailable, h⟩
      · exact .inl ⟨hn, by simp [World.perform, h],
          by simp [World.perform, World.ledger, h, reportOf]⟩
      · exact .inr (.inl ⟨message, by simp [World.perform, h],
          by simp [World.perform, World.ledger, h, reportOf]⟩)
      · refine .inr (.inr ⟨hn, by simp [World.perform, h], fun x hx => ?_,
          by simp [World.perform, World.ledger, h, reportOf]⟩)
        rcases havailable x hx with hx' | hx'
        · exact .inl (hfree x fun b' _ =>
            (GpuAllocator.mem_freeDevices.mp hx').2 b')
        · exact .inr hx'
  | release b =>
      obtain rfl : b = d := hlocal.owner_eq rfl
      exact ⟨rfl, by simp [World.perform, World.ledger, reportOf]⟩
  | getRuntime b =>
      obtain rfl : b = d := hlocal.owner_eq rfl
      exact ⟨rfl, huntouched rfl⟩
  | upsertRuntime runtime =>
      obtain rfl : runtime.deploymentId = d := hlocal.owner_eq rfl
      exact ⟨hr, by simp [World.perform, World.ledger, World.saved, reportOf,
        Table.get?_upsert]⟩
  | removeRuntime b =>
      obtain rfl : b = d := hlocal.owner_eq rfl
      exact ⟨hr, by simp [World.perform, World.ledger, World.saved, reportOf,
        Table.get?_remove]⟩
  | updateDeploymentStatus update =>
      obtain rfl : update.deploymentId = d := hlocal.owner_eq rfl
      exact ⟨hr, by simp [World.perform, World.ledger, reportOf]⟩
  | _ => exact ⟨hr, htyped, huntouched rfl⟩

theorem host_frame {s : Settings} {own : String → String → Prop}
    {d b : String} (hlocal : Local s own d e)
    (hstep : (host permitted).Step w e r w') (hb : b ≠ d) :
    w'.ledger b = w.ledger b := by
  have huntouched := fun he => host_untouched he hstep b
  obtain ⟨a, -, -, rfl⟩ := host_refines.performed hstep
  cases e with
  | allocate c n avoid =>
      obtain rfl : c = d := hlocal.owner_eq rfl
      rcases w.allocator.allocate_cases c n avoid with
        ⟨-, h⟩ | ⟨-, message, h⟩ | ⟨-, -, h⟩ <;>
        simp [World.perform, World.ledger, h, reportOf, hb.symm]
  | allocateSpecific c devices =>
      obtain rfl : c = d := hlocal.owner_eq rfl
      rcases w.allocator.allocateSpecific_cases c devices with
        ⟨-, h⟩ | ⟨-, ⟨message, h⟩, -⟩ | ⟨-, -, h⟩ <;>
        simp [World.perform, World.ledger, h, reportOf, hb.symm]
  | release c =>
      obtain rfl : c = d := hlocal.owner_eq rfl
      simp [World.perform, World.ledger, reportOf, hb.symm]
  | upsertRuntime runtime =>
      obtain rfl : runtime.deploymentId = d := hlocal.owner_eq rfl
      simp [World.perform, World.ledger, World.saved, reportOf,
        Table.get?_upsert, hb.symm]
  | removeRuntime c =>
      obtain rfl : c = d := hlocal.owner_eq rfl
      simp [World.perform, World.ledger, World.saved, reportOf,
        Table.get?_remove, hb.symm]
  | updateDeploymentStatus update =>
      obtain rfl : update.deploymentId = d := hlocal.owner_eq rfl
      simp [World.perform, World.ledger, reportOf, hb.symm]
  | _ => exact huntouched rfl

/-! ## Sound books on a node -/

def InServiceOn (w : World) (d : String) : Prop :=
  ∃ runtime, w.runtimes.get? d = some runtime ∧ InService runtime

/-- Held by no other deployment in service. -/
def FreeFor (w : World) (d : String) (x : Nat) : Prop :=
  ∀ b, b ≠ d → InServiceOn w b → x ∉ w.allocator.getAllocation b

def NodeSound (permitted : Permitted) (w : World) : Prop :=
  ∀ d, Ledger.Sound permitted (FreeFor w d) (w.ledger d)

theorem inServiceOn_congr {d : String} (h : w'.ledger d = w.ledger d) :
    InServiceOn w' d ↔ InServiceOn w d := by
  have hrecord : w'.runtimes.get? d = w.runtimes.get? d :=
    congrArg Ledger.record h
  unfold InServiceOn
  rw [hrecord]

theorem freeFor_congr {d : String} (h : ∀ b, b ≠ d → w'.ledger b = w.ledger b) :
    FreeFor w' d = FreeFor w d := by
  funext x
  refine propext (forall₂_congr fun b hb => ?_)
  have hheld : w'.allocator.getAllocation b = w.allocator.getAllocation b :=
    congrArg Ledger.held (h b hb)
  rw [inServiceOn_congr (h b hb), hheld]

theorem NodeSound.congr (h : NodeSound permitted w)
    (hledger : ∀ d, w'.ledger d = w.ledger d) : NodeSound permitted w' := by
  intro d
  rw [hledger d, freeFor_congr fun b _ => hledger b]
  exact h d

theorem NodeSound.update {d : String} (h : NodeSound permitted w)
    (hframe : ∀ b, b ≠ d → w'.ledger b = w.ledger b)
    (hd : Ledger.Sound permitted (FreeFor w d) (w'.ledger d)) :
    NodeSound permitted w' := by
  intro b
  by_cases hb : b = d
  · subst hb
    rw [freeFor_congr hframe]
    exact hd
  · have hbooks := h b
    rw [hframe b hb]
    refine ⟨hbooks.gone, fun runtime hrecord => ?_⟩
    have hfits := hbooks.fits runtime hrecord
    refine ⟨hfits.1, hfits.2, hfits.3, hfits.4, ?_, hfits.6⟩
    intro hfloor hpolite hservice x hx c hc hcservice
    by_cases hcd : c = d
    · subst hcd
      obtain ⟨other, hother, hotherService⟩ := hcservice
      intro hxc
      have hfree := (hd.fits other hother).clean hfloor hpolite hotherService
        x hxc
      exact hfree b hb ⟨runtime, hrecord, hservice⟩ hx
    · have hframe' := hframe c hcd
      have hheld : w'.allocator.getAllocation c =
          w.allocator.getAllocation c := congrArg Ledger.held hframe'
      rw [hheld]
      exact hfits.clean hfloor hpolite hservice x hx c hc
        ((inServiceOn_congr hframe').mp hcservice)

def World.Writes (permitted : Permitted) (w : World) (e : Effect) : Prop :=
  NodeAgent.Writes permitted (w.ledger (e.owner.getD "")) e

theorem Local.writes {s : Settings} {own : String → String → Prop} {d : String}
    (h : Local s own d e) (hwrite : Writes permitted (w.ledger d) e) :
    w.Writes permitted e := by
  cases e with
  | upsertRuntime runtime =>
      obtain rfl : runtime.deploymentId = d := h.owner_eq rfl
      exact hwrite
  | removeRuntime b =>
      obtain rfl : b = d := h.owner_eq rfl
      exact hwrite
  | _ => exact trivial

theorem sat_handler {α : Type} {s : Settings} {d : String} {p : Agent α}
    (hlocal : Within (Typed s anyContainer) (Local s anyContainer d) p
      fun _ => True)
    (hends : ∀ {free : Nat → Prop} {v : Ledger},
      Ledger.Sound permitted free v →
      Ledger.Ends s permitted free p
        (fun _ => Ledger.Sound permitted free) v)
    (h : NodeSound permitted w) :
    Sat (host permitted) (World.Writes permitted) p
      (fun _ w' => NodeSound permitted w') w := by
  have hsat : Sat (host permitted) (fun _ e => Local s anyContainer d e) p
      (fun _ _ => True) w :=
    (Always.sat hlocal.always fun _ _ _ _ _ hstep =>
      host_typed s hstep).weaken fun _ _ _ => trivial
  refine (Sat.simulate (R := fun w' v => v = w'.ledger d ∧
    ∀ b, b ≠ d → w'.ledger b = w.ledger b) ?_ ⟨rfl, fun _ _ => rfl⟩ hsat
    (hends (h d))).mono ?_ ?_
  · rintro w₁ _ e r w₂ ⟨rfl, hframe⟩ he hstep
    refine ⟨w₂.ledger d, host_ledger he hstep ?_, rfl, fun b hb => ?_⟩
    · intro x hx b hb _
      have hheld : w₁.allocator.getAllocation b =
          w.allocator.getAllocation b := congrArg Ledger.held (hframe b hb)
      rw [← hheld]
      exact hx b hb
    · exact (host_frame he hstep hb).trans (hframe b hb)
  · rintro w₁ e ⟨hcall, _, ⟨rfl, -⟩, hwrite⟩
    exact hcall.writes hwrite
  · rintro r w₁ ⟨_, ⟨rfl, hframe⟩, hsound⟩
    exact h.update hframe hsound

end NodeAgent
