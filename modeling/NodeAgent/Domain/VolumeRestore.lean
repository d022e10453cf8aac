import NodeAgent.Domain.VolumeBackup

/-!
# What a restore leaves

A member that escapes, a restore that raises, and a backup that is restored.
-/

namespace NodeAgent

open FileSystem

namespace LocalVolumeManager

variable {α : Type}

/-! ## Members that escape -/

section Escaping

variable {host : ArchiveHost α} {volume : StoredVolume} {backupUri : String}
  {t t' : HostTree α} {ms : List (ArchiveMember α)}

/-- The member's place is neither the volume nor inside it. -/
def Escapes (host : ArchiveHost α) (volume : StoredVolume)
    (member : ArchiveMember α) : Prop :=
  ¬rootOf host volume <+: memberPath host (volPath volume) member

/-- The place is told from the volume's by the text of its path. -/
def Recognized (host : ArchiveHost α) (volume : StoredVolume)
    (member : ArchiveMember α) : Prop :=
  ¬Alongside (rootOf host volume) (memberPath host (volPath volume) member)

/-- The restore raises `VolumeError` and the volume stays empty. -/
def Refused (host : ArchiveHost α) (volume : StoredVolume) (backupUri : String)
    (t t' : HostTree α) : Prop :=
  (∀ q, (restoreVolume host volume backupUri t).1.get? q = t'.get? q) ∧
    ∃ message, (restoreVolume host volume backupUri t).2 =
      .error (.volumeError message "volume_restore_failure")

/-- The path is neither in the volume nor above it. -/
def Outside (root q : List Name) : Prop :=
  ¬root <+: q ∧ ¬q <+: root

/-- Nothing changes outside of the volume. -/
def OutsideKept (host : ArchiveHost α) (volume : StoredVolume)
    (backupUri : String) (t : HostTree α) : Prop :=
  ∀ q, Outside (rootOf host volume) q →
    (restoreVolume host volume backupUri t).1.get? q = t.get? q

/-- The extraction fails while everything still stands as it stood. -/
def FailsAtOnce (host : ArchiveHost α) (root : List Name)
    (ms : List (ArchiveMember α)) (look : Tarfile.View α) : Prop :=
  ∃ before member, StopsAt host root look ms before member ∧
    ¬OtherTrouble host before ∧ leftAt host root look before member = look

def piecesGone (host : ArchiveHost α) (before : List (ArchiveMember α))
    (member : ArchiveMember α) : List Piece :=
  match host.trouble before.length with
  | some (.above left, _) => (Tarfile.wayTo member.name).drop left
  | _ => Tarfile.wayTo member.name

/-- A directory is missing there on the way to a member that is extracted. -/
def Makes (host : ArchiveHost α) (root : List Name) (look : Tarfile.View α)
    (ms : List (ArchiveMember α)) (q : List Name) : Prop :=
  ∃ before member, before ++ [member] <+: ms ∧ AllGoIn host root look before ∧
    Tarfile.made (contents root before look) (Tarfile.startOf root member.name)
      (piecesGone host before member) q = true

theorem not_admitted_iff :
    ¬Admitted host volume ms ↔
      ∃ member ∈ ms, Escapes host volume member ∧ Recognized host volume member := by
  simp [Admitted, isSafe_iff, Escapes, Recognized]

/-! ### Paths outside of the volume -/

section Sides

variable {root q : List Name} {look : Tarfile.View α}
  {before : List (ArchiveMember α)} {member : ArchiveMember α}

def NotPlaced (root : List Name) (ms : List (ArchiveMember α)) (q : List Name) :
    Prop :=
  ∀ member ∈ ms, q ≠ Tarfile.placeOf root member.name

theorem NotPlaced.of_prefix (h : NotPlaced root ms q) (hpre : before <+: ms) :
    NotPlaced root before q :=
  fun member hmember => h member (hpre.subset hmember)

theorem leftAt_side (hq : q ≠ Tarfile.placeOf root member.name) :
    leftAt host root look before member q =
      Tarfile.passed (contents root before look)
        (Tarfile.startOf root member.name) (piecesGone host before member) q := by
  have hafter : ∀ node, Tarfile.after (contents root before look) root
      member.name node q = Tarfile.passed (contents root before look)
        (Tarfile.startOf root member.name) (Tarfile.wayTo member.name) q := by
    intro node
    rw [Tarfile.after]
    split
    · rfl
    · rw [Tarfile.put, if_neg hq]
  unfold leftAt piecesGone
  cases host.trouble before.length with
  | none => exact hafter member.node
  | some trouble =>
      obtain ⟨halt, e⟩ := trouble
      cases halt with
      | above left => rfl
      | leaving node => exact hafter node

theorem contents_side (hgo : AllGoIn host root look before)
    (hplaced : NotPlaced root before q) (hmakes : ¬Makes host root look before q) :
    contents root before look q = look q := by
  induction before using List.reverseRecOn with
  | nil => rfl
  | append_singleton before member ih =>
      obtain ⟨hbefore, hmember⟩ := allGoIn_concat.mp hgo
      have hpre : before <+: before ++ [member] := List.prefix_append _ _
      have hkept := ih hbefore (hplaced.of_prefix hpre)
        fun ⟨first, last, hlisted, hgo, hmade⟩ =>
          hmakes ⟨first, last, hlisted.trans hpre, hgo, hmade⟩
      rw [← leftAt_of_goesIn hmember,
        leftAt_side (hplaced member (by simp)), Tarfile.passed_of_not_made, hkept]
      exact Bool.eq_false_iff.mpr fun hmade =>
        hmakes ⟨before, member, List.prefix_rfl, hbefore, hmade⟩

theorem contents_later {node : Node α} (hpre : before <+: ms)
    (hplaced : NotPlaced root ms q)
    (h : contents root before look q = some node) :
    contents root ms look q = some node := by
  obtain ⟨rest, rfl⟩ := hpre
  rw [contents, List.foldl_append]
  refine contents_keeps h fun hmem => ?_
  obtain ⟨member, hmember, rfl⟩ := List.mem_map.mp hmem
  exact hplaced member (by simp [hmember]) rfl

theorem leftAt_made (hq : q ≠ Tarfile.placeOf root member.name)
    (hmade : Tarfile.made (contents root before look)
      (Tarfile.startOf root member.name) (piecesGone host before member) q = true) :
    leftAt host root look before member q = some .dir := by
  rw [leftAt_side hq, Tarfile.passed, if_pos hmade]

theorem contents_made {first : List (ArchiveMember α)} {last : ArchiveMember α}
    (hgo : AllGoIn host root look before) (hplaced : NotPlaced root before q)
    (hlisted : first ++ [last] <+: before)
    (hmade : Tarfile.made (contents root first look)
      (Tarfile.startOf root last.name) (piecesGone host first last) q = true) :
    contents root before look q = some .dir := by
  have hlast : q ≠ Tarfile.placeOf root last.name :=
    hplaced last (hlisted.subset (by simp))
  refine contents_later hlisted hplaced ?_
  rw [← leftAt_of_goesIn (hgo first last hlisted), leftAt_made hlast hmade]

theorem none_of_makes (hplaced : NotPlaced root ms q)
    (hmakes : Makes host root look ms q) : look q = none := by
  obtain ⟨first, last, hlisted, -, hmade⟩ := hmakes
  have hfirst : first <+: ms := (List.prefix_append _ _).trans hlisted
  cases hget : look q with
  | none => rfl
  | some node =>
      have hstart : contents root [] look q = some node := hget
      have hlater := contents_later List.nil_prefix (hplaced.of_prefix hfirst)
        hstart
      rw [Tarfile.isNone_of_made hmade] at hlater
      cases hlater

theorem extracted_side_iff (hplaced : NotPlaced root ms q) :
    (extractAll host root ms t).1.get? q = t.get? q ↔
      ¬Makes host root t.get? ms q := by
  rcases extractAll_cases host root ms t with
    ⟨hall, after, hextract, hget⟩ |
      ⟨before, member, hstop, after, e, hextract, hget, -⟩
  · rw [hextract, hget]
    refine ⟨fun hkept hmakes => ?_, contents_side hall hplaced⟩
    have hnone := none_of_makes hplaced hmakes
    obtain ⟨first, last, hlisted, -, hmade⟩ := hmakes
    rw [contents_made hall hplaced hlisted hmade, hnone] at hkept
    cases hkept
  · have hbefore : before <+: ms := (List.prefix_append _ _).trans hstop.listed
    have hmember : q ≠ Tarfile.placeOf root member.name :=
      hplaced member (hstop.listed.subset (by simp))
    rw [hextract, hget]
    refine ⟨fun hkept hmakes => ?_, fun hmakes => ?_⟩
    · have hnone := none_of_makes hplaced hmakes
      obtain ⟨first, last, hlisted, hgo, hmade⟩ := hmakes
      have hdir : leftAt host root t.get? before member q = some .dir := by
        rcases hstop.compare hlisted hgo with ⟨rfl, rfl⟩ | hpre
        · exact leftAt_made hmember hmade
        · rw [leftAt_side hmember]
          exact Tarfile.passed_of_some (contents_made hstop.goIn
            (hplaced.of_prefix hbefore) hpre hmade)
      rw [hdir, hnone] at hkept
      cases hkept
    · rw [leftAt_side hmember, Tarfile.passed_of_not_made, contents_side hstop.goIn
        (hplaced.of_prefix hbefore) fun ⟨first, last, hlisted, hgo, hmade⟩ =>
          hmakes ⟨first, last, hlisted.trans hbefore, hgo, hmade⟩]
      exact Bool.eq_false_iff.mpr fun hmade =>
        hmakes ⟨before, member, hstop.listed, hstop.goIn, hmade⟩

end Sides

/-! ### The check of the names -/

theorem restore_extracted (h : Lists host volume backupUri t t' ms)
    (hadmitted : Admitted host volume ms) :
    (restoreVolume host volume backupUri t).1 =
      (extractAll host (rootOf host volume) ms t').1 := by
  rw [restore_admitted h hadmitted]
  rcases extractAll host (rootOf host volume) ms t' with ⟨after, _ | e⟩ <;> rfl

theorem refused_of_admitted_iff (h : Lists host volume backupUri t t' ms)
    (hadmitted : Admitted host volume ms) :
    Refused host volume backupUri t t' ↔
      FailsAtOnce host (rootOf host volume) ms t'.get? := by
  rw [Refused, restore_admitted h hadmitted, FailsAtOnce]
  rcases extractAll_cases host (rootOf host volume) ms t' with
    ⟨hall, after, hextract, hget⟩ |
      ⟨before, member, hstop, after, e, hextract, hget, hother⟩
  · rw [hextract]
    refine ⟨fun ⟨_, _, hraised⟩ => ?_, fun ⟨_, _, hstop, _⟩ =>
      absurd hall hstop.not_allGoIn⟩
    cases hraised
  · have hstops : (∃ before member, StopsAt host (rootOf host volume) t'.get? ms
          before member ∧ ¬OtherTrouble host before ∧
          leftAt host (rootOf host volume) t'.get? before member = t'.get?) ↔
        ¬OtherTrouble host before ∧ after.get? = t'.get? := by
      rw [hget]
      constructor
      · rintro ⟨first, last, hfirst, hrest⟩
        obtain ⟨rfl, rfl⟩ := hstop.unique hfirst
        exact hrest
      · exact fun hrest => ⟨before, member, hstop, hrest⟩
    rw [hextract, hstops, ← hother, funext_iff]
    cases e <;> simp [finish, restoreFailed]

theorem outsideKept_of_refused (h : Lists host volume backupUri t t' ms)
    (hrefused : Refused host volume backupUri t t') :
    OutsideKept host volume backupUri t := by
  intro q hq
  rw [hrefused.1 q]
  exact emptied_frame h.emptied hq.1 hq.2

theorem notPlaced_outside (hinside : ∀ member ∈ ms, ¬Escapes host volume member)
    {q : List Name} (hq : Outside (rootOf host volume) q) :
    NotPlaced (rootOf host volume) ms q := by
  rintro member hmember rfl
  have hroot := not_not.mp (hinside member hmember)
  rw [memberPath_eq] at hroot
  exact hq.1 hroot

theorem outsideKept_iff (h : Lists host volume backupUri t t' ms)
    (hadmitted : Admitted host volume ms)
    (hinside : ∀ member ∈ ms, ¬Escapes host volume member) :
    OutsideKept host volume backupUri t ↔
      ∀ q, Outside (rootOf host volume) q →
        ¬Makes host (rootOf host volume) t'.get? ms q := by
  refine forall₂_congr fun q hq => ?_
  rw [restore_extracted h hadmitted, ← emptied_frame h.emptied hq.1 hq.2]
  exact extracted_side_iff (notPlaced_outside hinside hq)

end Escaping

def neighbourMembers : List (ArchiveMember Blob) :=
  [⟨"../dep-10/x", .file (.text "planted")⟩]

/-- Two volumes and an archive with a member for the other one. -/
def neighbours : HostTree Blob :=
  planted [("/b.tar.gz", .file (.archive [("../dep-10/x", some (.text "planted"))])),
    ("/vols/dep-1", .dir), ("/vols/dep-10", .dir)]

def neighboursEmptied : HostTree Blob :=
  (emptied neighbours (rootOf plainHost tenantVolume)).toOption.getD neighbours

theorem neighbours_listed : Lists plainHost tenantVolume "/b.tar.gz" neighbours
    neighboursEmptied neighbourMembers where
  archive := by decide
  emptied := by rfl
  members := by rfl

/-- A directory in the other volume, on the way back to this one. -/
example : (restoreVolume plainHost tenantVolume "/b.tar.gz"
    (planted [("/b.tar.gz", .file (.archive
        [("../dep-10/new/../../dep-1/x", some (.text "weights"))])),
      ("/vols/dep-1", .dir), ("/vols/dep-10", .dir)])).1.isDir
    ((RawPath.parse "/vols/dep-10/new").resolve []) = true := by
  decide

/-! ## Restores that raise -/

section Raising

variable {host : ArchiveHost α} {volume : StoredVolume} {backupUri : String}
  {t : HostTree α}

/-- The same names with the same nodes below a directory. -/
def SameContent (t after : HostTree α) (root : List Name) : Prop :=
  ∀ rel, rel ≠ [] → after.get? (root ++ rel) = t.get? (root ++ rel)

/-- Nothing stands below a directory. -/
def Vacant (t : HostTree α) (root : List Name) : Prop :=
  ∀ rel, rel ≠ [] → t.get? (root ++ rel) = none

/-- The restore gets as far as the extraction. -/
def Begins (host : ArchiveHost α) (volume : StoredVolume) (backupUri : String)
    (t t' : HostTree α) (ms : List (ArchiveMember α)) : Prop :=
  Lists host volume backupUri t t' ms ∧ Admitted host volume ms

theorem restore_early
    (harchive : (t.get? ((RawPath.parse backupUri).resolve host.cwd)).isSome)
    (hearly : ¬∃ t' ms, Begins host volume backupUri t t' ms) :
    (∃ e, (restoreVolume host volume backupUri t).2 = .error e) ∧
      Vacant (restoreVolume host volume backupUri t).1 (rootOf host volume) := by
  have hthere : ¬(t.get? ((RawPath.parse backupUri).resolve host.cwd)).isNone := by
    simpa [Option.isSome_iff_ne_none] using harchive
  cases hemptied : emptied t (rootOf host volume) with
  | error fault =>
      simp only [restoreVolume, if_neg hthere, hemptied]
      exact ⟨⟨_, rfl⟩, fun rel => cleared_below t (rootOf host volume)⟩
  | ok t' =>
      have hvacant : Vacant t' (rootOf host volume) := fun rel =>
        emptied_inside hemptied
      cases hopen : openArchive host t'
          ((RawPath.parse backupUri).resolve host.cwd) with
      | error e =>
          simp only [restoreVolume, if_neg hthere, hemptied, hopen]
          exact ⟨⟨_, rfl⟩, hvacant⟩
      | ok ms =>
          have hlists : Lists host volume backupUri t t' ms :=
            ⟨harchive, hemptied, hopen⟩
          obtain ⟨name, hrefused⟩ := restore_rejected hlists fun hadmitted =>
            hearly ⟨t', ms, hlists, hadmitted⟩
          rw [hrefused]
          exact ⟨⟨_, rfl⟩, hvacant⟩

theorem sameContent_of_vacant {after : HostTree α} {root : List Name}
    (h : Vacant after root) : SameContent t after root ↔ Vacant t root := by
  refine forall₂_congr fun rel hrel => ?_
  rw [h rel hrel, eq_comm]

theorem Begins.unique {t₁ t₂ : HostTree α} {ms₁ ms₂ : List (ArchiveMember α)}
    (h₁ : Begins host volume backupUri t t₁ ms₁)
    (h₂ : Begins host volume backupUri t t₂ ms₂) : t₁ = t₂ ∧ ms₁ = ms₂ := by
  obtain rfl := Except.ok.inj (h₁.1.emptied.symm.trans h₂.1.emptied)
  exact ⟨rfl, Except.ok.inj (h₁.1.members.symm.trans h₂.1.members)⟩

/-- The extraction stops when the volume holds what it held. -/
def StopsRestored (host : ArchiveHost α) (root : List Name)
    (ms : List (ArchiveMember α)) (t t' : HostTree α) : Prop :=
  ∃ before member, StopsAt host root t'.get? ms before member ∧
    ∀ rel, rel ≠ [] →
      leftAt host root t'.get? before member (root ++ rel) = t.get? (root ++ rel)

theorem kept_of_begins_iff {t' : HostTree α} {ms : List (ArchiveMember α)}
    (h : Begins host volume backupUri t t' ms) :
    ((∃ e, (restoreVolume host volume backupUri t).2 = .error e) →
        SameContent t (restoreVolume host volume backupUri t).1
          (rootOf host volume)) ↔
      AllGoIn host (rootOf host volume) t'.get? ms ∨
        StopsRestored host (rootOf host volume) ms t t' := by
  rw [restore_admitted h.1 h.2]
  rcases extractAll_cases host (rootOf host volume) ms t' with
    ⟨hall, after, hextract, -⟩ |
      ⟨before, member, hstop, after, e, hextract, hget, -⟩
  · simp [hextract, finish, hall]
  · have hstops : StopsRestored host (rootOf host volume) ms t t' ↔
        SameContent t after (rootOf host volume) := by
      unfold StopsRestored SameContent
      rw [hget]
      constructor
      · rintro ⟨first, last, hfirst, hsame⟩
        obtain ⟨rfl, rfl⟩ := hstop.unique hfirst
        exact hsame
      · exact fun hsame => ⟨before, member, hstop, hsame⟩
    simp [hextract, finish, hstops, hstop.not_allGoIn]

end Raising

/-- A volume with a file, and an archive that cannot be read. -/
def unreadable : HostTree Blob :=
  planted [("/b.tar.gz", .file (.text "truncated")),
    ("/vols/dep-1/model.bin", .file (.text "weights"))]

section RoundTrip

variable {host : ArchiveHost α}

theorem memberPath_memberName (path : RawPath) (names : List Name)
    (node : Node α) :
    memberPath host path ⟨RawPath.memberName names, node⟩ =
      path.resolve host.cwd ++ names := by
  rw [memberPath, RawPath.join_memberName, RawPath.resolve_append]

theorem mem_archived {t : HostTree α} {root archive rel : List Name}
    {node : Node α} (hnode : t.get? (root ++ rel) = some node)
    (harchive : root ++ rel ≠ archive) :
    ⟨RawPath.memberName (volumeName :: rel), node⟩ ∈ archived t root archive := by
  have hlisted : root ++ rel ∈
      (root :: (t.below root).insertionSort (· ≤ ·)).filter (· ≠ archive) := by
    refine List.mem_filter.mpr ⟨?_, by simpa using harchive⟩
    by_cases hrel : rel = []
    · simp [hrel]
    · refine List.mem_cons_of_mem _ ((List.mem_insertionSort _).mpr ?_)
      exact Tree.mem_below.mpr ⟨by rw [hnode]; rfl, List.prefix_append _ _,
        by simpa using hrel⟩
  refine List.mem_filterMap.mpr ⟨_, hlisted, ?_⟩
  rw [hnode, List.drop_left]
  rfl

theorem archived_nodup (path : RawPath) (t : HostTree α)
    (root archive : List Name) :
    ((archived t root archive).map (memberPath host path)).Nodup := by
  have hpaths : (root :: (t.below root).insertionSort (· ≤ ·)).Nodup := by
    refine List.nodup_cons.mpr ⟨fun hroot => ?_, ?_⟩
    · exact (Tree.mem_below.mp ((List.mem_insertionSort _).mp hroot)).2.2 rfl
    · exact (List.perm_insertionSort _ _).nodup_iff.mpr (t.below_nodup root)
  have hinside : ∀ q ∈ root :: (t.below root).insertionSort (· ≤ ·),
      root <+: q := by
    intro q hq
    rcases List.mem_cons.mp hq with rfl | hbelow
    · exact List.prefix_refl _
    · exact (Tree.mem_below.mp ((List.mem_insertionSort _).mp hbelow)).2.1
  rw [archived, List.Nodup, List.pairwise_map, List.pairwise_filterMap]
  refine ((hpaths.filter _).imp_of_mem fun {p q} hp hq hne => ?_)
  obtain ⟨r, rfl⟩ := hinside p (List.mem_of_mem_filter hp)
  obtain ⟨r', rfl⟩ := hinside q (List.mem_of_mem_filter hq)
  intro member hmember member' hmember'
  obtain ⟨node, -, rfl⟩ := Option.map_eq_some_iff.mp hmember
  obtain ⟨node', -, rfl⟩ := Option.map_eq_some_iff.mp hmember'
  rw [memberPath_memberName, memberPath_memberName, List.drop_left, List.drop_left]
  simpa using hne

variable {volume record : StoredVolume} {baseDir : RawPath} {now : Nat}
  {uri : String} {t₀ t₁ t₂ : HostTree α}

theorem backup_cases
    (h : backupVolume baseDir host volume now t₀ = .ok (record, t₁)) :
    ∃ content,
      host.pack (archived t₀ (rootOf host volume)
        ((backupPath baseDir volume).resolve host.cwd)) = .ok content ∧
      t₀.place ((backupPath baseDir volume).resolve host.cwd) (.file content) =
        .ok t₁ ∧
      record.backupUri = some (backupPath baseDir volume).text ∧
      record.path = volume.path := by
  unfold backupVolume at h
  dsimp only at h
  split at h
  · cases h
  · split at h
    · cases h
    · next content hpack =>
        split at h
        · cases h
        · next hplace =>
            cases h
            exact ⟨content, hpack, hplace, rfl, rfl⟩

theorem restore_ok {restored : StoredVolume}
    (h : (restoreVolume host volume uri t₂).2 = .ok restored) :
    ∃ t' ms, Begins host volume uri t₂ t' ms ∧
      extractAll host (rootOf host volume) ms t' =
        ((restoreVolume host volume uri t₂).1, none) := by
  have harchive : (t₂.get? ((RawPath.parse uri).resolve host.cwd)).isSome := by
    by_contra hmissing
    have hnone := Option.not_isSome_iff_eq_none.mp hmissing
    simp [restoreVolume, hnone] at h
  by_cases hbegins : ∃ t' ms, Begins host volume uri t₂ t' ms
  · obtain ⟨t', ms, hms⟩ := hbegins
    refine ⟨t', ms, hms, ?_⟩
    rw [restore_admitted hms.1 hms.2] at h ⊢
    generalize extractAll host (rootOf host volume) ms t' = result at h ⊢
    obtain ⟨after, _ | e⟩ := result
    · rfl
    · cases h
  · obtain ⟨⟨e, hraises⟩, -⟩ := restore_early harchive hbegins
    rw [hraises] at h
    cases h

theorem members_of_backup
    (hdir : t₀.get? (rootOf host volume) = some .dir)
    (hbackup : backupVolume baseDir host volume now t₀ = .ok (record, t₁))
    (huri : record.backupUri = some uri)
    (hfaithful : ∀ ms content, host.pack ms = .ok content →
      host.members content = .ok ms)
    (hinterim : ∀ q, ¬rootOf host volume <+: q → t₂.get? q = t₁.get? q)
    {t' : HostTree α} {ms : List (ArchiveMember α)}
    (hlists : Lists host record uri t₂ t' ms) :
    ∃ archive, ms = archived t₀ (rootOf host volume) archive ∧
      ¬rootOf host volume <+: archive := by
  obtain ⟨content, hpack, hplace, huri', hpath⟩ := backup_cases hbackup
  obtain rfl : (backupPath baseDir volume).text = uri :=
    Option.some.inj (huri'.symm.trans huri)
  have hroot : rootOf host record = rootOf host volume := by
    rw [rootOf, rootOf, volPath, volPath, hpath]
  have hmembers := hlists.members
  have hemptied := hlists.emptied
  rw [hroot] at hemptied
  rw [RawPath.parse_text] at hmembers
  generalize (backupPath baseDir volume).resolve host.cwd = archive at *
  have hfree := Tree.free_of_place hplace
  have hinside : ¬rootOf host volume <+: archive := by
    rintro ⟨rel, rfl⟩
    have hrel : rel ≠ [] := by
      rintro rfl
      exact hfree (by rw [List.append_nil, hdir])
    rw [openArchive, emptied_inside hemptied hrel] at hmembers
    cases hmembers
  have habove : ¬archive <+: rootOf host volume := by
    intro hpre
    by_cases hne : archive = rootOf host volume
    · exact hfree (hne ▸ hdir)
    · exact hfree (Tree.dir_above hpre hne (by rw [hdir]; rfl))
  have hfile : t'.get? archive = some (.file content) := by
    rw [emptied_frame hemptied hinside habove, hinterim archive hinside,
      Tree.get?_place hplace, if_pos rfl]
  rw [openArchive, hfile] at hmembers
  exact ⟨archive, Except.ok.inj (hmembers.symm.trans (hfaithful _ _ hpack)), hinside⟩

/-- The restore goes through and gives back what the volume held. -/
def Restores (host : ArchiveHost α) (volume : StoredVolume) (backupUri : String)
    (t₀ t : HostTree α) : Prop :=
  (∃ restored, (restoreVolume host volume backupUri t).2 = .ok restored) ∧
    ∀ rel, (restoreVolume host volume backupUri t).1.get?
      (rootOf host volume ++ rel) = t₀.get? (rootOf host volume ++ rel)

theorem restored_nested
    (hdir : t₀.get? (rootOf host volume) = some .dir)
    (hbackup : backupVolume baseDir host volume now t₀ = .ok (record, t₁))
    (huri : record.backupUri = some uri)
    (hfaithful : ∀ ms content, host.pack ms = .ok content →
      host.members content = .ok ms)
    (hinterim : ∀ q, ¬rootOf host volume <+: q → t₂.get? q = t₁.get? q)
    {restored : StoredVolume}
    (hok : (restoreVolume host record uri t₂).2 = .ok restored)
    {rel : List Name} {node : Node α}
    (hnode : t₀.get? (rootOf host volume ++ rel) = some node) :
    (restoreVolume host record uri t₂).1.get?
      (rootOf host volume ++ volumeName :: rel) = some node := by
  obtain ⟨t', ms, ⟨hlists, -⟩, hextract⟩ := restore_ok hok
  obtain ⟨archive, rfl, hinside⟩ :=
    members_of_backup hdir hbackup huri hfaithful hinterim hlists
  obtain ⟨-, -, -, -, hpath⟩ := backup_cases hbackup
  have hroot : (volPath record).resolve host.cwd = rootOf host volume := by
    rw [rootOf, volPath, volPath, hpath]
  have hmember := @mem_archived α t₀ _ archive rel node hnode (by
    rintro rfl
    exact hinside (List.prefix_append _ _))
  have hnodup := @archived_nodup α host (volPath record) t₀
    (rootOf host volume) archive
  rw [funext (memberPath_eq host record)] at hnodup
  rcases extractAll_cases host (rootOf host record) _ t' with
    ⟨-, after, hafter, hget⟩ | ⟨_, _, _, _, e, hfails, -⟩
  · rw [hextract] at hafter
    obtain rfl := congrArg Prod.fst hafter
    have hheld := @contents_holds α (rootOf host record) t'.get? _ hnodup _ hmember
    rwa [← hget, ← memberPath_eq, memberPath_memberName, hroot] at hheld
  · rw [hextract] at hfails
    cases congrArg Prod.snd hfails

/-- The volume that comes back is never the one that was backed up. -/
theorem backup_never_restored
    (hdir : t₀.get? (rootOf host volume) = some .dir)
    (hbackup : backupVolume baseDir host volume now t₀ = .ok (record, t₁))
    (huri : record.backupUri = some uri)
    (hfaithful : ∀ ms content, host.pack ms = .ok content →
      host.members content = .ok ms)
    (hinterim : ∀ q, ¬rootOf host volume <+: q → t₂.get? q = t₁.get? q) :
    ¬Restores host record uri t₀ t₂ := by
  rintro ⟨⟨restored, hok⟩, hsame⟩
  obtain ⟨-, -, -, -, hpath⟩ := backup_cases hbackup
  have hroot : rootOf host record = rootOf host volume := by
    rw [rootOf, rootOf, volPath, volPath, hpath]
  rw [hroot] at hsame
  have hnested : ∀ n, t₀.get?
      (rootOf host volume ++ List.replicate n volumeName) = some .dir := by
    intro n
    induction n with
    | zero => simpa using hdir
    | succ n ih =>
        rw [List.replicate_succ, ← hsame]
        exact restored_nested hdir hbackup huri hfaithful hinterim hok ih
  obtain ⟨bound, hbound⟩ := t₀.bounded
  have hlong := hbound _ (by rw [hnested (bound + 1)]; rfl)
  simp only [List.length_append, List.length_replicate] at hlong
  omega

end RoundTrip

def oneFile : HostTree Blob :=
  planted [("/vols/.backups", .dir),
    ("/vols/dep-1/model.bin", .file (.text "weights"))]

def backedUp : StoredVolume × HostTree Blob :=
  (backupVolume (.parse "/vols") plainHost tenantVolume 0 oneFile).toOption.getD
    (tenantVolume, oneFile)

theorem oneFile_backed_up :
    backupVolume (.parse "/vols") plainHost tenantVolume 0 oneFile =
        .ok (backedUp.1, backedUp.2) ∧
      backedUp.1.backupUri = some "/vols/.backups/vol-1.tar.gz" :=
  ⟨by rfl, by decide⟩

theorem oneFile_dir :
    oneFile.get? (rootOf plainHost tenantVolume) = some .dir :=
  Tree.isDir_iff.mp (by decide)

theorem backup_never_restored_oneFile :
    ¬Restores plainHost backedUp.1 "/vols/.backups/vol-1.tar.gz" oneFile
      backedUp.2 :=
  backup_never_restored oneFile_dir oneFile_backed_up.1 oneFile_backed_up.2
    plainHost_faithful fun _ _ => rfl

/-- The file of the volume comes back in a directory `volume`. -/
theorem restored_one_directory_too_deep :
    backupVolume (.parse "/vols") plainHost tenantVolume 0 oneFile =
        .ok (backedUp.1, backedUp.2) ∧
      backedUp.1.backupUri = some "/vols/.backups/vol-1.tar.gz" ∧
      (restoreVolume plainHost backedUp.1 "/vols/.backups/vol-1.tar.gz"
        backedUp.2).2.isOk ∧
      ¬Restores plainHost backedUp.1 "/vols/.backups/vol-1.tar.gz" oneFile
        backedUp.2 := by
  refine ⟨oneFile_backed_up.1, oneFile_backed_up.2, by decide, ?_⟩
  rintro ⟨-, hsame⟩
  have hlost := congrArg Option.isSome (hsame [⟨"model.bin", by decide⟩])
  revert hlost
  decide

end LocalVolumeManager
end NodeAgent
