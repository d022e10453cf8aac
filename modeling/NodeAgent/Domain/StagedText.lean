import NodeAgent.Domain.StagedCache
import NodeAgent.Foundation.JsonPrefix
import NodeAgent.Foundation.JsonSorted
import NodeAgent.Protocol

/-!
# The artifacts in the cache

A staged artifact is a JSON file of the cache directory.  The store keeps one
for each deployment until it is staged anew, deleted or evicted.
-/

namespace NodeAgent

open FileSystem JsonText Effectful

namespace StagedArtifactStore

variable {F : Type}

/-! ## The files -/

/-- The arguments of `stage_artifact` and the time, all but the deployment. -/
structure Staged (F : Type) where
  buildId : String
  image : String
  artifactUri : String
  artifactDigest : String
  registryManifestUri : Option String
  contextManifestUri : Option String
  dockerfilePath : Option String
  payload : List (String × Value F)
  stagedAt : String
  proper : (Value.obj payload).Proper

/-- An `ArtifactBundle`. -/
structure Bundle (F : Type) where
  buildId : String
  image : String
  artifactUri : String
  artifactDigest : String
  registryManifestUri : Option String
  contextManifestUri : Option String
  dockerfilePath : Option String
  stagedArtifactPath : List String
  payload : List (String × Value F)

def orNull : Option String → Value F
  | none => .null
  | some text => .str text

namespace Staged

def body (staged : Staged F) : List (String × Value F) :=
  [("build_id", .str staged.buildId), ("image", .str staged.image),
    ("artifact_uri", .str staged.artifactUri),
    ("artifact_digest", .str staged.artifactDigest),
    ("registry_manifest_uri", orNull staged.registryManifestUri),
    ("context_manifest_uri", orNull staged.contextManifestUri),
    ("dockerfile_path", orNull staged.dockerfilePath),
    ("payload", .obj staged.payload), ("staged_at", .str staged.stagedAt)]

/-- What `stage_artifact` writes. -/
def text (floats : Floats F) (staged : Staged F) : List Char :=
  dumps floats (Value.obj staged.body).sortKeys

/-- What `stage_artifact` returns, its payload with sorted keys. -/
def bundle (staged : Staged F) (path : List String) : Bundle F where
  buildId := staged.buildId
  image := staged.image
  artifactUri := staged.artifactUri
  artifactDigest := staged.artifactDigest
  registryManifestUri := staged.registryManifestUri
  contextManifestUri := staged.contextManifestUri
  dockerfilePath := staged.dockerfilePath
  stagedArtifactPath := path
  payload := sortedByName (sortFields staged.payload)

end Staged

def validationError : Exn := .unexpected "ValidationError: ArtifactBundle"

def stringField (key : String) (fields : List (String × Value F)) :
    Except Exn String :=
  match Dict.lookupIn key fields with
  | some (.str text) => .ok text
  | _ => .error validationError

def optionalField (key : String) (fields : List (String × Value F)) :
    Except Exn (Option String) :=
  match Dict.lookupIn key fields with
  | some (.str text) => .ok (some text)
  | some .null | none => .ok none
  | _ => .error validationError

def payloadField (fields : List (String × Value F)) :
    Except Exn (List (String × Value F)) :=
  match Dict.lookupIn "payload" fields with
  | some (.obj payload) => .ok payload
  | none => .ok []
  | _ => .error validationError

/-- `ArtifactBundle(**body, staged_artifact_path=...)` -/
def parseBundle (path : List String) (fields : List (String × Value F)) :
    Except Exn (Bundle F) :=
  if (Dict.lookupIn "staged_artifact_path" fields).isSome then
    .error (.unexpected
      "TypeError: got multiple values for 'staged_artifact_path'")
  else do
    let buildId ← stringField "build_id" fields
    let image ← stringField "image" fields
    let artifactUri ← stringField "artifact_uri" fields
    let artifactDigest ← stringField "artifact_digest" fields
    let registryManifestUri ← optionalField "registry_manifest_uri" fields
    let contextManifestUri ← optionalField "context_manifest_uri" fields
    let dockerfilePath ← optionalField "dockerfile_path" fields
    let payload ← payloadField fields
    pure { buildId, image, artifactUri, artifactDigest, registryManifestUri,
           contextManifestUri, dockerfilePath, payload,
           stagedArtifactPath := path }

def hasSha256 (digest : String) : Bool :=
  "sha256:".toList.isPrefixOf digest.toList

def digestInvalid : Exn :=
  .inferenceRuntimeError "staged artifact digest is invalid" "pull_artifact"

def loadText (floats : Floats F) (path : List String) (text : List Char) :
    Except Exn (Bundle F) :=
  match loads floats text with
  | none => .error (.jsonDecodeError "")
  | some (.obj fields) =>
      match Dict.lookupIn "artifact_digest" fields with
      | some (.str digest) =>
          if hasSha256 digest then parseBundle path fields
          else .error digestInvalid
      | _ => .error digestInvalid
  | some _ => .error (.unexpected "AttributeError: get")

def missing (path : List String) : Exn :=
  .inferenceRuntimeError
    ("staged artifact missing: /" ++ "/".intercalate path) "pull_artifact"

def loadStagedArtifact (floats : Floats F) (path : List String)
    (t : Files (List Char)) : Except Exn (Bundle F) :=
  match t.get? path with
  | none => .error (missing path)
  | some .dir => .error (.unexpected "IsADirectoryError")
  | some (.file text) => loadText floats path text

/-! ## One file -/

theorem body_proper (staged : Staged F) : (Value.obj staged.body).Proper := by
  refine ⟨by simp [Staged.body], ?_⟩
  have hpayload := staged.proper
  obtain ⟨_, _, _, _, uri, context, dockerfile, _, _, _⟩ := staged
  cases uri <;> cases context <;> cases dockerfile <;>
    exact ⟨trivial, trivial, trivial, trivial, trivial, trivial, trivial,
      hpayload, trivial, trivial⟩

theorem lookupIn_file (staged : Staged F) (key : String) :
    Dict.lookupIn key (sortedByName (sortFields staged.body)) =
      (Dict.lookupIn key staged.body).map Value.sortKeys :=
  lookupIn_sorted (body_proper staged).1 key

theorem optionalField_file {staged : Staged F} {key : String}
    {text : Option String}
    (h : Dict.lookupIn key staged.body = some (orNull text)) :
    optionalField key (sortedByName (sortFields staged.body)) = .ok text := by
  rw [optionalField, lookupIn_file, h]
  cases text <;> rfl

theorem parseBundle_file (staged : Staged F) (path : List String) :
    parseBundle path (sortedByName (sortFields staged.body)) =
      .ok (staged.bundle path) := by
  have habsent : Dict.lookupIn "staged_artifact_path"
      (sortedByName (sortFields staged.body)) = none := by
    rw [lookupIn_file]
    rfl
  have hstring : ∀ {key text},
      Dict.lookupIn key staged.body = some (.str text) →
      stringField key (sortedByName (sortFields staged.body)) = .ok text := by
    intro key text h
    rw [stringField, lookupIn_file, h]
    rfl
  have hpayload : payloadField (sortedByName (sortFields staged.body)) =
      .ok (sortedByName (sortFields staged.payload)) := by
    rw [payloadField, lookupIn_file]
    rfl
  rw [parseBundle, habsent, hstring rfl, hstring rfl, hstring rfl, hstring rfl,
    optionalField_file rfl, optionalField_file rfl, optionalField_file rfl,
    hpayload]
  rfl

theorem loadText_text (floats : Floats F) (staged : Staged F)
    (path : List String) :
    loadText floats path (staged.text floats) =
      if hasSha256 staged.artifactDigest then .ok (staged.bundle path)
      else .error digestInvalid := by
  have hloads : loads floats (staged.text floats) =
      some (.obj (sortedByName (sortFields staged.body))) :=
    loads_dumps (body_proper staged).sortKeys
  have hdigest : Dict.lookupIn "artifact_digest"
      (sortedByName (sortFields staged.body)) =
        some (.str staged.artifactDigest) := by
    rw [lookupIn_file]
    rfl
  simp only [loadText, hloads, hdigest, parseBundle_file]

theorem loadText_cut (floats : Floats F) (staged : Staged F)
    (path : List String) {n : Nat} (hn : n < (staged.text floats).length) :
    loadText floats path ((staged.text floats).take n) =
      .error (.jsonDecodeError "") := by
  have hmore : (staged.text floats).drop n ≠ [] :=
    List.ne_nil_of_length_pos (by rw [List.length_drop]; omega)
  have hcut : loads floats ((staged.text floats).take n) = none :=
    loads_cut (body_proper staged).sortKeys
      (List.take_append_drop _ _).symm hmore
  rw [loadText, hcut]

/-! ## The payload in a file of its own -/

/-- What a process backend writes for the server that it starts. -/
def payloadText (floats : Floats F) (staged : Staged F) : List Char :=
  dumps floats (Value.obj staged.payload).sortKeys

def manifestMissing : Exn :=
  .unexpected "RuntimeError: runtime manifest missing from payload"

/-- The manifest that the server's `main` takes from the payload. -/
def serverManifest (floats : Floats F) (text : List Char) :
    Except Exn (List (String × Value F)) :=
  match loads floats text with
  | none => .error (.jsonDecodeError "")
  | some (.obj payload) =>
      match Dict.lookupIn "runtime_manifest" payload with
      | some (.obj manifest) => .ok manifest
      | _ => .error manifestMissing
  | some _ => .error (.unexpected "AttributeError: get")

/-- `main` up to its server, with `create_text_generation_backend` given. -/
def serverBackend {β : Type}
    (createBackend : List (String × Value F) → Except Exn β)
    (floats : Floats F) (text : List Char) : Except Exn β := do
  createBackend (← serverManifest floats text)

/--
The server makes its backend of a manifest that has at every place what the
payload's has there, and starts if that goes well.  It does not get so far if
the payload has no such object or any end of the file is missing.
-/
theorem manifest_handed_over {β : Type}
    (createBackend : List (String × Value F) → Except Exn β)
    (floats : Floats F) (staged : Staged F) :
    (match Dict.lookupIn "runtime_manifest" staged.payload with
      | some (.obj manifest) => ∃ manifest',
          serverBackend createBackend floats (payloadText floats staged) =
            createBackend manifest' ∧
          ∀ path, (Value.obj manifest').get? path =
            ((Value.obj manifest).get? path).map Value.sortKeys
      | _ => serverBackend createBackend floats (payloadText floats staged) =
          .error manifestMissing) ∧
    ∀ n < (payloadText floats staged).length,
      serverBackend createBackend floats ((payloadText floats staged).take n) =
        .error (.jsonDecodeError "") := by
  have hsorted := staged.proper.sortKeys
  have hrefused : ∀ {text x}, serverManifest floats text = .error x →
      serverBackend createBackend floats text = .error x := by
    intro text x h
    rw [serverBackend, h]
    rfl
  refine ⟨?_, fun n hn => hrefused ?_⟩
  · have hloads : loads floats (payloadText floats staged) =
        some (.obj (sortedByName (sortFields staged.payload))) :=
      loads_dumps hsorted
    have hlookup := lookupIn_sorted staged.proper.1 "runtime_manifest"
    cases hmanifest : Dict.lookupIn "runtime_manifest" staged.payload with
    | none =>
        refine hrefused ?_
        simp only [serverManifest, hloads, hlookup, hmanifest, Option.map]
    | some manifest =>
        have hproper : manifest.Proper :=
          staged.proper.child (show (Value.obj staged.payload).child
            (.key "runtime_manifest") = some manifest from hmanifest)
        cases manifest with
        | obj manifest =>
            refine ⟨sortedByName (sortFields manifest), ?_, fun path =>
              get?_sortKeys hproper path⟩
            simp only [serverBackend, serverManifest, hloads, hlookup,
              hmanifest, Option.map, Value.sortKeys]
            rfl
        | _ =>
            refine hrefused ?_
            simp only [serverManifest, hloads, hlookup, hmanifest, Option.map,
              Value.sortKeys]
  · have hmore : (payloadText floats staged).drop n ≠ [] :=
      List.ne_nil_of_length_pos (by rw [List.length_drop]; omega)
    have hcut : loads floats ((payloadText floats staged).take n) = none :=
      loads_cut hsorted (List.take_append_drop _ _).symm hmore
    rw [serverManifest, hcut]

/-! ## The store -/

/-- What the store holds for a deployment. -/
inductive Entry (F : Type) where
  | whole (staged : Staged F)
  /-- The beginning of a file whose writing failed. -/
  | part (staged : Staged F) (written : Nat)

namespace Entry

def ofWritten (floats : Floats F) (staged : Staged F) : Option Nat → Entry F
  | none => .whole staged
  | some n => if n < (staged.text floats).length then .part staged n
      else .whole staged

def text (floats : Floats F) : Entry F → List Char
  | .whole staged => staged.text floats
  | .part staged n => (staged.text floats).take n

def load (path : List String) : Entry F → Except Exn (Bundle F)
  | .whole staged =>
      if hasSha256 staged.artifactDigest then .ok (staged.bundle path)
      else .error digestInvalid
  | .part _ _ => .error (.jsonDecodeError "")

end Entry

abbrev Shelf (F : Type) := String → Option (Entry F)

/-- A call of the store; the disk may fail after it took a part of a file. -/
inductive StoreCall (F : Type) where
  | stageArtifact (deploymentId : String) (staged : Staged F)
      (written : Option Nat)
  | deleteStagedArtifact (deploymentId : String)
  | runtimeDir (deploymentId : String)
  /-- A backend writes a file to its runtime directory. -/
  | writeRuntimeFile (deploymentId name : String) (text : List Char)
  | deleteRuntimeDir (deploymentId : String)
  | evictStaleCache (active : Finset String)

def artifactAt (directory : List String) (deploymentId : String) :
    List String := directory ++ [deploymentId ++ ".artifact.json"]

def runtimeDirAt (directory : List String) (deploymentId : String) :
    List String := directory ++ [deploymentId ++ ".runtime"]

/-- A call that raises leaves the files as they are. -/
def orSame (t : Files (List Char)) :
    Except Fault (Files (List Char)) → Files (List Char)
  | .ok t' => t'
  | .error _ => t

namespace StoreCall

def run (floats : Floats F) (directory : List String) (t : Files (List Char)) :
    StoreCall F → Files (List Char)
  | .stageArtifact d staged written =>
      if staged.artifactUri = "" ∨ staged.artifactDigest = "" then t
      else orSame t (t.place (artifactAt directory d)
        (.file ((Entry.ofWritten floats staged written).text floats)))
  | .deleteStagedArtifact d =>
      if (t.get? (artifactAt directory d)).isSome then
        orSame t (t.unlink (artifactAt directory d))
      else t
  | .runtimeDir d => orSame t (t.mkdirs (runtimeDirAt directory d))
  | .writeRuntimeFile d name text =>
      orSame t (t.place (runtimeDirAt directory d ++ [name]) (.file text))
  | .deleteRuntimeDir d =>
      orSame t (StagedArtifactStore.deleteRuntimeDir
        (some (runtimeDirAt directory d)) t)
  | .evictStaleCache active =>
      orSame t ((StagedArtifactStore.evictStaleCache directory active t).map
        Prod.snd)

def onShelf (floats : Floats F) (shelf : Shelf F) : StoreCall F → Shelf F
  | .stageArtifact d staged written =>
      if staged.artifactUri = "" ∨ staged.artifactDigest = "" then shelf
      else Function.update shelf d
        (some (Entry.ofWritten floats staged written))
  | .deleteStagedArtifact d => Function.update shelf d none
  | .evictStaleCache active => fun d => if d ∈ active then shelf d else none
  | .runtimeDir _ | .writeRuntimeFile _ _ _ | .deleteRuntimeDir _ => shelf

end StoreCall

structure Represents (floats : Floats F) (directory : List String)
    (t : Files (List Char)) (shelf : Shelf F) : Prop where
  present : t.get? directory = some .dir
  entries : ∀ d, t.get? (artifactAt directory d) =
    (shelf d).map fun entry => .file (entry.text floats)

variable {floats : Floats F} {directory : List String}
variable {t t' : Files (List Char)} {shelf : Shelf F}

theorem artifactAt_injective : Function.Injective (artifactAt directory) := by
  intro d d' h
  have hname := List.append_cancel_left h
  simpa using hname

theorem artifactAt_ne_directory (d : String) :
    artifactAt directory d ≠ directory := by
  simp [artifactAt]

theorem artifactAt_ne_runtimeDirAt (d d' : String) :
    artifactAt directory d ≠ runtimeDirAt directory d' := fun h =>
  Cache.suffixes_differ d d'
    (List.singleton_injective (List.append_cancel_left h))

theorem runtimeDirAt_apart (d : String) {q : List String}
    (hq : q = directory ∨ ∃ d', q = artifactAt directory d') :
    ¬runtimeDirAt directory d <+: q := by
  intro hpre
  rcases hq with rfl | ⟨d', rfl⟩
  · have hlength := hpre.length_le
    simp [runtimeDirAt] at hlength
  · have heq := hpre.eq_of_length (by simp [runtimeDirAt, artifactAt])
    exact artifactAt_ne_runtimeDirAt d' d heq.symm

/-- Only what is neither the directory nor an artifact in it changes. -/
def Aside (directory : List String) (t t' : Files (List Char)) : Prop :=
  ∀ q, (q = directory ∨ ∃ d, q = artifactAt directory d) →
    t'.get? q = t.get? q

theorem Represents.aside (h : Represents floats directory t shelf)
    (haside : Aside directory t t') : Represents floats directory t' shelf :=
  ⟨(haside _ (.inl rfl)).trans h.present,
    fun d => (haside _ (.inr ⟨d, rfl⟩)).trans (h.entries d)⟩

theorem aside_orSame {result : Except Fault (Files (List Char))}
    (h : ∀ t', result = .ok t' → Aside directory t t') :
    Aside directory t (orSame t result) := by
  cases result with
  | ok t' => exact h t' rfl
  | error fault => exact fun _ _ => rfl

theorem mkdirs_aside (h : t.get? directory = some .dir) (d : String)
    (hmkdirs : t.mkdirs (runtimeDirAt directory d) = .ok t') :
    Aside directory t t' := by
  intro q hq
  rw [Tree.get?_mkdirs hmkdirs]
  refine if_neg fun ⟨hnone, hpre⟩ => ?_
  rcases hq with rfl | ⟨d', rfl⟩
  · simp [h] at hnone
  · exact artifactAt_ne_runtimeDirAt d' d
      (hpre.eq_of_length (by simp [runtimeDirAt, artifactAt]))

theorem place_aside (d name : String) {text : List Char}
    (hplace : t.place (runtimeDirAt directory d ++ [name]) (.file text) =
      .ok t') :
    Aside directory t t' := by
  intro q hq
  rw [Tree.get?_place hplace]
  refine if_neg fun heq => runtimeDirAt_apart d hq ?_
  rw [← heq]
  exact List.prefix_append _ _

theorem deleteRuntimeDir_aside (d : String)
    (hdelete : deleteRuntimeDir (some (runtimeDirAt directory d)) t = .ok t') :
    Aside directory t t' := by
  intro q hq
  cases hnode : t.get? (runtimeDirAt directory d) with
  | none =>
      rw [deleteRuntimeDir, hnode] at hdelete
      rw [Except.ok.inj hdelete]
  | some node =>
      cases node with
      | dir =>
          obtain ⟨t'', hrun, hwithout⟩ :=
            deleteRuntimeDir_ok (by simp [runtimeDirAt]) hnode
          obtain rfl : t'' = t' := Except.ok.inj (hrun.symm.trans hdelete)
          rw [hwithout, if_neg (runtimeDirAt_apart d hq)]
      | file content =>
          -- there is nothing below a file, and no directory to remove
          have hunlink : unlinkFiles (t.below (runtimeDirAt directory d)) t =
              .ok t := by
            rw [Tree.below_file hnode]
            rfl
          have hrmdirs : rmdirs (belowReversed t (runtimeDirAt directory d)) t =
              .ok t := by
            rw [belowReversed, Tree.below_file hnode]
            rfl
          simp only [deleteRuntimeDir, hnode, Option.isNone_some,
            hunlink] at hdelete
          change (rmdirs (belowReversed t _) t >>= fun t => t.rmdir _) = _
            at hdelete
          rw [hrmdirs] at hdelete
          change t.rmdir (runtimeDirAt directory d) = _ at hdelete
          rw [Tree.rmdir, hnode] at hdelete
          cases hdelete

theorem evict_artifacts (cache : Cache (List Char)) (active : Finset String) :
    ∃ evicted t', evictStaleCache cache.directory active cache.files =
        .ok (evicted, t') ∧
      t'.get? cache.directory = cache.files.get? cache.directory ∧
      ∀ d, t'.get? (cache.artifactPath d) =
        if d ∈ active then cache.files.get? (cache.artifactPath d)
        else none := by
  obtain ⟨t₁, hartifacts, hgone, hkept⟩ := cache.evictArtifacts_ok active
  have hruntime : ∀ d, t₁.get? (cache.runtimePath d) =
      cache.files.get? (cache.runtimePath d) := fun d =>
    hkept _ fun d' _ heq => artifactAt_ne_runtimeDirAt d' d heq.symm
  obtain ⟨names, t₂, hdirs, -, hkept'⟩ := cache.evictRuntimes_ok active hruntime
  have haside : Aside cache.directory t₁ t₂ := fun q hq =>
    hkept' q fun ⟨d, _, _, hpre⟩ => runtimeDirAt_apart d hq hpre
  have hrun : ∃ evicted, evictStaleCache cache.directory active cache.files =
      .ok (evicted, t₂) := by
    unfold evictStaleCache
    rw [hartifacts]
    dsimp only [bind, Except.bind]
    rw [hdirs]
    exact ⟨_, rfl⟩
  obtain ⟨evicted, hrun⟩ := hrun
  refine ⟨evicted, t₂, hrun, ?_, fun d => ?_⟩
  · rw [haside _ (.inl rfl), hkept _ fun d _ heq =>
      artifactAt_ne_directory d heq.symm]
  · rw [haside (cache.artifactPath d) (.inr ⟨d, rfl⟩)]
    split
    · exact hkept _ fun d' hd' heq => hd' (artifactAt_injective heq ▸ ‹_›)
    · exact hgone d ‹_›

/-! ## Every run of calls -/

theorem place_file (h : t.get? directory = some .dir) (d : String)
    (hnotdir : t.get? (artifactAt directory d) ≠ some .dir) (text : List Char) :
    ∃ t', t.place (artifactAt directory d) (.file text) = .ok t' := by
  unfold Tree.place
  rw [dif_pos]
  · exact ⟨_, rfl⟩
  · refine ⟨by simp [artifactAt], ?_, by simpa [Tree.isDir_iff] using hnotdir⟩
    rw [artifactAt, List.dropLast_concat]
    exact Tree.isDir_iff.mpr h

namespace Represents

theorem not_dir (h : Represents floats directory t shelf) (d : String) :
    t.get? (artifactAt directory d) ≠ some .dir := by
  rw [h.entries]
  cases shelf d <;> simp

/-- The files as a cache in which artifacts are files. -/
def cache (h : Represents floats directory t shelf) : Cache (List Char) where
  files := t
  directory := directory
  staged := h.not_dir

theorem stage (h : Represents floats directory t shelf) (d : String)
    (entry : Entry F) :
    Represents floats directory (orSame t
      (t.place (artifactAt directory d) (.file (entry.text floats))))
      (Function.update shelf d (some entry)) := by
  obtain ⟨t', hplace⟩ := place_file h.present d (h.not_dir d)
    (entry.text floats)
  rw [hplace, orSame]
  refine ⟨?_, fun d' => ?_⟩
  · rw [Tree.get?_place hplace, if_neg (artifactAt_ne_directory d), h.present]
  · rw [Tree.get?_place hplace]
    by_cases hd : d = d'
    · subst hd
      rw [if_pos rfl, Function.update_self, Option.map_some]
    · rw [if_neg (artifactAt_injective.ne hd),
        Function.update_of_ne (Ne.symm hd), h.entries]

theorem delete (h : Represents floats directory t shelf) (d : String) :
    Represents floats directory
      ((StoreCall.deleteStagedArtifact (F := F) d).run floats directory t)
      (Function.update shelf d none) := by
  have hother : ∀ d', d ≠ d' → Function.update shelf d none d' = shelf d' :=
    fun d' hd => Function.update_of_ne (Ne.symm hd) _ _
  rw [StoreCall.run]
  split
  · rename_i hsome
    rw [h.entries, Option.isSome_map] at hsome
    obtain ⟨entry, hentry⟩ := Option.isSome_iff_exists.mp hsome
    have hfile := h.entries d
    rw [hentry, Option.map_some] at hfile
    obtain ⟨t', hunlink⟩ := t.unlink_file hfile
    rw [hunlink, orSame]
    refine ⟨?_, fun d' => ?_⟩
    · rw [t.get?_unlink hunlink, if_neg (artifactAt_ne_directory d),
        h.present]
    · rw [t.get?_unlink hunlink]
      by_cases hd : d = d'
      · subst hd
        rw [if_pos rfl, Function.update_self]
        rfl
      · rw [if_neg (artifactAt_injective.ne hd), hother d' hd, h.entries]
  · rename_i hnone
    refine ⟨h.present, fun d' => ?_⟩
    by_cases hd : d = d'
    · subst hd
      rw [Function.update_self]
      simpa using hnone
    · rw [hother d' hd, h.entries]

theorem evict (h : Represents floats directory t shelf)
    (active : Finset String) :
    Represents floats directory
      ((StoreCall.evictStaleCache (F := F) active).run floats directory t)
      (fun d => if d ∈ active then shelf d else none) := by
  obtain ⟨evicted, t', hrun, hdirectory, hartifacts⟩ :=
    evict_artifacts h.cache active
  change evictStaleCache directory active t = _ at hrun
  rw [StoreCall.run, hrun]
  refine ⟨hdirectory.trans h.present, fun d => ?_⟩
  have hd : t'.get? (artifactAt directory d) = _ := hartifacts d
  change t'.get? _ = _
  rw [hd]
  split
  · exact h.entries d
  · rfl

theorem step (h : Represents floats directory t shelf) (call : StoreCall F) :
    Represents floats directory (call.run floats directory t)
      (call.onShelf floats shelf) := by
  cases call with
  | stageArtifact d staged written =>
      rw [StoreCall.run, StoreCall.onShelf]
      split
      · exact h
      · exact h.stage d _
  | deleteStagedArtifact d => exact h.delete d
  | runtimeDir d =>
      exact h.aside (aside_orSame fun _ => mkdirs_aside h.present d)
  | writeRuntimeFile d name text =>
      exact h.aside (aside_orSame fun _ => place_aside d name)
  | deleteRuntimeDir d =>
      exact h.aside (aside_orSame fun _ => deleteRuntimeDir_aside d)
  | evictStaleCache active => exact h.evict active

theorem run (h : Represents floats directory t shelf)
    (calls : List (StoreCall F)) :
    Represents floats directory
      (calls.foldl (fun t call => call.run floats directory t) t)
      (calls.foldl (StoreCall.onShelf floats) shelf) := by
  induction calls generalizing t shelf with
  | nil => exact h
  | cons call calls ih => exact ih (h.step call)

end Represents

/-- No beginning of a file that was written in part is a whole one. -/
def Entry.Torn (floats : Floats F) : Entry F → Prop
  | .whole _ => True
  | .part staged n => n < (staged.text floats).length

theorem ofWritten_torn (staged : Staged F) (written : Option Nat) :
    (Entry.ofWritten floats staged written).Torn floats := by
  cases written with
  | none => trivial
  | some n =>
      rw [Entry.ofWritten]
      split
      · assumption
      · trivial

def AllTorn (floats : Floats F) (shelf : Shelf F) : Prop :=
  ∀ d entry, shelf d = some entry → entry.Torn floats

theorem AllTorn.update {shelf : Shelf F} (h : AllTorn floats shelf) (d : String)
    {found : Option (Entry F)} (hfound : ∀ entry ∈ found, entry.Torn floats) :
    AllTorn floats (Function.update shelf d found) := by
  intro d' entry hentry
  by_cases hd : d' = d
  · subst hd
    rw [Function.update_self] at hentry
    exact hfound entry hentry
  · rw [Function.update_of_ne hd] at hentry
    exact h d' entry hentry

theorem AllTorn.step {shelf : Shelf F} (h : AllTorn floats shelf)
    (call : StoreCall F) : AllTorn floats (call.onShelf floats shelf) := by
  cases call with
  | stageArtifact d staged written =>
      rw [StoreCall.onShelf]
      split
      · exact h
      · refine h.update d fun entry hentry => ?_
        obtain rfl := Option.mem_some_iff.mp hentry
        exact ofWritten_torn staged written
  | deleteStagedArtifact d =>
      exact h.update d fun entry hentry => by cases hentry
  | evictStaleCache active =>
      intro d entry hentry
      simp only [StoreCall.onShelf] at hentry
      split at hentry
      · exact h d entry hentry
      · cases hentry
  | _ => exact h

theorem AllTorn.run {shelf : Shelf F} (h : AllTorn floats shelf)
    (calls : List (StoreCall F)) :
    AllTorn floats (calls.foldl (StoreCall.onShelf floats) shelf) := by
  induction calls generalizing shelf with
  | nil => exact h
  | cons call calls ih => exact ih (h.step call)

theorem loadText_entry (entry : Entry F) (htorn : entry.Torn floats)
    (path : List String) :
    loadText floats path (entry.text floats) = entry.load path := by
  cases entry with
  | whole staged => exact loadText_text floats staged path
  | part staged n => exact loadText_cut floats staged path htorn

/-- Loading a deployment's artifact, by what is on the shelf. -/
def loadShelf (directory : List String) (shelf : Shelf F) (d : String) :
    Except Exn (Bundle F) :=
  match shelf d with
  | none => .error (missing (artifactAt directory d))
  | some entry => entry.load (artifactAt directory d)

/--
After any calls on a cache without artifacts a deployment's artifact loads as it
was staged last, if it was neither deleted nor evicted since, its digest is a
SHA-256 and all of its file was written; and raises otherwise.
-/
theorem loads_last_staged (floats : Floats F)
    (hdirectory : t.get? directory = some .dir)
    (hempty : ∀ d, t.get? (artifactAt directory d) = none)
    (calls : List (StoreCall F)) (d : String) :
    loadStagedArtifact floats (artifactAt directory d)
        (calls.foldl (fun t call => call.run floats directory t) t) =
      loadShelf directory
        (calls.foldl (StoreCall.onShelf floats) fun _ => none) d := by
  have hstart : Represents floats directory t fun _ => none :=
    ⟨hdirectory, hempty⟩
  have htorn : AllTorn floats
      (calls.foldl (StoreCall.onShelf floats) fun _ => none) := by
    refine AllTorn.run (fun d entry hentry => ?_) calls
    cases hentry
  rw [loadStagedArtifact, (hstart.run calls).entries d, loadShelf]
  cases hshelf : calls.foldl (StoreCall.onShelf floats) (fun _ => none) d with
  | none => rfl
  | some entry => exact loadText_entry entry (htorn d entry hshelf) _

/-- Floats with one digit behind the point, which is a five. -/
def halves : Floats Int where
  repr z := { NumberToken.ofInt z with fraction := some ['5'] }
  read t := if t.fraction = some ['5'] ∧ t.exponent = none then some t.toInt
    else none
  valid z :=
    { ofInt_valid z with
      fraction := by
        rintro digits heq
        cases heq
        exact ⟨by simp, List.forall_mem_singleton.mpr rfl⟩ }
  notInt z := rfl
  read_repr z := (if_pos ⟨rfl, rfl⟩).trans (congrArg some (toInt_ofInt z))

def smallModel : Staged Int where
  buildId := "build-1"
  image := "vllm"
  artifactUri := "s3://builds/1"
  artifactDigest := "sha256:ab"
  registryManifestUri := none
  contextManifestUri := none
  dockerfilePath := none
  payload := [("runtime_manifest", .obj [("temperature", .float 0)]),
    ("image", .str "vllm")]
  stagedAt := "2025-01-01"
  proper := ⟨by decide, ⟨by decide, trivial, trivial⟩, trivial, trivial⟩

def stagedTwice : List (StoreCall Int) :=
  [.stageArtifact "llm-1" smallModel none,
    .stageArtifact "llm-2" smallModel none, .evictStaleCache {"llm-1"}]

theorem loads_last_staged_twice :
    loadStagedArtifact halves (artifactAt [] "llm-1")
        (stagedTwice.foldl (fun t call => call.run halves [] t) Tree.empty) =
      .ok (smallModel.bundle (artifactAt [] "llm-1")) ∧
    loadStagedArtifact halves (artifactAt [] "llm-2")
        (stagedTwice.foldl (fun t call => call.run halves [] t) Tree.empty) =
      .error (missing (artifactAt [] "llm-2")) := by
  have hloads := @loads_last_staged Int [] Tree.empty halves rfl
    (fun _ => rfl) stagedTwice
  exact ⟨(hloads "llm-1").trans rfl, (hloads "llm-2").trans rfl⟩

end StagedArtifactStore

end NodeAgent
