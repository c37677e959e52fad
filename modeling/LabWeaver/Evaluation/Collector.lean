import Mathlib.Data.String.Basic
import LabWeaver.Base.Sorted
import LabWeaver.Base.Outcome
import LabWeaver.Contracts.SupplyChain

/-
  This file models the collector of submissions. The preflight records the selected files, and the
  freeze reads them again, compares them with the record, and writes the archive. The source may
  answer every call differently.

  Main declaration: `frozen_contents_iff`.
-/

namespace LabWeaver

open Outcome List

-- Sources

inductive SourceKind where
| file
| directory
| symlink
| other
deriving DecidableEq

structure SourceMetadata where
  kind : SourceKind
  sizeBytes : Nat

structure SourceEntry where
  name : String
  metadata : SourceMetadata

inductive CollectError where
| limitConfigurationInvalid
| manifestInvalid
| unsafePath
| symlinkRejected
| unsupportedEntry
| requiredPathMissing
| fileLimitExceeded
| byteLimitExceeded
| outputLimitExceeded
| sourceUnavailable
| sourceIdentityMismatch
| sourceChanged
| archiveFailed
| sshCredentialInvalid
| sshHostKeyMismatch
| sshTimeout
deriving DecidableEq

/- A collection that returns nothing has failed, or it is still walking directories after the
  number of rounds it was given. -/
inductive CollectStop where
| failed (error : CollectError)
| unfinished
deriving DecidableEq

/- Calls of a source, which may change with every call. -/
abbrev Collect (σ : Type) := StateT σ (Except CollectStop)

def check (p : Prop) [Decidable p] (error : CollectError) : Except CollectStop Unit :=
  ensure p (.failed error)

def need {α : Type} (value : Option α) (error : CollectError) : Except CollectStop α :=
  require value (.failed error)

/- The calls that the collector makes. -/
structure SnapshotSource (σ δ : Type) where
  identity : σ → δ
  validatePath : String → Collect σ Unit
  metadata : String → Collect σ (Option SourceMetadata)
  readDir : String → Collect σ (List SourceEntry)
  readFile : String → Nat → Collect σ (List UInt8)

-- Selection

/- The selected files and the directories that exist. -/
structure Selection where
  (selected directories : OrderedSet String)

def safeComponent (value : String) : Bool :=
  !value.isEmpty && value != "." && value != ".." &&
    !value.toList.any (fun c => c == '/' || c == '\\') &&
    !anyControl value

def joinRelative (parent name : String) : Except CollectStop String := do
  check (safeComponent name = true) .unsafePath
  let path := parent ++ "/" ++ name
  check (validRelativePath path = true) .unsafePath
  return path

/- `covers` of the collector. -/
def PathRule.coversPath (rule : PathRule) (path : String) : Bool :=
  match rule with
  | .exactFile exact => exact == path
  | .directoryTree directory => directory == path || pathBelow directory path

def SubmissionManifest.excluded (manifest : SubmissionManifest) (path : String) : Bool :=
  manifest.excludes.any (·.coversPath path)

def validateSelectedMetadata (metadata : SourceMetadata) : Except CollectStop Unit :=
  match metadata.kind with
  | .symlink => .error (.failed .symlinkRejected)
  | .other => .error (.failed .unsupportedEntry)
  | .file | .directory => .ok ()

def visitEntry (manifest : SubmissionManifest) (directory : String)
    (found : Selection × List String) (entry : SourceEntry) :
    Except CollectStop (Selection × List String) := do
  let path ← joinRelative directory entry.name
  check (entry.metadata.kind ≠ .symlink) .symlinkRejected
  if manifest.excluded path then return found
  else
    match entry.metadata.kind with
    | .file => do
        let selected := found.1.selected.insert path
        check (selected.elements.length ≤ manifest.maxFiles) .fileLimitExceeded
        return ({ found.1 with selected }, found.2)
    | .directory =>
      .ok
        ({ found.1 with directories := found.1.directories.insert path }, path :: found.2)
    | .symlink => .error (.failed .symlinkRejected)
    | .other => .error (.failed .unsupportedEntry)

variable {σ δ : Type}

section

variable (source : SnapshotSource σ δ) (manifest : SubmissionManifest)

/- `walk_directory`: the directory on top of the stack is read, and its own directories are put on
  the stack. -/
def walkDirectory : Nat → List String → Selection → Collect σ Selection
| _, [], found => pure found
| 0, _ :: _, _ => throw .unfinished
| rounds + 1, directory :: pending, found => do
    let entries ← source.readDir directory
    let (found, pending) ← (entries.reverse.foldlM
        (visitEntry manifest directory) (found, pending) :
        Except CollectStop _)
    walkDirectory rounds pending found

def selectRule (rounds : Nat) (found : Selection) : PathRule → Collect σ Selection
| .exactFile path =>
  if manifest.excluded path then pure found
  else do
    source.validatePath path
    match ← source.metadata path with
    | none => pure found
    | some metadata => do
        validateSelectedMetadata metadata
        check (metadata.kind = .file) .unsupportedEntry
        pure { found with selected := found.selected.insert path }
| .directoryTree path => do
    source.validatePath path
    match ← source.metadata path with
    | none => pure found
    | some metadata => do
        validateSelectedMetadata metadata
        check (metadata.kind = .directory) .unsupportedEntry
        walkDirectory source manifest rounds [path]
          { found with directories := found.directories.insert path }

def validateRequired (found : Selection) : Except CollectStop Unit :=
  check (manifest.required.all (fun
    | .exactFile path => found.selected.elements.contains path
    | .directoryTree path => found.directories.elements.contains path) = true)
    .requiredPathMissing

-- Reading

structure Reading where
  files : List FrozenFile
  contents : List (String × List UInt8)
  totalBytes : Nat

def frozenFile (path : String) (bytes : List UInt8) : FrozenFile where
  path := path
  sizeBytes := bytes.length
  mediaType := "application/octet-stream"

/- One selected path. The paths come in their order, so that the contents are entered at the end of
  the map. -/
def readSelected (read : Reading) (path : String) : Collect σ Reading := do
  source.validatePath path
  check (read.totalBytes ≤ manifest.maxTotalBytes) .byteLimitExceeded
  let bytes ← source.readFile path (manifest.maxTotalBytes - read.totalBytes)
  let totalBytes ← need (checkedAdd maxU64 read.totalBytes bytes.length) .byteLimitExceeded
  check (totalBytes ≤ manifest.maxTotalBytes) .byteLimitExceeded
  pure
    { files := read.files ++ [frozenFile path bytes], contents := read.contents ++ [(path, bytes)],
      totalBytes }

structure CollectorLimits where
  (maxSourceBytes maxArchiveBytes maxFiles : Nat)

structure Snapshot (δ : Type) where
  files : List FrozenFile
  contents : List (String × List UInt8)
  manifestSha256 : δ
  totalBytes : Nat
deriving DecidableEq

variable (hash : List FrozenFile → Option δ)

def collectSnapshot (rounds : Nat) (limits : CollectorLimits) : Collect σ (Snapshot δ) := do
  check manifest.Valid .manifestInvalid
  check (manifest.maxTotalBytes ≤ limits.maxSourceBytes) .byteLimitExceeded
  check (manifest.maxFiles ≤ limits.maxFiles) .fileLimitExceeded
  let found ← manifest.includes.foldlM (selectRule source manifest rounds)
      { selected := .empty, directories := .empty }
  validateRequired manifest found
  check (found.selected.elements ≠ []) .requiredPathMissing
  check (found.selected.elements.length ≤ manifest.maxFiles) .fileLimitExceeded
  let read ← found.selected.elements.foldlM (readSelected source manifest)
      { files := [], contents := [], totalBytes := 0 }
  let manifestSha256 ← need (hash read.files) .archiveFailed
  pure
    { files := read.files, contents := read.contents, manifestSha256,
      totalBytes := read.totalBytes }

end

-- Preflight And Freeze

/- What the preflight keeps of the files it has read. -/
structure PreflightReport (δ : Type) where
  sourceIdentity : δ
  files : List FrozenFile
  manifestSha256 : δ
  totalBytes : Nat
deriving DecidableEq

structure CanonicalArchiveFile where
  (path contentBase64 : String)
deriving DecidableEq

structure CanonicalArchive where
  apiVersion : String
  files : List CanonicalArchiveFile
deriving DecidableEq

/- The encodings of the libraries that write an archive. Neither of them maps two values to the
  same text. -/
structure ArchiveCodec where
  base64 : List UInt8 → String
  toVec : CanonicalArchive → Option (List UInt8)
  base64_injective : ∀ bytes bytes', base64 bytes = base64 bytes' → bytes = bytes'
  toVec_injective : ∀ archive archive' bytes, toVec archive = some bytes →
    toVec archive' = some bytes → archive = archive'

structure FrozenArchive (δ : Type) where
  files : List FrozenFile
  manifestSha256 : δ
  bytes : List UInt8
  sha256 : δ
  mediaType : String
deriving DecidableEq

def FrozenArchive.Holds {δ : Type} (codec : ArchiveCodec) (frozen : FrozenArchive δ) (path : String)
    (bytes : List UInt8) : Prop :=
  ∃ archive, codec.toVec archive = some frozen.bytes ∧ ⟨path, codec.base64 bytes⟩ ∈ archive.files

def canonicalArchive (codec : ArchiveCodec) (contents : List (String × List UInt8)) :
    CanonicalArchive where
  apiVersion := "evaluation.labweaver.io/frozen-submission-archive/v1"
  files := contents.map (fun file => ⟨file.1, codec.base64 file.2⟩)

/- A collector has limits that `new` accepts. -/
structure SnapshotCollector where
  limits : CollectorLimits
  source_pos : 0 < limits.maxSourceBytes
  archive_pos : 0 < limits.maxArchiveBytes
  files_pos : 0 < limits.maxFiles
  source_le : limits.maxSourceBytes ≤ limits.maxArchiveBytes

namespace SnapshotCollector

variable [DecidableEq δ] (collector : SnapshotCollector) (source : SnapshotSource σ δ)
  (manifest : SubmissionManifest) (hash : List FrozenFile → Option δ)

def preflight (rounds : Nat) : Collect σ (PreflightReport δ) := do
  let snapshot ← collectSnapshot source manifest hash rounds collector.limits
  let s ← get
  pure
    { sourceIdentity := source.identity s, files := snapshot.files,
      manifestSha256 := snapshot.manifestSha256, totalBytes := snapshot.totalBytes }

def freeze (codec : ArchiveCodec) (sha256 : List UInt8 → δ) (rounds : Nat)
    (report : PreflightReport δ) :
    Collect σ (FrozenArchive δ) := do
  let s ← get
  check (report.sourceIdentity = source.identity s) .sourceIdentityMismatch
  let snapshot ← collectSnapshot source manifest hash rounds collector.limits
  check (snapshot.files = report.files ∧ snapshot.manifestSha256 = report.manifestSha256 ∧
    snapshot.totalBytes = report.totalBytes)
    .sourceChanged
  let bytes ← need (codec.toVec (canonicalArchive codec snapshot.contents)) .archiveFailed
  check (bytes.length ≤ collector.limits.maxArchiveBytes) .outputLimitExceeded
  pure
    { files := snapshot.files, manifestSha256 := snapshot.manifestSha256, bytes,
      sha256 := sha256 bytes, mediaType := "application/vnd.labweaver.frozen-submission.v1+json" }

end SnapshotCollector

-- What A Collection Has Read

section

variable {source : SnapshotSource σ δ} {manifest : SubmissionManifest}
  {hash : List FrozenFile → Option δ} {s s' : σ}

def totalSize (files : List FrozenFile) : Nat :=
  files.foldl (fun total file => total + file.sizeBytes) 0

/- The files of a reading are those of its contents, and their bytes are counted and within the
  limit. -/
structure Reading.Counted (manifest : SubmissionManifest) (read : Reading) : Prop where
  files : read.files = read.contents.map (fun c => frozenFile c.1 c.2)
  total : read.totalBytes = totalSize read.files
  within : read.totalBytes ≤ manifest.maxTotalBytes

theorem readSelected_eq_ok {read read' : Reading} {path : String} (hCounted : read.Counted manifest)
    (hRead : readSelected source manifest read path s = .ok (read', s')) :
    read'.Counted manifest ∧ ∃ bytes, read'.contents = read.contents ++ [(path, bytes)] := by
  simp only [readSelected, run_bind_eq_ok, run_lift_eq_ok, run_pure_eq_ok, check, need,
    ensure_eq_ok, require_eq_ok] at hRead
  rcases hRead with ⟨_, _, -, _, _, -, bytes, _, -, total, _, ⟨hTotal, -⟩, _, _, ⟨hLimit, -⟩,
      rfl, -⟩
  refine ⟨⟨?_, ?_, hLimit⟩, bytes, rfl⟩
  · simp [hCounted.files]
  · simp [(checkedAdd_eq_some.mp hTotal).2, hCounted.total, totalSize, frozenFile]

/- The contents of a reading are those of the paths, in their order. -/
theorem readAll_counted {paths : List String} {read read' : Reading}
    (hRead : paths.foldlM (readSelected source manifest) read s = .ok (read', s'))
    (hCounted : read.Counted manifest) :
    read'.Counted manifest ∧ read'.contents.map Prod.fst = read.contents.map Prod.fst ++ paths := by
  induction paths generalizing read s with
  | nil =>
    rw [foldlM_nil, run_pure_eq_ok] at hRead
    rcases hRead with ⟨rfl, -⟩
    exact ⟨hCounted, (append_nil _).symm⟩
  | cons path paths ih =>
    rw [foldlM_cons, run_bind_eq_ok] at hRead
    rcases hRead with ⟨middle, t, hFirst, hRest⟩
    rcases readSelected_eq_ok hCounted hFirst with ⟨hMiddle, bytes, hContent⟩
    rcases ih hRest hMiddle with ⟨hAll, hPaths⟩
    refine ⟨hAll, ?_⟩
    rw [hPaths, hContent, map_append, append_assoc]
    rfl

/- A snapshot records the file of every path it has read, and has read no path twice. -/
theorem collectSnapshot_shape {rounds : Nat} {limits : CollectorLimits} {snapshot : Snapshot δ}
    (hCollect : collectSnapshot source manifest hash rounds limits s = .ok (snapshot, s')) :
    snapshot.files = snapshot.contents.map (fun c => frozenFile c.1 c.2) ∧
      (snapshot.contents.map Prod.fst).Nodup := by
  simp only [collectSnapshot, run_bind_eq_ok, run_lift_eq_ok, run_pure_eq_ok] at hCollect
  rcases hCollect with ⟨_, _, -, _, _, -, _, _, -, found, _, -, _, _, -, _, _,
      -, _, _, -, read, _, hRead, sha, _, -, rfl, -⟩
  rcases readAll_counted hRead ⟨rfl, rfl, Nat.zero_le _⟩ with ⟨hCounted, hPaths⟩
  refine ⟨hCounted.files, ?_⟩
  rw [hPaths]
  exact found.selected.nodup

/- Equal records are of the same paths and lengths. -/
theorem exists_same_length {contents contents' : List (String × List UInt8)} (hFiles :
      contents.map (fun c => frozenFile c.1 c.2) = contents'.map (fun c => frozenFile c.1 c.2))
    {path : String} {bytes : List UInt8} (hRead : (path, bytes) ∈ contents) :
    ∃ bytes', (path, bytes') ∈ contents' ∧ bytes.length = bytes'.length := by
  have hFile : frozenFile path bytes ∈ contents.map (fun c => frozenFile c.1 c.2) :=
    mem_map.mpr ⟨(path, bytes), hRead, rfl⟩
  rw [hFiles] at hFile
  rcases mem_map.mp hFile with ⟨⟨path', bytes'⟩, hOther, hSame⟩
  simp only [frozenFile, FrozenFile.mk.injEq, and_true] at hSame
  rcases hSame with ⟨rfl, hLength⟩
  exact ⟨bytes', hOther, hLength.symm⟩

end

-- What The Freeze Notices

section

variable [DecidableEq δ] {collector : SnapshotCollector} {source : SnapshotSource σ δ}
  {manifest : SubmissionManifest} {hash : List FrozenFile → Option δ} {codec : ArchiveCodec}
  {sha256 : List UInt8 → δ}

/- A freeze that succeeds has collected the recorded files again, and its archive holds what it has
  read. -/
theorem freeze_eq_ok {rounds : Nat} {report : PreflightReport δ} {frozen : FrozenArchive δ}
    {t t' : σ} (hFreeze : collector.freeze source manifest hash codec sha256
      rounds report t = .ok (frozen, t')) :
    ∃ after, collectSnapshot source manifest hash rounds collector.limits t = .ok (after, t') ∧
      after.files = report.files ∧
      ∀ path bytes, frozen.Holds codec path bytes ↔ (path, bytes) ∈ after.contents := by
  have hGet : ∀ s : σ, (get : Collect σ σ) s = .ok (s, s) := fun _ => rfl
  simp only [SnapshotCollector.freeze, run_bind_eq_ok,
    run_lift_eq_ok, run_pure_eq_ok, hGet] at hFreeze
  rcases hFreeze with ⟨_, _, ⟨⟩, _, _, ⟨-, rfl⟩, after, t₁, hCollect, _, _,
      ⟨hSame, rfl⟩, bytes, _, ⟨hBytes, rfl⟩, _, _, ⟨-, rfl⟩, rfl, rfl⟩
  have hSame := ensure_eq_ok.mp hSame
  have hBytes := require_eq_ok.mp hBytes
  refine ⟨after, hCollect, hSame.1, ?_⟩
  intro path content
  constructor
  · rintro ⟨archive, hVec, hFile⟩
    cases codec.toVec_injective _ _ _ hVec hBytes
    rcases mem_map.mp hFile with ⟨⟨path', content'⟩, hRead, hPlaced⟩
    rcases CanonicalArchiveFile.mk.inj hPlaced with ⟨rfl, hContent⟩
    rwa [← codec.base64_injective _ _ hContent]
  · intro hRead
    exact ⟨_, hBytes, mem_map.mpr ⟨(path, content), hRead, rfl⟩⟩

/- A file was read with other bytes of the same number the second time. -/
def UnnoticedChange (before after : Snapshot δ) : Prop :=
  ∃ path bytes bytes', (path, bytes) ∈ before.contents ∧ (path, bytes') ∈ after.contents ∧
    bytes.length = bytes'.length ∧ bytes ≠ bytes'

/- The archive holds for every selected path the bytes that the preflight has read, exactly if no
  file was replaced by other bytes of the same length in between. -/
theorem frozen_contents_iff {rounds rounds' : Nat} {report : PreflightReport δ}
    {before : Snapshot δ} {frozen : FrozenArchive δ} {s s' t t' : σ}
    (hPreflight : collector.preflight source manifest hash rounds s = .ok (report, s'))
    (hBefore : collectSnapshot source manifest hash rounds collector.limits s = .ok (before, s'))
    (hFreeze : collector.freeze source manifest hash codec sha256
      rounds' report t = .ok (frozen, t')) :
    (∀ path bytes, (path, bytes) ∈ before.contents → frozen.Holds codec path bytes) ↔ ∀ after u,
      collectSnapshot source manifest hash rounds' collector.limits t = .ok (after, u) →
      ¬UnnoticedChange before after := by
  rcases freeze_eq_ok hFreeze with ⟨after, hAfter, hFiles, hHolds⟩
  have hReport : report.files = before.files := by
    simp only [SnapshotCollector.preflight, run_bind_eq_ok, run_pure_eq_ok] at hPreflight
    rcases hPreflight with ⟨snapshot, _, hCollect, _, _, -, rfl, -⟩
    cases hBefore.symm.trans hCollect
    rfl
  rcases collectSnapshot_shape hBefore with ⟨hShape, -⟩
  rcases collectSnapshot_shape hAfter with ⟨hShape', hUnique⟩
  constructor
  · rintro hKept again u hAgain ⟨path, bytes, bytes', hRead, hRead', -, hOther⟩
    cases hAfter.symm.trans hAgain
    have hPlaced := (hHolds path bytes).mp (hKept path bytes hRead)
    have hSame := inj_on_of_nodup_map hUnique hPlaced hRead' rfl
    exact hOther (Prod.mk.inj hSame).2
  · intro hNoticed path bytes hRead
    have hSameFiles := hFiles.trans hReport
    rw [hShape, hShape'] at hSameFiles
    rcases exists_same_length hSameFiles.symm hRead with ⟨bytes', hRead', hLength⟩
    have hEqual : bytes = bytes' := by
      by_contra hOther
      exact hNoticed after t' hAfter ⟨path, bytes, bytes', hRead, hRead', hLength, hOther⟩
    rwa [hHolds, hEqual]

end

-- Examples

namespace CollectorSample

def source : SnapshotSource (List UInt8) String where
  identity := fun _ => "workspace"
  validatePath := fun _ => pure ()
  metadata := fun _ => do
    let bytes ← get
    pure (some { kind := .file, sizeBytes := bytes.length })
  readDir := fun _ => pure []
  readFile := fun _ _ => get

def manifest : SubmissionManifest where
  name := "answer"
  source := .workspace
  includes := [.exactFile "answer.txt"]
  excludes := []
  required := []
  llmReadable := []
  maxTotalBytes := 1000
  maxFiles := 10
  followSymlinks := false

def collector : SnapshotCollector where
  limits := { maxSourceBytes := 1000, maxArchiveBytes := 2000, maxFiles := 10 }
  source_pos := by decide
  archive_pos := by decide
  files_pos := by decide
  source_le := by decide

/- The digest of the list of the one file, which does not depend on its byte. -/
def manifestSha256 : String :=
  "3da8a3362a2cd9075d32c9f6fa95aee2491acee462b304ab37535803f83babda"

def hash (files : List FrozenFile) : Option String :=
  if files = [frozenFile "answer.txt" [65]] then some manifestSha256 else none

/- The texts of the two contents of the file. All others begin with a character that is not of the
  alphabet. -/
def base64 : List UInt8 → String
| [65] => "QQ=="
| [66] => "Qg=="
| bytes => String.ofList ('.' :: bytes.map (fun b => Char.ofNat b.toNat))

theorem base64_injective (bytes bytes' : List UInt8) (hText : base64 bytes = base64 bytes') :
    bytes = bytes' := by
  have hCode : ∀ n < 256, (Char.ofNat n).toNat = n := by
    decide +kernel
  have hChars := congrArg String.toList hText
  unfold base64 at hChars
  split at hChars <;> split at hChars <;> simp at hChars
  · rfl
  · rfl
  · refine map_injective_iff.mpr ?_ hChars
    intro b b' hChar
    have hNat := congrArg Char.toNat hChar
    rw [hCode _ b.toNat_lt, hCode _ b'.toNat_lt] at hNat
    exact UInt8.toNat_inj.mp hNat

variable (bytes : List UInt8)

def archive : CanonicalArchive where
  apiVersion := "evaluation.labweaver.io/frozen-submission-archive/v1"
  files := [⟨"answer.txt", base64 bytes⟩]

/- The canonical document of the archive. -/
def written : List UInt8 :=
  ("\x7b\"apiVersion\":\"evaluation.labweaver.io/frozen-submission-archive/v1\",\"files\":" ++
    "[\x7b\"contentBase64\":\"" ++ base64 bytes ++ "\",\"path\":\"answer.txt\"\x7d]\x7d").toList.map
      (fun c => UInt8.ofNat c.toNat)

/- The two archives of the sample can be written. -/
def codec : ArchiveCodec where
  base64 := base64
  toVec := fun value =>
    ([[65], [66]].find? (fun bytes => decide (archive bytes = value))).map written
  base64_injective := base64_injective
  toVec_injective := by
    have hApart : ∀ bytes ∈ [[65], [66]], ∀ bytes' ∈ [[65], [66]], written bytes = written bytes' →
        bytes = bytes' := by
      decide +kernel
    intro first second document hFirst hSecond
    rcases Option.map_eq_some_iff.mp hFirst with ⟨bytes, hBytes, hWritten⟩
    rcases Option.map_eq_some_iff.mp hSecond with ⟨bytes', hBytes', hWritten'⟩
    have hFound := find?_some hBytes
    have hFound' := find?_some hBytes'
    rw [← of_decide_eq_true hFound, ← of_decide_eq_true hFound',
      hApart bytes (mem_of_find?_eq_some hBytes) bytes' (mem_of_find?_eq_some hBytes')
        (hWritten.trans hWritten'.symm)]

def sha256 (document : List UInt8) : String :=
  if document = written [65] then
    "0c2285dd23b85b409de536541724ab9be02f20ae99744c340e1ba8cb4df044ff"
  else "63516a562cbe43d1cafce71fa6cc9d6c6e461e8399cea075d014a814f12b17e4"

/- The preflight reads the file with the given bytes. -/
def snapshot : Snapshot String where
  files := [frozenFile "answer.txt" bytes]
  contents := [("answer.txt", bytes)]
  manifestSha256 := manifestSha256
  totalBytes := bytes.length

def report : PreflightReport String where
  sourceIdentity := "workspace"
  files := [frozenFile "answer.txt" bytes]
  manifestSha256 := manifestSha256
  totalBytes := bytes.length

def frozen : FrozenArchive String where
  files := [frozenFile "answer.txt" bytes]
  manifestSha256 := manifestSha256
  bytes := written bytes
  sha256 := sha256 (written bytes)
  mediaType := "application/vnd.labweaver.frozen-submission.v1+json"

end CollectorSample

section

open CollectorSample

/- A file that does not change is archived as it was. -/
theorem frozen_contents_sample : collector.preflight source manifest hash 0 [65] =
      .ok (report [65], [65]) ∧ collector.freeze source manifest hash codec sha256 0
      (report [65]) [65] = .ok (frozen [65], [65]) ∧
    (frozen [65]).Holds codec "answer.txt" [65] := by
  have hPreflight : collector.preflight source manifest hash 0 [65] = .ok (report [65], [65]) := by
    decide
  have hBefore : collectSnapshot source manifest hash 0 collector.limits [65] =
      .ok (snapshot [65], [65]) := by
    decide
  have hFreeze : collector.freeze source manifest hash codec sha256 0
      (report [65]) [65] = .ok (frozen [65], [65]) := by
    decide +kernel
  refine ⟨hPreflight, hFreeze, ?_⟩
  refine (frozen_contents_iff hPreflight hBefore hFreeze).mpr ?_ "answer.txt" [65] (by decide)
  rintro after u hAfter ⟨path, bytes, bytes', hRead, hRead', -, hOther⟩
  cases hBefore.symm.trans hAfter
  simp only [snapshot, mem_singleton, Prod.mk.injEq] at hRead hRead'
  exact hOther (hRead.2.trans hRead'.2.symm)

/- The file is rewritten with another byte in between. The freeze succeeds, and the archive does not
  hold what the preflight has read. -/
theorem rewritten_file_is_frozen : collector.preflight source manifest hash 0 [65] =
      .ok (report [65], [65]) ∧
    collectSnapshot source manifest hash 0 collector.limits [65] = .ok (snapshot [65], [65]) ∧
    ("answer.txt", [65]) ∈ (snapshot [65]).contents ∧
    collector.freeze source manifest hash codec sha256 0
      (report [65]) [66] = .ok (frozen [66], [66]) ∧
    ¬(frozen [66]).Holds codec "answer.txt" [65] := by
  refine ⟨by decide, by decide, by decide, by decide +kernel, ?_⟩
  rintro ⟨found, hVec, hFile⟩
  have hFound : codec.toVec (archive [66]) = some (frozen [66]).bytes := by
    decide +kernel
  cases codec.toVec_injective _ _ _ hVec hFound
  revert hFile
  decide

end

end LabWeaver
