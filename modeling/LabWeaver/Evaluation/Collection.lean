import LabWeaver.Evaluation.Collector

/-
  This file compares what the collector selects with what the rules of a manifest name. An exclude
  rule excludes every path it names, whatever the rule is for: a rule for a directory excludes a
  file, and a rule for a file excludes a directory with all files below it.

  Main declarations: `required_collectable_iff`, `collected_files_iff`.
-/

namespace LabWeaver

open Outcome PathRule List

-- Paths

section

variable {directory path middle : String}

theorem pathBelow_iff : pathBelow directory path = true ↔
    ∃ rest, path = directory ++ "/" ++ rest := by
  simp only [pathBelow, isPrefixOf_iff_prefix]
  constructor
  · rintro ⟨rest, hPath⟩
    refine ⟨String.ofList rest, String.toList_injective ?_⟩
    simpa using hPath.symm
  · rintro ⟨rest, rfl⟩
    exact ⟨rest.toList, by simp⟩

theorem pathBelow_trans (hFirst : pathBelow directory middle = true)
    (hSecond : pathBelow middle path = true) : pathBelow directory path = true := by
  rcases pathBelow_iff.mp hFirst with ⟨rest, rfl⟩
  rcases pathBelow_iff.mp hSecond with ⟨rest', rfl⟩
  exact pathBelow_iff.mpr ⟨rest ++ "/" ++ rest', by simp only [String.append_assoc]⟩

end

-- Rules

/- The files that a rule names: the one with its path, or those below its directory. -/
def PathRule.names (rule : PathRule) (path : String) : Bool :=
  match rule with
  | .exactFile exact => exact == path
  | .directoryTree directory => pathBelow directory path

section

variable {manifest : SubmissionManifest} {path : String}

theorem not_named_of_not_excluded (hOpen : manifest.excluded path = false) :
    ∀ rule ∈ manifest.excludes, rule.names path = false := by
  intro rule hRule
  have hCovers := any_eq_false.mp hOpen rule hRule
  cases rule <;> simp_all [coversPath, names]

/- The path of a required rule is not excluded exactly if no exclude rule has the same path. The
  manifest only refuses exclude rules of the same kind. -/
theorem required_collectable_iff {rule : PathRule} (hValid : manifest.Valid)
    (hRule : rule ∈ manifest.required ∨ rule ∈ manifest.llmReadable) :
    manifest.excluded rule.path = false ↔
      ∀ exclude ∈ manifest.excludes, exclude.path ≠ rule.path := by
  have hCollects : manifest.collects rule = true := by
    rcases hValid with ⟨-, -, -, -, -, -, -, -, -, -, -, -, hRequired, hReadable, -⟩
    rcases hRule with hRule | hRule
    · exact all_eq_true.mp hRequired rule hRule
    · exact all_eq_true.mp hReadable rule hRule
  simp only [SubmissionManifest.collects, Bool.and_eq_true, Bool.not_eq_true',
    any_eq_false] at hCollects
  simp only [SubmissionManifest.excluded, any_eq_false, Bool.not_eq_true]
  constructor
  · intro hOpen exclude hExclude hPath
    have hCovers := hOpen exclude hExclude
    rw [← hPath] at hCovers
    cases exclude <;> simp [coversPath, path] at hCovers
  · intro hPaths exclude hExclude
    have hCovers := hCollects.2 exclude hExclude
    have hPath := hPaths exclude hExclude
    cases exclude <;> simp_all [coversPath, covers, path]

/- A manifest that excludes its required file by a rule for a directory. -/
def CollectorSample.hidden : SubmissionManifest :=
  { CollectorSample.manifest with
    includes := [.exactFile "answer.txt", .exactFile "x"], excludes := [.directoryTree "x"]
    required := [.exactFile "x"], llmReadable := [.exactFile "answer.txt"] }

theorem required_collectable_sample : CollectorSample.hidden.Valid ∧
    CollectorSample.hidden.excluded "answer.txt" = false := by
  have hValid : CollectorSample.hidden.Valid := by
    decide
  have hRule : .exactFile "answer.txt" ∈ CollectorSample.hidden.llmReadable := by
    decide
  exact ⟨hValid, (required_collectable_iff hValid (.inr hRule)).mpr (by decide)⟩

theorem required_file_excluded : CollectorSample.hidden.Valid ∧
    .exactFile "x" ∈ CollectorSample.hidden.required ∧
    CollectorSample.hidden.excluded "x" = true := by
  decide

end

-- Source Trees

section

variable {σ δ : Type}

/- A source that answers every call from one tree of files and directories. -/
structure SnapshotSource.Serves (source : SnapshotSource σ δ)
    (tree : String → Option SourceMetadata) : Prop where
  metadata : ∀ {path found s s'}, source.metadata path s = .ok (found, s') → found = tree path
  readDir : ∀ {directory entries s s'}, source.readDir directory s = .ok (entries, s') →
    ∀ entry, entry ∈ entries ↔ '/' ∉ entry.name.toList ∧
      tree (directory ++ "/" ++ entry.name) = some entry.metadata

variable (tree : String → Option SourceMetadata) (manifest : SubmissionManifest)

def IsFile (path : String) : Prop := ∃ metadata, tree path = some metadata ∧ metadata.kind = .file

def Wanted (path : String) : Prop :=
  IsFile tree path ∧ (∃ rule ∈ manifest.includes, rule.names path = true) ∧
    ∀ rule ∈ manifest.excludes, rule.names path = false

/- The files below a directory to which a chain of entries leads that the collector does not
  exclude. -/
inductive Reached : String → String → Prop where
| file {directory name : String} {metadata : SourceMetadata} (hName : '/' ∉ name.toList)
    (hTree : tree (directory ++ "/" ++ name) = some metadata) (hFile : metadata.kind = .file)
    (hOpen : manifest.excluded (directory ++ "/" ++ name) = false) :
    Reached directory (directory ++ "/" ++ name)
| inside {directory name path : String} {metadata : SourceMetadata} (hName : '/' ∉ name.toList)
    (hTree : tree (directory ++ "/" ++ name) = some metadata)
    (hDirectory : metadata.kind = .directory)
    (hOpen : manifest.excluded (directory ++ "/" ++ name) = false)
    (hRest : Reached (directory ++ "/" ++ name) path) : Reached directory path

def ReachedBy (directory : String) (entry : SourceEntry) (path : String) : Prop :=
  manifest.excluded (directory ++ "/" ++ entry.name) = false ∧
    (entry.metadata.kind = .file ∧ path = directory ++ "/" ++ entry.name ∨
      entry.metadata.kind = .directory ∧
        Reached tree manifest (directory ++ "/" ++ entry.name) path)

/- What one include rule contributes. -/
def Chosen (rule : PathRule) (path : String) : Prop :=
  match rule with
  | .exactFile exact => IsFile tree exact ∧ manifest.excluded exact = false ∧ path = exact
  | .directoryTree directory => tree directory ≠ none ∧ Reached tree manifest directory path

end

section

variable {σ δ : Type} {source : SnapshotSource σ δ} {tree : String → Option SourceMetadata}
  {manifest : SubmissionManifest} {directory path : String} {s s' : σ}

/- What is reached from a directory is what its entries contribute. -/
theorem reached_iff (hServes : source.Serves tree) {entries : List SourceEntry}
    (hRead : source.readDir directory s = .ok (entries, s')) :
    Reached tree manifest directory path ↔
      ∃ entry ∈ entries, ReachedBy tree manifest directory entry path := by
  constructor
  · intro hReached
    cases hReached with
    | @file _ name metadata hName hTree hFile hOpen =>
      have hMember := (hServes.readDir hRead ⟨name, metadata⟩).mpr ⟨hName, hTree⟩
      exact ⟨_, hMember, hOpen, .inl ⟨hFile, rfl⟩⟩
    | @inside _ name _ metadata hName hTree hDirectory hOpen hRest =>
      have hMember := (hServes.readDir hRead ⟨name, metadata⟩).mpr ⟨hName, hTree⟩
      exact ⟨_, hMember, hOpen, .inr ⟨hDirectory, hRest⟩⟩
  · rintro ⟨entry, hMember, hOpen, hEntry⟩
    rcases (hServes.readDir hRead entry).mp hMember with ⟨hName, hTree⟩
    rcases hEntry with ⟨hFile, rfl⟩ | ⟨hDirectory, hRest⟩
    · exact .file hName hTree hFile hOpen
    · exact .inside hName hTree hDirectory hOpen hRest

/- A reached file is a file below the directory, and no exclude rule names it. -/
theorem Reached.wanted (hReached : Reached tree manifest directory path) :
    IsFile tree path ∧ pathBelow directory path = true ∧
      ∀ rule ∈ manifest.excludes, rule.names path = false := by
  induction hReached with
  | @file directory name metadata _ hTree hFile hOpen =>
    refine ⟨⟨metadata, hTree, hFile⟩, pathBelow_iff.mpr ⟨name, rfl⟩, ?_⟩
    exact not_named_of_not_excluded hOpen
  | @inside directory name path _ _ _ _ _ _ ih =>
    exact ⟨ih.1, pathBelow_trans (pathBelow_iff.mpr ⟨name, rfl⟩) ih.2.1, ih.2.2⟩

theorem Chosen.wanted {rule : PathRule} (hRule : rule ∈ manifest.includes)
    (hChosen : Chosen tree manifest rule path) : Wanted tree manifest path := by
  cases rule with
  | exactFile exact =>
    rcases hChosen with ⟨hFile, hOpen, rfl⟩
    exact ⟨hFile, ⟨_, hRule, beq_self_eq_true _⟩, not_named_of_not_excluded hOpen⟩
  | directoryTree directory =>
    rcases hChosen.2.wanted with ⟨hFile, hBelow, hOpen⟩
    exact ⟨hFile, ⟨_, hRule, hBelow⟩, hOpen⟩

/- The file is selected, or it will be reached from a pending directory. -/
def Ahead (tree : String → Option SourceMetadata) (manifest : SubmissionManifest) (path : String)
    (found : Selection × List String) : Prop :=
  path ∈ found.1.selected.elements ∨ ∃ directory ∈ found.2, Reached tree manifest directory path

theorem visitEntry_ahead {entry : SourceEntry} {found found' : Selection × List String}
    (hVisit : visitEntry manifest directory found entry = .ok found') :
    Ahead tree manifest path found' ↔
      Ahead tree manifest path found ∨ ReachedBy tree manifest directory entry path := by
  simp only [visitEntry, joinRelative, check, bind_eq_ok] at hVisit
  rcases hVisit with ⟨joined, ⟨_, -, _, -, ⟨⟩⟩, _, -, hVisit⟩
  unfold ReachedBy
  cases hExcluded : manifest.excluded (directory ++ "/" ++ entry.name) with
  | true =>
    rw [hExcluded] at hVisit
    cases hVisit
    simp
  | false =>
    rw [hExcluded] at hVisit
    cases hKind : entry.metadata.kind <;>
      simp only [hKind, Bool.false_eq_true, if_false] at hVisit
    case file =>
      rw [bind_eq_ok] at hVisit
      rcases hVisit with ⟨_, -, hVisit⟩
      cases hVisit
      simp [Ahead, OrderedSet.mem_insert, or_assoc, or_comm]
    case directory =>
      cases hVisit
      simp [Ahead, or_comm, or_left_comm]
    all_goals cases hVisit

/- A finished walk has selected what was ahead of it. -/
theorem walkDirectory_selected (hServes : source.Serves tree) {rounds : Nat}
    {pending : List String} {found found' : Selection}
    (hWalk : walkDirectory source manifest rounds pending found s = .ok (found', s')) :
    path ∈ found'.selected.elements ↔ Ahead tree manifest path (found, pending) := by
  induction rounds generalizing pending found s with
  | zero =>
    cases pending with
    | nil =>
      cases hWalk
      simp [Ahead]
    | cons directory pending => cases hWalk
  | succ rounds ih =>
    cases pending with
    | nil =>
      cases hWalk
      simp [Ahead]
    | cons directory pending =>
      simp only [walkDirectory, run_bind_eq_ok, run_lift_eq_ok] at hWalk
      rcases hWalk with ⟨entries, t, hRead, ⟨found₁, pending₁⟩, _, ⟨hVisit, rfl⟩, hWalk⟩
      rw [ih hWalk, foldlM_gains (fun _ _ _ hStep => visitEntry_ahead hStep) hVisit]
      simp only [mem_reverse, ← reached_iff hServes hRead]
      simp [Ahead, or_comm, or_left_comm]

theorem selectRule_selected (hServes : source.Serves tree) {rounds : Nat} {rule : PathRule}
    {found found' : Selection}
    (hSelect : selectRule source manifest rounds found rule s = .ok (found', s')) :
    path ∈ found'.selected.elements ↔
      path ∈ found.selected.elements ∨ Chosen tree manifest rule path := by
  cases rule with
  | exactFile exact =>
    simp only [selectRule] at hSelect
    split at hSelect
    case isTrue hExcluded =>
      cases hSelect
      simp [Chosen, hExcluded]
    case isFalse hOpen =>
      simp only [run_bind_eq_ok] at hSelect
      rcases hSelect with ⟨_, _, -, answer, _, hMetadata, hSelect⟩
      cases hServes.metadata hMetadata
      cases hTree : tree exact with
      | none =>
        simp only [hTree] at hSelect
        cases hSelect
        simp [Chosen, IsFile, hTree]
      | some metadata =>
        simp only [hTree, run_bind_eq_ok, run_lift_eq_ok, check, ensure_eq_ok] at hSelect
        rcases hSelect with ⟨_, _, -, _, _, ⟨hFile, -⟩, hSelect⟩
        cases hSelect
        simp [Chosen, IsFile, hTree, hFile, hOpen, OrderedSet.mem_insert, or_comm]
  | directoryTree directory =>
    simp only [selectRule, run_bind_eq_ok] at hSelect
    rcases hSelect with ⟨_, _, -, answer, _, hMetadata, hSelect⟩
    cases hServes.metadata hMetadata
    cases hTree : tree directory with
    | none =>
      simp only [hTree] at hSelect
      cases hSelect
      simp [Chosen, hTree]
    | some metadata =>
      simp only [hTree, run_bind_eq_ok, run_lift_eq_ok] at hSelect
      rcases hSelect with ⟨_, _, -, _, _, -, hWalk⟩
      rw [walkDirectory_selected hServes hWalk]
      simp [Ahead, Chosen, hTree]

-- Collected Files

/- The collected files are the wanted ones, once each in order and within the limits, exactly if an
  include rule contributes every wanted file: neither the file nor a directory on the way from the
  rule has the path of an exclude rule. -/
theorem collected_files_iff {hash : List FrozenFile → Option δ} {rounds : Nat}
    {limits : CollectorLimits} {snapshot : Snapshot δ} (hServes : source.Serves tree)
    (hCollect : collectSnapshot source manifest hash rounds limits s = .ok (snapshot, s')) :
    ((∀ path, path ∈ snapshot.files.map (·.path) ↔ Wanted tree manifest path) ∧
        (snapshot.files.map (·.path)).Pairwise (· < ·) ∧ snapshot.files.length ≤ manifest.maxFiles ∧
        totalSize snapshot.files ≤ manifest.maxTotalBytes) ↔ ∀ path, Wanted tree manifest path →
        ∃ rule ∈ manifest.includes, Chosen tree manifest rule path := by
  simp only [collectSnapshot, run_bind_eq_ok, run_lift_eq_ok, run_pure_eq_ok, check,
    ensure_eq_ok] at hCollect
  rcases hCollect with ⟨_, _, -, _, _, -, _, _, -, found, _, hSelect, _, _, -, _, _,
      -, _, _, ⟨hCount, -⟩, read, _, hRead, sha, _, -, rfl, -⟩
  rcases readAll_counted hRead ⟨rfl, rfl, Nat.zero_le _⟩ with ⟨hCounted, hPaths⟩
  have hPaths : read.files.map (·.path) = found.selected.elements := by
    rwa [hCounted.files, map_map]
  have hSelected : ∀ path, path ∈ found.selected.elements ↔
      ∃ rule ∈ manifest.includes, Chosen tree manifest rule path := by
    intro path
    rw [run_foldlM_gains (fun _ _ _ _ _ hStep => selectRule_selected hServes hStep) hSelect]
    simp [OrderedSet.empty]
  have hSorted : found.selected.elements.Pairwise (· < ·) := by
    refine (found.selected.sorted.and found.selected.nodup).imp ?_
    rintro left right ⟨hLe, hNe⟩
    exact lt_of_le_of_ne hLe hNe
  have hLength : read.files.length ≤ manifest.maxFiles := by
    rwa [← length_map (·.path), hPaths]
  have hBytes : totalSize read.files ≤ manifest.maxTotalBytes := by
    rw [← hCounted.total]
    exact hCounted.within
  simp only [hPaths, hSorted, hLength, hBytes, and_true, hSelected]
  constructor
  · intro hExact path
    exact (hExact path).mpr
  · intro hChosen path
    refine ⟨?_, hChosen path⟩
    rintro ⟨rule, hRule, hRuleChosen⟩
    exact hRuleChosen.wanted hRule

end

-- Examples

namespace CollectorSample

def twoFiles (path : String) : Option SourceMetadata :=
  if path = "answer.txt" ∨ path = "x" then some { kind := .file, sizeBytes := 1 } else none

def twoFileSource : SnapshotSource (List UInt8) String :=
  { source with
    metadata := fun path => pure (twoFiles path)
    readDir := fun _ => throw (.failed .sourceUnavailable) }

theorem twoFileSource_serves : twoFileSource.Serves twoFiles where
  metadata := by
    rintro path found s s' ⟨⟩
    rfl
  readDir := by
    rintro directory entries s s' ⟨⟩

/- The manifest asks for both files and excludes a directory with the path of the second. -/
def pruned : SubmissionManifest := { hidden with required := [] }

end CollectorSample

section

open CollectorSample

theorem collected_files_sample :
    collectSnapshot twoFileSource manifest hash 0 collector.limits [65] =
      .ok (snapshot [65], [65]) ∧ Wanted twoFiles manifest "answer.txt" := by
  have hCollect : collectSnapshot twoFileSource manifest hash 0 collector.limits [65] =
      .ok (snapshot [65], [65]) := by
    decide
  have hExact := (collected_files_iff twoFileSource_serves hCollect).mpr (by
    rintro path ⟨hFile, ⟨rule, hRule, hNames⟩, -⟩
    cases mem_singleton.mp hRule
    cases eq_of_beq hNames
    exact ⟨_, hRule, hFile, rfl, rfl⟩)
  exact ⟨hCollect, (hExact.1 "answer.txt").mp (by decide)⟩

theorem wanted_file_missing : pruned.Valid ∧ twoFileSource.Serves twoFiles ∧
    collectSnapshot twoFileSource pruned hash 0 collector.limits [65] = .ok (snapshot [65], [65]) ∧
    Wanted twoFiles pruned "x" ∧ "x" ∉ (snapshot [65]).files.map (·.path) := by
  refine ⟨by decide, twoFileSource_serves, by decide, ⟨⟨_, rfl, rfl⟩, ?_, ?_⟩, by decide⟩
  · decide
  · decide

end

end LabWeaver
