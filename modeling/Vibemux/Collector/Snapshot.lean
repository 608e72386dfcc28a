import Vibemux.Compiler.TaskSpec
import Vibemux.Lib.OrderedMap

/-!
# Candidate snapshots

A manifest of observed changes is admitted only when every change is a regular text file, or a
deletion, inside the owned paths and outside the forbidden and the protected paths.
-/

namespace Vibemux.Collector

open Text SortDedup

/-- The bytes of a file. -/
abbrev Bytes := List UInt8

/-- A repository-relative path. -/
abbrev Path := List Char

/-- `SNAPSHOT_SCHEMA_VERSION`. -/
def snapshotSchemaVersion : Nat := 1

/-- The types of files in a worktree. -/
inductive ObservedFileType where
  | regular
  | symlink
  /-- Directories, devices, sockets and the like. -/
  | special
deriving DecidableEq

/-- How a path differs from the base. -/
inductive ObservedChangeKind where
  | added
  | modified
  | deleted
deriving DecidableEq

/-- What was read at a path. -/
structure ObservedContent where
  sha256 : Sha256Digest
  byteCount : Nat
  /-- Valid UTF-8 without NUL bytes. -/
  isText : Bool
deriving DecidableEq

/-- One change the daemon observed. Content facts are absent for deletions. -/
structure ObservedChange where
  path : Path
  kind : ObservedChangeKind
  fileType : ObservedFileType
  modeChanged : Bool
  content : Option ObservedContent
deriving DecidableEq

/-- One changed path. -/
inductive SnapshotChange where
  | write (sha256 : Sha256Digest) (byteCount : Nat)
  | delete
deriving DecidableEq

/-- All changes of a worktree. -/
structure SnapshotManifest where
  schemaVersion : Nat
  baseCommit : List Char
  /-- In the order of the paths. -/
  entries : List (Path × SnapshotChange)
deriving DecidableEq

def SnapshotManifest.paths (manifest : SnapshotManifest) : List Path :=
  OrderedMap.keys manifest.entries

/-- What a task may change. -/
structure ScopePolicy where
  owned : List PathPattern
  forbidden : List PathPattern
  /-- The field `protected`. -/
  guarded : List PathPattern
  maxFiles : Nat
  maxFileBytes : Nat
  maxTotalBytes : Nat

/-- Why a change is out of scope. -/
inductive ScopeViolation where
  | invalidPath (path : Path)
  | outsideOwnedPaths (path : Path)
  | protectedPath (path : Path)
  | forbiddenPath (path : Path)
  | symlink (path : Path)
  | specialFile (path : Path)
  | modeChange (path : Path)
  | binaryContent (path : Path)
  | fileTooLarge (path : Path)
  | tooManyFiles
  | totalTooLarge
  | empty
deriving DecidableEq, Ord

def ScopeViolation.code : ScopeViolation → String
  | .invalidPath _ => "snapshot_invalid_path"
  | .outsideOwnedPaths _ => "snapshot_outside_owned_paths"
  | .protectedPath _ => "snapshot_protected_path"
  | .forbiddenPath _ => "snapshot_forbidden_path"
  | .symlink _ => "snapshot_symlink"
  | .specialFile _ => "snapshot_special_file"
  | .modeChange _ => "snapshot_mode_change"
  | .binaryContent _ => "snapshot_binary_content"
  | .fileTooLarge _ => "snapshot_file_too_large"
  | .tooManyFiles => "snapshot_too_many_files"
  | .totalTooLarge => "snapshot_total_too_large"
  | .empty => "snapshot_empty"

/-- `violation`, when `found`. -/
def scopeIf (found : Bool) (violation : ScopeViolation) : List ScopeViolation :=
  if found then [violation] else []

/-- Where the path of a change may not lie: the first of the three that applies. -/
def placeViolations (scope : ScopePolicy) (path : Path) : List ScopeViolation :=
  if scope.guarded.any (·.matchesCaseInsensitively path) then [.protectedPath path]
  else if scope.forbidden.any (·.matchesCaseInsensitively path) then [.forbiddenPath path]
  else scopeIf (!scope.owned.any (·.matches path)) (.outsideOwnedPaths path)

def typeViolations (change : ObservedChange) : List ScopeViolation :=
  match change.fileType with
  | .symlink => [.symlink change.path]
  | .special => [.specialFile change.path]
  | .regular => []

/-- The manifest entry of a change, if its content is known. -/
def snapshotChange (change : ObservedChange) : Option SnapshotChange :=
  match change.kind, change.content with
  | .deleted, _ => some .delete
  | _, some content => some (.write content.sha256 content.byteCount)
  | _, none => none

def contentViolations (scope : ScopePolicy) (change : ObservedChange) : List ScopeViolation :=
  match change.kind, change.content with
  | .deleted, _ => []
  | _, some content =>
    scopeIf (!content.isText) (.binaryContent change.path) ++
      scopeIf (decide (scope.maxFileBytes < content.byteCount)) (.fileTooLarge change.path)
  | _, none => [.invalidPath change.path]

/-- The violations of one change. -/
def changeViolations (scope : ScopePolicy) (change : ObservedChange) : List ScopeViolation :=
  if !isRelativePath change.path then [.invalidPath change.path]
  else
    placeViolations scope change.path ++ typeViolations change ++
      scopeIf change.modeChanged (.modeChange change.path) ++ contentViolations scope change

/-- The bytes a change adds to the total. -/
def changeBytes (change : ObservedChange) : Nat :=
  if isRelativePath change.path then
    match snapshotChange change with
    | some (.write _ byteCount) => byteCount
    | _ => 0
  else 0

/-- One step of the loop over the changes: a later change of a path replaces an earlier one. -/
def insertChange (entries : List (Path × SnapshotChange)) (change : ObservedChange) :
    List (Path × SnapshotChange) :=
  if isRelativePath change.path then
    match snapshotChange change with
    | some entry => OrderedMap.insert change.path entry entries
    | none => entries
  else entries

/-- Everything that keeps the changes from being admitted. -/
def manifestViolations (changes : List ObservedChange) (scope : ScopePolicy) :
    List ScopeViolation :=
  scopeIf (changes == []) .empty ++
    scopeIf (decide (scope.maxFiles < changes.length)) .tooManyFiles ++
    changes.flatMap (changeViolations scope) ++
    scopeIf (decide (scope.maxTotalBytes < (changes.map changeBytes).foldl saturatingAdd 0))
      .totalTooLarge

/-- Builds the manifest, or every violation found. -/
def buildManifest (baseCommit : List Char) (changes : List ObservedChange) (scope : ScopePolicy) :
    Except (List ScopeViolation) SnapshotManifest :=
  if manifestViolations changes scope = [] then
    .ok ⟨snapshotSchemaVersion, baseCommit, changes.foldl insertChange []⟩
  else .error (sortDedup (manifestViolations changes scope))

end Vibemux.Collector
