import Vibemux.Collector.WorkTree

/-!
# Candidate collection

The daemon asks Git for every changed path of a work tree, inspects each without following links, and
builds the manifest under the scope of the task. Written bytes are kept by digest.
-/

namespace Vibemux.Collector

open Text SortDedup

/-- The error of the workflow engine that collection reports. -/
inductive WorkflowError where
  | snapshot
deriving DecidableEq

/-- `HEAD_MOVED_CODE`. -/
def headMovedCode : String := "snapshot_head_moved"

/-- The limits of one candidate. -/
structure CandidateLimits where
  maxFiles : Nat
  maxFileBytes : Nat
  maxTotalBytes : Nat

/-- The scope one collection is checked against. -/
structure CollectionScope where
  owned : List PathPattern
  forbidden : List PathPattern
  /-- The field `protected`. -/
  guarded : List PathPattern
  limits : CandidateLimits

def CollectionScope.policy (scope : CollectionScope) : ScopePolicy :=
  ⟨scope.owned, scope.forbidden, scope.guarded, scope.limits.maxFiles, scope.limits.maxFileBytes,
    scope.limits.maxTotalBytes⟩

/-! ## Parsing -/

/-- The kind of a change, from the two bytes of its status. -/
def changeKind : List Char → ObservedChangeKind
  | ['?', '?'] => .added
  | ['!', '!'] => .added
  | ['A', _] => .added
  | ['D', _] => .deleted
  | [_, 'D'] => .deleted
  | _ => .modified

/-- One `XY path` record; a blank follows the two bytes, and the path is not empty. -/
def parseRecord (record : List Char) : Except WorkflowError (Path × ObservedChangeKind) :=
  match splitAt 2 record with
  | some (letters, ' ' :: path) => if path = [] then .error .snapshot else .ok (path, changeKind letters)
  | _ => .error .snapshot

def parseRecords : List (List Char) → Except WorkflowError (List (Path × ObservedChangeKind))
  | [] => .ok []
  | record :: rest => do
    let entry ← parseRecord record
    let entries ← parseRecords rest
    return entry :: entries

/-- The pieces between NULs that are not empty. -/
def fieldsOf (text : List Char) : List (List Char) := (splitOn '\x00' text).filter (· != [])

def parseStatus (status : List Char) : Except WorkflowError (List (Path × ObservedChangeKind)) :=
  parseRecords (fieldsOf status)

def isZeroMode (mode : List Char) : Bool := mode.all (· == '0')

/-- Whether the header of a raw diff record shows two modes that differ. -/
def parseHeader (header : List Char) : Except WorkflowError Bool :=
  match header with
  | ':' :: modes =>
    match splitOn ' ' modes with
    | oldMode :: newMode :: _ =>
      .ok (!isZeroMode oldMode && !isZeroMode newMode && oldMode != newMode)
    | _ => .error .snapshot
  | _ => .error .snapshot

def parseModeRecords : List (List Char) → Except WorkflowError (List Path)
  | [] => .ok []
  | [_] => .error .snapshot
  | header :: path :: rest => do
    let changed ← parseHeader header
    let paths ← parseModeRecords rest
    return if changed then path :: paths else paths

/-- Paths whose tracked file mode differs from the base commit. -/
def parseModeChanges (raw : List Char) : Except WorkflowError (List Path) :=
  parseModeRecords (fieldsOf raw)

/-! ## File access -/

/-- The result of `symlink_metadata`. -/
inductive Stat where
  | file (file : File)
  | directory
  | notFound
  /-- A file stands where the path needs a directory. -/
  | notADirectory
deriving DecidableEq

/-- What happens behind symbolic links. -/
structure FileAccess where
  /-- What a path below a link leads to. -/
  beyond : FileSystem → Path → Stat
  /-- A write to a path that is a link. -/
  writeThrough : FileSystem → Path → Bytes → Option FileSystem

/-- A write through a link changes neither a link nor a directory, and what it creates has a
name. -/
structure FileAccess.Lawful (access : FileAccess) : Prop where
  keepsLinks : ∀ {fs after path bytes link target}, access.writeThrough fs path bytes = some after →
    fs.get link = some (.symlink target) → after.get link = some (.symlink target)
  keepsDirs : ∀ {fs after path bytes dir}, access.writeThrough fs path bytes = some after →
    dir ∈ fs.dirs → dir ∈ after.dirs
  keepsNames : ∀ {fs after path bytes created}, access.writeThrough fs path bytes = some after →
    after.get created ≠ none → fs.get created = none → created ≠ [] ∧ '\x00' ∉ created

section

variable (access : FileAccess) (sha256 : Bytes → Sha256Digest)

def stat (fs : FileSystem) (path : Path) : Stat :=
  match fs.get path with
  | some file => .file file
  | none =>
    if path ∈ fs.dirs then .directory
    else
      match ((ancestors path).filterMap fs.get).head? with
      | some (.regular _ _) => .notADirectory
      | some (.symlink _) => access.beyond fs path
      | none => .notFound

/-- Valid UTF-8 without NUL bytes. -/
def isTextContent (bytes : Bytes) : Bool :=
  (ByteArray.mk bytes.toArray).validateUTF8 && !bytes.contains 0

/-- What was observed of one path: the change, its bytes if they were read, and the bytes that all
paths have so far. -/
structure Observation where
  change : ObservedChange
  bytes : Option Bytes
  total : Nat

/-- Inspects one path without following links. Content is read only for regular files within the
bounds. -/
def observe (fs : FileSystem) (path : Path) (kind : ObservedChangeKind) (limits : CandidateLimits)
    (total : Nat) : Except WorkflowError Observation :=
  let change : ObservedChange := ⟨path, kind, .regular, false, none⟩
  if kind = .deleted ∨ isRelativePath path = false then .ok ⟨change, none, total⟩
  else
    match stat access fs path with
    -- deleted between status and inspection
    | .notFound => .ok ⟨{ change with kind := .deleted }, none, total⟩
    | .notADirectory => .error .snapshot
    | .file (.symlink _) => .ok ⟨{ change with fileType := .symlink }, none, total⟩
    | .directory => .ok ⟨{ change with fileType := .special }, none, total⟩
    | .file (.regular _ bytes) =>
      let byteCount := bytes.length
      let total := saturatingAdd total byteCount
      if limits.maxFileBytes < byteCount ∨ limits.maxTotalBytes < total then
        .ok ⟨{ change with content := some ⟨sha256 [], byteCount, false⟩ }, none, total⟩
      else
        .ok ⟨{ change with content := some ⟨sha256 bytes, byteCount, isTextContent bytes⟩ },
          some bytes, total⟩

/-- The changes of a work tree and the bytes that were read. -/
structure Observed where
  changes : List ObservedChange
  contents : List (Path × Bytes)

/-- The loop over the status entries. -/
def observeAll (fs : FileSystem) (limits : CandidateLimits) (modes : List Path) (total : Nat)
    (observed : Observed) :
    List (Path × ObservedChangeKind) → Except WorkflowError Observed
  | [] => .ok observed
  | (path, kind) :: rest => do
    let one ← observe access sha256 fs path kind limits total
    let contents := match one.bytes with
      | some bytes => OrderedMap.insert path bytes observed.contents
      | none => observed.contents
    let change := { one.change with modeChanged := modes.contains path }
    observeAll fs limits modes one.total ⟨observed.changes ++ [change], contents⟩ rest

/-! ## The blob store -/

/-- Content-addressed bytes. -/
abbrev BlobStore := List (Sha256Digest × Bytes)

/-- The bytes of a digest, read back and hashed again. -/
def BlobStore.get (blobs : BlobStore) (digest : Sha256Digest) (byteCount : Nat) :
    Except WorkflowError Bytes :=
  match OrderedMap.get blobs digest with
  | some bytes =>
    if bytes.length ≠ byteCount ∨ sha256 bytes ≠ digest then .error .snapshot else .ok bytes
  | none => .error .snapshot

/-- Stores bytes once; a blob that does not hash to its name is replaced. -/
def BlobStore.put (blobs : BlobStore) (bytes : Bytes) : Sha256Digest × BlobStore :=
  let digest := sha256 bytes
  match BlobStore.get sha256 blobs digest bytes.length with
  | .ok _ => (digest, blobs)
  | .error _ => (digest, OrderedMap.insert digest bytes blobs)

/-! ## Collection -/

/-- What one collection observed. -/
structure Collection where
  /-- The manifest, or the content-free violation codes. -/
  manifest : Except (List String) SnapshotManifest
  /-- Bytes of every collected text write, by path. -/
  texts : List (Path × Bytes)

/-- The loop that stores the bytes of the manifest's writes. -/
def storeWrites (contents texts : List (Path × Bytes)) (blobs : BlobStore) :
    List (Path × SnapshotChange) → Except WorkflowError (List (Path × Bytes) × BlobStore)
  | [] => .ok (texts, blobs)
  | (_, .delete) :: rest => storeWrites contents texts blobs rest
  | (path, .write digest _) :: rest => do
    let bytes ← Checked.require (OrderedMap.get contents path) .snapshot
    let stored := BlobStore.put sha256 blobs bytes
    Checked.ensure (stored.1 = digest) .snapshot
    Checked.ensure ((ByteArray.mk bytes.toArray).validateUTF8 = true) .snapshot
    storeWrites (OrderedMap.erase contents path) (OrderedMap.insert path bytes texts) stored.2 rest

/-- An owned work tree: its files, the index and the commit that `HEAD` points at. -/
structure Workspace where
  baseCommit : List Char
  base : Tree
  head : List Char
  index : Tree
  work : FileSystem

/-- Collects the changes of one owned work tree and stores their bytes. -/
def collect (report : GitReport) (workspace : Workspace) (scope : CollectionScope)
    (blobs : BlobStore) : Except WorkflowError (Collection × BlobStore) :=
  if workspace.head ≠ workspace.baseCommit then .ok (⟨.error [headMovedCode], []⟩, blobs)
  else do
    let entries ← parseStatus (gitStatus report workspace.base workspace.index workspace.work)
    let modes ← parseModeChanges (gitRawDiff report workspace.base workspace.index workspace.work)
    let observed ← observeAll access sha256 workspace.work scope.limits modes 0 ⟨[], []⟩ entries
    match buildManifest workspace.baseCommit observed.changes scope.policy with
    | .ok manifest => do
      let stored ← storeWrites sha256 observed.contents [] blobs manifest.entries
      return (⟨.ok manifest, stored.1⟩, stored.2)
    | .error violations =>
      return (⟨.error (dedup (violations.map ScopeViolation.code)), []⟩, blobs)

/-! ## Materialization -/

/-- Refuses a write through an existing link or special directory. -/
def rejectLinkedAncestors (fs : FileSystem) : List Path → Except WorkflowError Unit
  | [] => .ok ()
  | above :: rest =>
    match stat access fs above with
    | .directory => rejectLinkedAncestors fs rest
    | .notFound => .ok ()
    | _ => .error .snapshot

/-- `create_dir_all`. -/
def createDirAll (fs : FileSystem) (dirs : List Path) : Except WorkflowError FileSystem :=
  if dirs.any (fun dir => (fs.get dir).isSome) then .error .snapshot
  else .ok { fs with dirs := fs.dirs ++ dirs }

/-- `std::fs::write`. -/
def writeFile (fs : FileSystem) (path : Path) (bytes : Bytes) : Except WorkflowError FileSystem :=
  if path ∈ fs.dirs then .error .snapshot
  else
    match fs.get path with
    | some (.regular executable _) =>
      .ok { fs with files := OrderedMap.insert path (.regular executable bytes) fs.files }
    | some (.symlink _) => Checked.require (access.writeThrough fs path bytes) .snapshot
    | none => .ok { fs with files := OrderedMap.insert path (.regular false bytes) fs.files }

/-- `std::fs::remove_file`; a file that is not there is no error. -/
def removeFile (fs : FileSystem) (path : Path) : Except WorkflowError FileSystem :=
  match stat access fs path with
  | .file _ => .ok { fs with files := OrderedMap.erase fs.files path }
  | .notFound => .ok fs
  | _ => .error .snapshot

/-- Applies one entry. -/
def applyEntry (blobs : BlobStore) (fs : FileSystem) (entry : Path × SnapshotChange) :
    Except WorkflowError FileSystem := do
  Checked.ensure (isRelativePath entry.1 = true) .snapshot
  rejectLinkedAncestors access fs (ancestors entry.1)
  match entry.2 with
  | .write digest byteCount => do
    let bytes ← BlobStore.get sha256 blobs digest byteCount
    let created ← createDirAll fs (ancestors entry.1)
    writeFile access created entry.1 bytes
  | .delete => removeFile access fs entry.1

/-- Applies the entries one after the other. -/
def applyEntries (blobs : BlobStore) (fs : FileSystem) :
    List (Path × SnapshotChange) → Except WorkflowError FileSystem
  | [] => .ok fs
  | entry :: rest => do
    let next ← applyEntry access sha256 blobs fs entry
    applyEntries blobs next rest

/-- Applies manifests to a fresh work tree at the base commit. -/
def applyManifests (blobs : BlobStore) (target : FileSystem) (manifests : List SnapshotManifest) :
    Except WorkflowError FileSystem :=
  applyEntries access sha256 blobs target (manifests.flatMap SnapshotManifest.entries)

/-- Counts one more entry under the alias of its path, which keeps the first spelling. -/
def countAlias (toUppercase : List Char → List Char) (seen : List (List Char × (Path × Nat)))
    (entry : Path × SnapshotChange) : List (List Char × (Path × Nat)) :=
  let counted := (OrderedMap.get seen (toUppercase entry.1)).getD (entry.1, 0)
  OrderedMap.insert (toUppercase entry.1) (counted.1, counted.2 + 1) seen

/-- Paths written or deleted by more than one manifest; `toUppercase` is `str::to_uppercase`. -/
def overlappingPaths (toUppercase : List Char → List Char) (manifests : List SnapshotManifest) :
    List Path :=
  let seen := (manifests.flatMap SnapshotManifest.entries).foldl (countAlias toUppercase) []
  (seen.filter fun counted => decide (1 < counted.2.2)).map fun counted => counted.2.1

/-- Applies manifests to a fresh work tree of the base commit and collects it. -/
def materialize (report : GitReport) (baseCommit : List Char) (base : Tree)
    (manifests : List SnapshotManifest) (scope : CollectionScope) (blobs : BlobStore) :
    Except WorkflowError (Collection × BlobStore) := do
  let work ← applyManifests access sha256 blobs (checkout base) manifests
  collect access sha256 report ⟨baseCommit, base, baseCommit, base, work⟩ scope blobs

end

end Vibemux.Collector
