import Vibemux.Collector.Snapshot

/-!
# Work trees and what Git reports about them

The base tree, the index and the work tree are maps from paths to files. `gitStatus` and `gitRawDiff`
render what `git status --porcelain=v1 -z` and `git diff --raw -z` report about the three.
-/

namespace Vibemux.Collector

open Text SortDedup

/-- A file of a tree. -/
inductive File where
  | regular (executable : Bool) (bytes : Bytes)
  | symlink (target : Bytes)
deriving DecidableEq

/-- What a file holds, without its permission bit. -/
inductive FileContent where
  | regular (bytes : Bytes)
  | symlink (target : Bytes)
deriving DecidableEq

def File.content : File → FileContent
  | .regular _ bytes => .regular bytes
  | .symlink target => .symlink target

/-- The directories above a path, from the top. `above` is the part of the path that was read. -/
def ancestorsFrom (above : Path) : List Char → List Path
  | [] => []
  | c :: rest =>
    if c = '/' then above :: ancestorsFrom (above ++ [c]) rest else ancestorsFrom (above ++ [c]) rest

/-- The directories above a path, from the top. -/
def ancestors (path : Path) : List Path := ancestorsFrom [] path

/-- The files of a commit or of the index. -/
structure Tree where
  files : List (Path × File)
  /-- Paths are not empty and have no NUL. -/
  named : ∀ path ∈ OrderedMap.keys files, path ≠ [] ∧ '\x00' ∉ path
  /-- No file is a directory of another. -/
  plain : ∀ path ∈ OrderedMap.keys files, ∀ above ∈ ancestors path, above ∉ OrderedMap.keys files

def Tree.get (tree : Tree) (path : Path) : Option File := OrderedMap.get tree.files path

/-- The files and the directories below one root. -/
structure FileSystem where
  files : List (Path × File)
  dirs : List Path

def FileSystem.get (fs : FileSystem) (path : Path) : Option File := OrderedMap.get fs.files path

/-- A checked-out tree that a worker may have changed. -/
structure WorkTree extends FileSystem where
  named : ∀ path ∈ OrderedMap.keys files, path ≠ [] ∧ '\x00' ∉ path
  /-- What is above a file is a directory. -/
  closed : ∀ path ∈ OrderedMap.keys files, ∀ above ∈ ancestors path, above ∈ dirs
  /-- A directory is not a file. -/
  apart : ∀ path ∈ dirs, path ∉ OrderedMap.keys files

/-- A fresh checkout of a tree. -/
def checkout (tree : Tree) : FileSystem :=
  ⟨tree.files, (OrderedMap.keys tree.files).flatMap ancestors⟩

/-! ## Git -/

/-- The parts of Git's reports that are not determined by the three trees. -/
structure GitReport where
  /-- Whether an untracked path is ignored. -/
  ignored : Path → Bool
  /-- The object names and the letter of a raw diff record. -/
  objects : Path → List Char
  objects_text : ∀ path, '\x00' ∉ objects path

/-- The letter for two versions of a file. -/
def changeLetter (before after : File) : Char :=
  if before = after then ' '
  else
    match before, after with
    | .regular _ _, .regular _ _ => 'M'
    | .symlink _, .symlink _ => 'M'
    | _, _ => 'T'

/-- The letter `X`: the index against the base tree. -/
def indexLetter : Option File → Option File → Char
  | none, none => ' '
  | none, some _ => 'A'
  | some _, none => 'D'
  | some base, some index => changeLetter base index

/-- The letter `Y`: the work tree against the index. -/
def treeLetter : Option File → Option File → Char
  | none, _ => ' '
  | some _, none => 'D'
  | some index, some work => changeLetter index work

/-- One record of the status: the two letters and the path. -/
structure StatusRecord where
  index : Char
  tree : Char
  path : Path

def StatusRecord.text (record : StatusRecord) : List Char :=
  [record.index, record.tree, ' '] ++ record.path

section

variable (report : GitReport) (base index : Tree) (work : FileSystem)

/-- The paths of the base tree and of the index. -/
def trackedPaths : List Path :=
  sortDedup (OrderedMap.keys base.files ++ OrderedMap.keys index.files)

/-- The files of the work tree that are not in the index. -/
def untrackedPaths : List Path :=
  sortDedup ((OrderedMap.keys work.files).filter fun path => (index.get path).isNone)

def trackedRecord (path : Path) : StatusRecord :=
  ⟨indexLetter (base.get path) (index.get path), treeLetter (index.get path) (work.get path), path⟩

/-- The records of the status: the changed tracked paths, the untracked and the ignored files. -/
def statusRecords : List StatusRecord :=
  ((trackedPaths base index).map (trackedRecord base index work)).filter
      (fun record => record.index != ' ' || record.tree != ' ') ++
    ((untrackedPaths index work).filter (!report.ignored ·)).map (⟨'?', '?', ·⟩) ++
    ((untrackedPaths index work).filter (report.ignored ·)).map (⟨'!', '!', ·⟩)

/-- `git status --porcelain=v1 -z --untracked-files=all --ignored=matching --no-renames`. -/
def gitStatus : List Char :=
  (statusRecords report base index work).flatMap fun record => record.text ++ ['\x00']

def fileMode : Option File → List Char
  | none => "000000".toList
  | some (.regular false _) => "100644".toList
  | some (.regular true _) => "100755".toList
  | some (.symlink _) => "120000".toList

/-- The work tree side of a raw diff: a path that left the index counts as deleted. -/
def diffedFile (path : Path) : Option File :=
  if (index.get path).isNone then none else work.get path

/-- The header of a raw diff record. -/
def diffHeader (path : Path) : List Char :=
  ':' :: (fileMode (base.get path) ++
    ' ' :: (fileMode (diffedFile index work path) ++ ' ' :: report.objects path))

/-- The tracked paths whose file differs from the base tree. -/
def diffPaths : List Path :=
  (trackedPaths base index).filter fun path =>
    decide (base.get path ≠ diffedFile index work path)

/-- `git diff --raw -z --no-renames --no-abbrev <base>`. -/
def gitRawDiff : List Char :=
  (diffPaths base index work).flatMap fun path =>
    diffHeader report base index work path ++ '\x00' :: (path ++ ['\x00'])

end

end Vibemux.Collector
