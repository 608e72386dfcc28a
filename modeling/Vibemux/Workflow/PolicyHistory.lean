import Vibemux.Basic
import Vibemux.Lib.History

/-!
# Versions of a prompt policy

The history of promoted policies: a promotion supersedes the active version and names it as its parent,
a rollback makes the parent active again.
-/

namespace Vibemux

open Checked

/-- The states of a policy version. -/
inductive PolicyState where
  | active
  | superseded
  | rolledBack
deriving DecidableEq

/-- A version of the policy. -/
structure PolicyVersion where
  version : Nat
  parent : Option Nat
  policyDigest : Sha256Digest
  state : PolicyState
deriving DecidableEq

/-- The versions in the order of their promotions. -/
abbrev PolicyHistory := List PolicyVersion

/-- Why a policy is not promoted. -/
inductive OptimizerRejection where
  | invalidHistory
deriving DecidableEq

namespace PolicyHistory

variable (history : PolicyHistory)

def active : Option PolicyVersion := history.find? fun version => version.state = .active

/-- Makes a policy the active one. -/
def promote (policyDigest : Sha256Digest) : Except OptimizerRejection (Nat × PolicyHistory) := do
  let parent := history.active.map PolicyVersion.version
  let next ← require ((history.map PolicyVersion.version).max?.elim (some 1) (checkedSucc u32Max))
    .invalidHistory
  let superseded := history.map fun version =>
    if version.state = .active then { version with state := .superseded } else version
  return (next, superseded ++ [⟨next, parent, policyDigest, .active⟩])

/-- Goes back to the version before. -/
def rollback : Except OptimizerRejection (Nat × PolicyHistory) := do
  let active ← require history.active .invalidHistory
  let parent ← require active.parent .invalidHistory
  return (parent, history.map fun version =>
    if version.version = active.version then { version with state := .rolledBack }
    else if version.version = parent then { version with state := .active }
    else version)

end PolicyHistory

/-- The operations on the history. -/
inductive PolicyOp where
  | promote (policyDigest : Sha256Digest)
  | rollback
deriving DecidableEq

def policyStep (history : PolicyHistory) : PolicyOp → Except OptimizerRejection (Nat × PolicyHistory)
  | .promote policyDigest => history.promote policyDigest
  | .rollback => history.rollback

end Vibemux
