import Vibemux.Compiler.TaskSpec

/-!
# Contract artifacts

The immutable, content-free record of an admitted contract. A semantic edit gives a new generation
with the next contract version and a recorded difference.
-/

namespace Vibemux

/-- A prompt transformation on the side of the route. -/
inductive RouteTransformation where
  | none
  | declared (identifier : List Char)
deriving DecidableEq

/-- What changed in meaning between two generations of one task. -/
structure SemanticDiff where
  requirementsAdded : List (List Char) := []
  requirementsRemoved : List (List Char) := []
  requirementsChanged : List (List Char) := []
  scopeChanged : Bool := false
  toolsChanged : Bool := false
  checksChanged : Bool := false
  budgetChanged : Bool := false
  objectiveChanged : Bool := false
deriving DecidableEq

def SemanticDiff.isEmpty (self : SemanticDiff) : Bool := self == {}

/-- A stored contract. -/
structure ContractArtifact where
  schemaVersion : Nat
  contractId : Sha256Digest
  workflowKey : List Char
  taskKey : List Char
  contractVersion : Nat
  taskSpecDigest : Sha256Digest
  policyDigest : Sha256Digest
  templateDigest : Sha256Digest
  templateVersion : List Char
  harnessProfile : List Char
  routeTransformation : RouteTransformation
  contextBundleDigests : List Sha256Digest
  baseCommit : List Char
  renderedPromptDigest : Sha256Digest
  renderedPromptBytes : Nat
  previousContractId : Option Sha256Digest
  semanticDiff : Option SemanticDiff
deriving DecidableEq

end Vibemux
