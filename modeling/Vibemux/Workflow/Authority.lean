import Vibemux.Compiler.TaskSpec
import Vibemux.Harness.Attempt

/-!
# Execution authority

What an admitted specification lets a worker do, and what the dispatcher can prove about the route a
worker really ran on. Digests of canonical encodings are parameters; the encoding can fail.
-/

namespace Vibemux

open SortDedup

/-- Why a value has no canonical form. -/
inductive CanonicalError where
  | nonIntegerNumber
  | tooDeep
  | unserializable
deriving DecidableEq

def CanonicalError.code : CanonicalError → String
  | nonIntegerNumber => "workflow_canonical_non_integer"
  | tooDeep => "workflow_canonical_too_deep"
  | unserializable => "workflow_canonical_unserializable"

/-- A digest of the canonical encoding of a value. -/
abbrev DigestOf (α : Type) := α → Except CanonicalError Sha256Digest

/-- `EXECUTION_AUTHORITY_SCHEMA_VERSION`. -/
def executionAuthoritySchemaVersion : Nat := 1

/-- What the dispatcher can prove about one effective route. An unknown endpoint is kept unknown. -/
structure EffectiveRouteIdentity where
  harness : AgentKind
  protocol : NativeProtocol
  modelAlias : Option (List Char)
  endpoint : Option (List Char)
  configDigest : Sha256Digest
  profile : List Char
deriving DecidableEq

/-- The tools that a specification grants. -/
structure ExecutionAuthority where
  schemaVersion : Nat
  taskSpecDigest : Sha256Digest
  /-- In the order of the tools. -/
  admittedTools : List ToolName
deriving DecidableEq

namespace ExecutionAuthority

def fromSpec (taskSpecDigest : DigestOf TaskSpec) (spec : TaskSpec) :
    Except CanonicalError ExecutionAuthority := do
  return ⟨executionAuthoritySchemaVersion, ← taskSpecDigest spec, sortDedup spec.permittedTools⟩

/-- Answers and reviews cannot add read or search authority, nor keep mutation tools. -/
def effectiveTools (self : ExecutionAuthority) (readOnly : Bool) : List ToolName :=
  self.admittedTools.filter fun tool => !readOnly || tool == .readFiles || tool == .searchFiles

end ExecutionAuthority

/-- `writable_profile_id`: the profile a contract records for a protocol, where one is certified. -/
def writableProfileId : NativeProtocol → Option (List Char)
  | .claudeStreamJson => some "claude_stream_json_writable_v1".toList
  | .codexExec | .codexAppServer | .acp | .dshSdkJsonRpc => none

end Vibemux
