import Vibemux.Compiler.Policy
import Vibemux.Lib.AsciiCase
import Vibemux.Workflow.Supervisor

/-!
# Context effects of the supervisor

Least-privilege checks for the tools that read or share context: which paths a contract lets out, and
which bundles may be handed on.
-/

namespace Vibemux

def maxSupervisorContextBytes : Nat := 32 * 1024

/-- `path_permitted`: inside the scopes of the contract, and outside what is forbidden in any case of
letters. -/
def pathPermitted (spec : TaskSpec) (path : List Char) (protectedPaths : List PathPattern) : Bool :=
  isRelativePath path && decide (ToolName.readFiles ∈ spec.permittedTools) &&
    !(spec.forbiddenPaths ++ protectedPaths).any (fun scope =>
      scope.matches path || scope.matchesCaseInsensitively path) &&
    (spec.ownedPaths ++ spec.readScopes).any fun scope => scope.matches path

/-- Where the attribution of a claim comes from. -/
def Attribution.sourceKind : Attribution → ContextSourceKind
  | workerClaim _ => .workerClaims
  | verifierConfirmed _ => .verifierReceipts

/-- Whether a worker may see the bundle. -/
def bundlePermitted (bundle : ContextBundle) (spec : TaskSpec) (protectedPaths : List PathPattern) :
    Bool :=
  let policy := spec.contextPolicy
  decide (0 < bundle.byteCount) &&
    decide (bundle.byteCount ≤ min policy.maxBundleBytes maxSupervisorContextBytes) &&
    decide (ToolName.readFiles ∈ spec.permittedTools) && policy.allowPublicExcerpts &&
    bundle.sourceRefs.all (fun source =>
      decide (ContextSourceKind.candidateSnapshot ∈ policy.retrievalOrder) &&
        decide (source.snapshotDigest = bundle.snapshotDigest) && decide (0 < source.startLine) &&
        decide (source.startLine ≤ source.endLine) && pathPermitted spec source.path protectedPaths) &&
    bundle.claims.all (fun claim => decide (claim.attribution.sourceKind ∈ policy.retrievalOrder)) &&
    !(bundle.sourceRefs.isEmpty && bundle.claims.isEmpty)

end Vibemux
