import Vibemux.Compiler.TaskSpec

/-!
# Operator policy

Intersecting a specification with the operator's policy removes tools, caps budgets and adds the
protected paths to the forbidden set. A write scope outside the policy is refused.
-/

namespace Vibemux

open SortDedup

/-- `OPERATOR_POLICY_SCHEMA_VERSION`. -/
def operatorPolicySchemaVersion : Nat := 1

/-- `MAX_POLICY_ITEMS`. -/
def maxPolicyItems : Nat := 64

/-- A suite that the operator declares. -/
structure VerifierSuiteDecl where
  suiteId : SpecIdentifier
  description : List Char
deriving DecidableEq

/-- What the operator allows. -/
structure OperatorPolicy where
  schemaVersion : Nat
  policyVersion : SpecIdentifier
  /-- Every owned path must lie inside one of these. -/
  writableRoots : List PathPattern
  /-- Never writable by a worker. -/
  protectedPaths : List PathPattern
  allowedTools : List ToolName
  verifierSuites : List VerifierSuiteDecl
  budgetCaps : ResourceBudget
  maxParallelSlots : Nat
  maxSupervisorDecisions : Nat
  maxOptimizerCandidates : Nat
  contentStoreOptIn : Bool
  aagOnly : Bool
deriving DecidableEq

/-- One field that the policy made smaller. -/
inductive Narrowing where
  | toolRemoved (tool : ToolName)
  | budgetCapped (field : String)
  | forbiddenPathAdded (path : PathPattern)
deriving DecidableEq, Ord

/-- A specification within the policy. -/
structure PolicyIntersection where
  /-- The narrowed, normalized spec that may be rendered. -/
  spec : TaskSpec
  narrowings : List Narrowing

def checkItemCount (name : String) (count : Nat) : Except SpecViolation Unit :=
  Checked.ensure (count ≤ maxPolicyItems) ⟨"policy_list_too_long", name⟩

def OperatorPolicy.validate (policy : OperatorPolicy) : Except SpecViolation Unit := do
  Checked.ensure (policy.schemaVersion = operatorPolicySchemaVersion)
    ⟨"policy_schema_unsupported", "schema_version"⟩
  checkItemCount "writable_roots" policy.writableRoots.length
  checkItemCount "protected_paths" policy.protectedPaths.length
  checkItemCount "verifier_suites" policy.verifierSuites.length
  Checked.ensure (policy.writableRoots ≠ []) ⟨"policy_no_writable_roots", "writable_roots"⟩
  Checked.forEach (fun root =>
    Checked.ensure (policy.protectedPaths.any root.isWithin = false)
      ⟨"policy_root_protected", "writable_roots:" ++ String.ofList root.text⟩)
    policy.writableRoots
  Checked.ensure (policy.maxParallelSlots ≠ 0 ∧ policy.maxSupervisorDecisions ≠ 0 ∧
    policy.budgetCaps.maxTurns ≠ 0 ∧ policy.budgetCaps.maxModelRequests ≠ 0 ∧
    policy.budgetCaps.maxElapsedSeconds ≠ 0) ⟨"policy_invalid_limits", "budget_caps"⟩

def OperatorPolicy.declaresSuite (policy : OperatorPolicy) (suite : SpecIdentifier) : Bool :=
  policy.verifierSuites.any (·.suiteId == suite)

/-- What `intersect` refuses. -/
def intersectionViolations (spec : TaskSpec) (policy : OperatorPolicy) : List SpecViolation :=
  violationIf (spec.policyVersion != policy.policyVersion) "policy_version_mismatch"
      "policy_version" ++
    (spec.ownedPaths.flatMap fun owned =>
      violationIf (!policy.writableRoots.any owned.isWithin) "owned_path_outside_policy"
          ("owned_paths:" ++ String.ofList owned.text) ++
        violationIf (policy.protectedPaths.any owned.overlaps) "owned_path_protected"
          ("owned_paths:" ++ String.ofList owned.text)) ++
    (spec.acceptanceChecks.flatMap fun check =>
      violationIf (check.kind == .existingVerifierSuite &&
        check.verifierSuite.all (!policy.declaresSuite ·)) "unknown_verifier_suite"
        ("acceptance_checks:" ++ String.ofList check.checkId.text))

/-- One budget under its cap, and the narrowing if it was above. -/
def capBudget (field : String) (value cap : Nat) : Nat × List Narrowing :=
  if cap < value then (cap, [.budgetCapped field]) else (value, [])

/-- Narrows a structurally valid spec to the policy, or rejects it. -/
def intersect (spec : TaskSpec) (policy : OperatorPolicy) :
    Except (List SpecViolation) PolicyIntersection := do
  reportViolations (intersectionViolations spec policy)
  let removed := spec.permittedTools.filter (!policy.allowedTools.contains ·)
  let turns := capBudget "max_turns" spec.resourceBudget.maxTurns policy.budgetCaps.maxTurns
  let repairs := capBudget "max_repairs" spec.resourceBudget.maxRepairs
    policy.budgetCaps.maxRepairs
  let requests := capBudget "max_model_requests" spec.resourceBudget.maxModelRequests
    policy.budgetCaps.maxModelRequests
  let elapsed := capBudget "max_elapsed_seconds" spec.resourceBudget.maxElapsedSeconds
    policy.budgetCaps.maxElapsedSeconds
  -- a protected path is added once, also when the policy names it twice
  let added := policy.protectedPaths.foldl
    (fun acc path => if (spec.forbiddenPaths ++ acc).contains path then acc else acc ++ [path]) []
  let narrowed : TaskSpec :=
    { spec with
      permittedTools := spec.permittedTools.filter (policy.allowedTools.contains ·)
      resourceBudget := ⟨turns.1, repairs.1, elapsed.1, requests.1⟩
      forbiddenPaths := spec.forbiddenPaths ++ added }
  return ⟨narrowed.normalized, sort (removed.map Narrowing.toolRemoved ++ turns.2 ++ repairs.2 ++
    requests.2 ++ elapsed.2 ++ added.map Narrowing.forbiddenPathAdded)⟩

end Vibemux
