import Vibemux.Lib.SortWith
import Vibemux.Workflow.Receipts

/-!
# Selection among candidates of one task

Hard gates come first. Among the valid candidates the metrics of the policy decide in order, and a metric
that is unknown for either side cannot decide. The last resort is the lowest digest.
-/

namespace Vibemux

open SortDedup SortWith

/-- What is measured of a candidate. -/
structure CandidateMetrics where
  testsPassed : Nat
  /-- `none` when usage is unknown. -/
  modelRequests : Option Nat
  elapsedMs : Option Nat
  changedBytes : Nat
deriving DecidableEq

/-- A candidate with its gate and its metrics. -/
structure ComparisonEntry where
  candidate : CandidateRecord
  gate : Except (List GateFailure) CandidateAcceptance
  metrics : CandidateMetrics

def ComparisonEntry.digest (entry : ComparisonEntry) : Sha256Digest := entry.candidate.candidateDigest

/-- The order in which the metrics decide, fixed before workers are admitted. -/
structure SelectionPolicy where
  metricOrder : List MetricKey
deriving DecidableEq

def SelectionPolicy.baseline : SelectionPolicy :=
  ⟨[.testsPassed, .modelRequests, .elapsedMs, .changedBytes]⟩

/-- Two values that are both known. -/
def compareKnown : Option Nat → Option Nat → Ordering
  | some left, some right => compare left right
  | _, _ => .eq

/-- `compare_metric`: `lt` means that the left is better. -/
def compareMetric (metric : MetricKey) (left right : CandidateMetrics) : Ordering :=
  match metric with
  | .testsPassed => compare right.testsPassed left.testsPassed
  | .modelRequests => compareKnown left.modelRequests right.modelRequests
  | .elapsedMs => compareKnown left.elapsedMs right.elapsedMs
  | .changedBytes => compare left.changedBytes right.changedBytes

/-- The first metric that decides, and the digest when none does. -/
def compareEntries (left right : ComparisonEntry) : List MetricKey → Ordering
  | [] => compare left.digest right.digest
  | metric :: rest =>
    (compareMetric metric left.metrics right.metrics).then (compareEntries left right rest)

def CandidateOrigin.isMutation : CandidateOrigin → Bool
  | injectedMutation _ _ => true
  | _ => false

/-- Why a candidate is out of the comparison. -/
def ComparisonEntry.exclusionReasons (entry : ComparisonEntry) (contractId : Sha256Digest) :
    List String :=
  (match entry.gate with
    | .error failures => failures.map GateFailure.code
    | .ok _ => []) ++
  (if entry.candidate.contractId ≠ contractId then ["selection_different_contract"] else []) ++
  (if entry.candidate.origin.isMutation then ["selection_mutation_artifact"] else [])

/-- The metric, or its absence, that put the first of two candidates first. -/
def decidedBetween (policy : SelectionPolicy) (first second : CandidateMetrics) : DecidedBy :=
  match policy.metricOrder.find? fun metric => compareMetric metric first second ≠ .eq with
  | some metric => .metric metric
  | none => .tieBreaker

/-- The candidates that nothing excludes. -/
def validEntries (entries : List ComparisonEntry) (contractId : Sha256Digest) :
    List ComparisonEntry :=
  entries.filter fun entry => entry.exclusionReasons contractId = []

def excludedEntries (entries : List ComparisonEntry) (contractId : Sha256Digest) :
    List ExcludedCandidate :=
  (entries.filter fun entry => entry.exclusionReasons contractId ≠ []).map fun entry =>
    ⟨entry.candidate.candidateDigest,
      (sortDedup (entry.exclusionReasons contractId)).map String.toList⟩

/-- The valid candidates, best first. -/
def rankedEntries (entries : List ComparisonEntry) (policy : SelectionPolicy)
    (contractId : Sha256Digest) : List ComparisonEntry :=
  sortWith (fun left right => compareEntries left right policy.metricOrder)
    (validEntries entries contractId)

/-- What put the first of the ranked candidates first. -/
def decidedBy (policy : SelectionPolicy) : List ComparisonEntry → DecidedBy
  | [] => .noValidCandidate
  | [_] => .onlyValidCandidate
  | first :: second :: _ => decidedBetween policy first.metrics second.metrics

/-- Ranks the candidates and picks a winner. -/
def select (entries : List ComparisonEntry) (policy : SelectionPolicy) (contractId : Sha256Digest) :
    SelectionOutcome :=
  let ranking := rankedEntries entries policy contractId
  { winner := ranking.head?.map ComparisonEntry.digest
    decidedBy := decidedBy policy ranking
    ranking := ranking.map ComparisonEntry.digest
    excluded := sortBy ExcludedCandidate.candidateDigest (excludedEntries entries contractId) }

end Vibemux
