import Vibemux.Workflow.Selection
import Vibemux.Compiler.Proofs.OrderProofs

/-!
# Order independence of selection

The comparison of two candidates is antisymmetric but not transitive: a metric that is known for two of
three candidates orders those two, while the third is ordered by later metrics. `select` is independent
of the order exactly when the comparison is transitive on the valid ones.
-/

namespace Vibemux

open SortDedup SortWith List

variable {a b c entry : ComparisonEntry} {left right : CandidateMetrics} {metric : MetricKey}
  {order : List MetricKey} {rest : List ComparisonEntry}

/-! ## The comparison of two candidates -/

theorem compareKnown_swap (left right : Option Nat) :
    compareKnown right left = (compareKnown left right).swap := by
  cases left <;> cases right <;> try rfl
  exact (Nat.compare_swap _ _).symm

theorem compareMetric_swap (metric : MetricKey) (left right : CandidateMetrics) :
    compareMetric metric right left = (compareMetric metric left right).swap := by
  cases metric with
  | testsPassed => exact (Nat.compare_swap _ _).symm
  | modelRequests => exact compareKnown_swap _ _
  | elapsedMs => exact compareKnown_swap _ _
  | changedBytes => exact (Nat.compare_swap _ _).symm

theorem compareEntries_swap (left right : ComparisonEntry) (order : List MetricKey) :
    compareEntries right left order = (compareEntries left right order).swap := by
  induction order with
  | nil => exact (Nat.compare_swap _ _).symm
  | cons metric rest ih =>
    rw [compareEntries, compareEntries, Ordering.swap_then, ih, compareMetric_swap]

/-- Only equal digests leave a comparison undecided. -/
theorem digest_eq_of_compareEntries {left right : ComparisonEntry}
    (h : compareEntries left right order = .eq) : left.digest = right.digest := by
  induction order with
  | nil =>
    have hbits : left.digest.bits.toNat = right.digest.bits.toNat := Nat.compare_eq_eq.1 h
    have := BitVec.eq_of_toNat_eq hbits
    cases hl : left.digest
    cases hr : right.digest
    rw [hl, hr] at this
    exact congrArg Sha256Digest.mk this
  | cons metric rest ih =>
    rw [compareEntries, Ordering.then_eq_eq] at h
    exact ih h.2

/-! ## Independence -/

/-- What a selection owes to the predeclared order alone: every order of the candidates gives the same
outcome, and no valid candidate is better than the winner. -/
structure OrderIndependent (entries : List ComparisonEntry) (policy : SelectionPolicy)
    (contractId : Sha256Digest) : Prop where
  permuted : ∀ entries', entries'.Perm entries →
    (select entries' policy contractId).winner = (select entries policy contractId).winner ∧
    (select entries' policy contractId).decidedBy = (select entries policy contractId).decidedBy ∧
    (select entries' policy contractId).ranking = (select entries policy contractId).ranking ∧
    (select entries' policy contractId).excluded = (select entries policy contractId).excluded
  unbeaten : ∀ entry ∈ validEntries entries contractId, ∀ winner ∈ entries,
    (select entries policy contractId).winner = some winner.digest →
      compareEntries entry winner policy.metricOrder ≠ .lt

/-- The comparison is transitive on the valid candidates. -/
def ComparisonTransitive (entries : List ComparisonEntry) (policy : SelectionPolicy)
    (contractId : Sha256Digest) : Prop :=
  ∀ a ∈ validEntries entries contractId, ∀ b ∈ validEntries entries contractId,
    ∀ c ∈ validEntries entries contractId, compareEntries a b policy.metricOrder = .lt →
      compareEntries b c policy.metricOrder = .lt → compareEntries a c policy.metricOrder = .lt

section

variable {entries : List ComparisonEntry} {policy : SelectionPolicy} {contractId : Sha256Digest}

theorem validEntries_subset : validEntries entries contractId ⊆ entries := filter_subset_self _

theorem strictOn_of_transitive (hdistinct : (entries.map ComparisonEntry.digest).Nodup)
    (htrans : ComparisonTransitive entries policy contractId) :
    StrictOn (fun left right => compareEntries left right policy.metricOrder)
      (· ∈ validEntries entries contractId) where
  swap a b _ _ := compareEntries_swap a b policy.metricOrder
  eq _ _ ha hb h := inj_on_of_nodup_map hdistinct (validEntries_subset ha)
    (validEntries_subset hb) (digest_eq_of_compareEntries h)
  trans a b c ha hb hc := htrans a ha b hb c hc

/-- Distinct digests leave one order for the excluded candidates. -/
theorem sortBy_excludedEntries_perm (hdistinct : (entries.map ComparisonEntry.digest).Nodup)
    {entries' : List ComparisonEntry} (hperm : entries'.Perm entries) :
    sortBy ExcludedCandidate.candidateDigest (excludedEntries entries' contractId) =
      sortBy ExcludedCandidate.candidateDigest (excludedEntries entries contractId) := by
  refine sortBy_eq_of_perm ((hperm.filter _).map _) fun a ha b hb hdigest => ?_
  obtain ⟨first, hfirst, rfl⟩ := mem_map.1 ha
  obtain ⟨second, hsecond, rfl⟩ := mem_map.1 hb
  have hfirst' := hperm.mem_iff.1 (mem_of_mem_filter hfirst)
  have hsecond' := hperm.mem_iff.1 (mem_of_mem_filter hsecond)
  rw [inj_on_of_nodup_map hdistinct hfirst' hsecond' hdigest]

theorem mem_rankedEntries :
    entry ∈ rankedEntries entries policy contractId ↔ entry ∈ validEntries entries contractId :=
  (perm_sortWith _).mem_iff

section

variable (hdistinct : (entries.map ComparisonEntry.digest).Nodup)
  (htrans : ComparisonTransitive entries policy contractId)
include hdistinct htrans

theorem rankedEntries_perm {entries' : List ComparisonEntry} (hperm : entries'.Perm entries) :
    rankedEntries entries' policy contractId = rankedEntries entries policy contractId :=
  sortWith_perm (strictOn_of_transitive hdistinct htrans) (fun _ h => h)
    ((List.Nodup.of_map _ hdistinct).filter _) (hperm.filter _)

/-- The first of the ranking is better than the others. -/
theorem unbeaten_of_transitive {first : ComparisonEntry}
    (hranking : rankedEntries entries policy contractId = first :: rest)
    (hentry : entry ∈ validEntries entries contractId) :
    compareEntries entry first policy.metricOrder ≠ .lt := by
  have hsorted := pairwise_sortWith (strictOn_of_transitive hdistinct htrans) (fun _ h => h)
    ((List.Nodup.of_map _ hdistinct).filter _)
  have hmem : entry ∈ rankedEntries entries policy contractId := mem_rankedEntries.2 hentry
  unfold rankedEntries at hranking hmem
  rw [hranking] at hsorted hmem
  intro hlt
  rcases mem_cons.1 hmem with rfl | hrest
  · have hself := compareEntries_swap entry entry policy.metricOrder
    rw [hlt] at hself
    cases hself
  · have hbeaten := (pairwise_cons.1 hsorted).1 entry hrest
    rw [compareEntries_swap entry first, hlt] at hbeaten
    cases hbeaten

theorem orderIndependent_of_transitive : OrderIndependent entries policy contractId := by
  constructor
  · intro entries' hperm
    simp only [select, rankedEntries_perm hdistinct htrans hperm,
      sortBy_excludedEntries_perm hdistinct hperm, and_self]
  · intro entry hentry winner hwinner hselected
    simp only [select] at hselected
    cases hranking : rankedEntries entries policy contractId with
    | nil => simp [hranking] at hselected
    | cons first rest =>
      have hfirst : first ∈ validEntries entries contractId :=
        mem_rankedEntries.1 (hranking ▸ mem_cons_self)
      have hdigest : first.digest = winner.digest := by simpa [hranking] using hselected
      obtain rfl := inj_on_of_nodup_map hdistinct (validEntries_subset hfirst) hwinner hdigest
      exact unbeaten_of_transitive hdistinct htrans hranking hentry

end

/-- The valid candidates may stand before the excluded ones, in any order. -/
theorem validEntries_append {valid : List ComparisonEntry}
    (hvalid : valid.Perm (validEntries entries contractId)) :
    ∃ entries', entries'.Perm entries ∧ validEntries entries' contractId = valid := by
  refine ⟨valid ++ entries.filter fun entry => !decide (entry.exclusionReasons contractId = []),
    (hvalid.append_right _).trans (filter_append_perm _ entries), ?_⟩
  have hall : ∀ entry ∈ valid, entry.exclusionReasons contractId = [] := fun entry hentry => by
    have hmem : entry ∈ validEntries entries contractId := hvalid.mem_iff.1 hentry
    simpa using of_mem_filter hmem
  unfold validEntries
  rw [filter_append, filter_eq_self.2 fun entry hentry => by simpa using hall entry hentry]
  simp

/-- Three candidates of which each is better than the next keep their order in every ranking that is
the same for all orders of the candidates. -/
theorem sublist_ranking_of_chain (h : OrderIndependent entries policy contractId)
    (hvalid : (a :: b :: c :: rest).Perm (validEntries entries contractId))
    (hab : compareEntries a b policy.metricOrder = .lt)
    (hbc : compareEntries b c policy.metricOrder = .lt) :
    [a.digest, b.digest, c.digest].Sublist (select entries policy contractId).ranking := by
  obtain ⟨entries', hperm, hentries'⟩ := validEntries_append hvalid
  have hchain : [a, b, c].Sublist (rankedEntries entries' policy contractId) := by
    unfold rankedEntries
    rw [hentries']
    refine sublist_sortWith_of_chain ?_ ?_ rest
    · rw [compareEntries_swap a b, hab]
      decide
    · rw [compareEntries_swap b c, hbc]
      decide
  rw [← (h.permuted entries' hperm).2.2.1]
  exact hchain.map ComparisonEntry.digest

/-- A cycle of three, put at the head of the candidates in two ways, gives two rankings. -/
theorem transitive_of_orderIndependent (hdistinct : (entries.map ComparisonEntry.digest).Nodup)
    (h : OrderIndependent entries policy contractId) :
    ComparisonTransitive entries policy contractId := by
  intro a ha b hb c hc hab hbc
  by_contra hac
  have hneAB : a ≠ b := by
    rintro rfl
    have hself := compareEntries_swap a a policy.metricOrder
    rw [hab] at hself
    cases hself
  have hneBC : b ≠ c := by
    rintro rfl
    exact hac hab
  have hneAC : a ≠ c := by
    rintro rfl
    rw [compareEntries_swap a b, hab] at hbc
    cases hbc
  have hca : compareEntries c a policy.metricOrder = .lt := by
    rw [compareEntries_swap a c]
    cases hcase : compareEntries a c policy.metricOrder with
    | lt => exact absurd hcase hac
    | eq =>
      exact absurd (inj_on_of_nodup_map hdistinct (validEntries_subset ha)
        (validEntries_subset hc) (digest_eq_of_compareEntries hcase)) hneAC
    | gt => rfl
  obtain ⟨rest, hrest⟩ : ∃ rest, (a :: b :: c :: rest).Perm (validEntries entries contractId) := by
    have hsub : [a, b, c].Subperm (validEntries entries contractId) :=
      subperm_of_subset (by simp [hneAB, hneBC, hneAC]) (by simp [ha, hb, hc])
    obtain ⟨l, hl, hsublist⟩ := hsub
    obtain ⟨rest, hrest⟩ := hsublist.exists_perm_append
    exact ⟨rest, (hrest.trans (hl.append_right rest)).symm⟩
  have hrotated : (b :: c :: a :: rest).Perm (validEntries entries contractId) :=
    (List.Perm.append_right rest (perm_append_comm : ([b, c] ++ [a]).Perm ([a] ++ [b, c]))).trans
      hrest
  have hranking := sublist_ranking_of_chain h hrest hab hbc
  have hrotatedRanking := sublist_ranking_of_chain h hrotated hbc hca
  have hnodup : (select entries policy contractId).ranking.Nodup :=
    ((perm_sortWith (validEntries entries contractId)).map ComparisonEntry.digest).nodup_iff.2
      (hdistinct.sublist (filter_sublist.map _))
  have hforward : [a.digest, b.digest].Sublist (select entries policy contractId).ranking :=
    List.Sublist.trans (.cons_cons _ (.cons_cons _ (.cons _ .slnil))) hranking
  have hbackward : [b.digest, a.digest].Sublist (select entries policy contractId).ranking :=
    List.Sublist.trans (.cons_cons _ (.cons _ (.cons_cons _ .slnil))) hrotatedRanking
  exact not_sublist_swap hnodup hforward hbackward

/-- Selection is independent of the order of its candidates, and its winner is unbeaten, exactly when
the comparison is transitive on the valid candidates. -/
theorem select_orderIndependent_iff (entries : List ComparisonEntry) (policy : SelectionPolicy)
    (contractId : Sha256Digest) (hdistinct : (entries.map ComparisonEntry.digest).Nodup) :
    OrderIndependent entries policy contractId ↔ ComparisonTransitive entries policy contractId :=
  ⟨transitive_of_orderIndependent hdistinct, orderIndependent_of_transitive hdistinct⟩

end

/-- A candidate that passed its gate. -/
def sampleEntry (digest : Nat) (modelRequests : Option Nat) (changedBytes : Nat) : ComparisonEntry where
  candidate := {
    candidateDigest := ⟨BitVec.ofNat 256 digest⟩
    contractId := ⟨0⟩
    taskKey := ⟨"compared".toList, by decide⟩
    workerRunId := Uuid.fromU128 1
    workerSessionId := Uuid.fromU128 2
    workerRoute := []
    workerHarness := .codex
    leaseGeneration := 1
    origin := .liveWorker }
  gate := .ok ⟨⟨BitVec.ofNat 256 digest⟩, ⟨0⟩, ⟨1⟩, ⟨2⟩, .localVerifierPassed⟩
  metrics := ⟨5, modelRequests, none, changedBytes⟩

/-- The usage of the third candidate is unknown, so each of the three is better than the next, and the
third is better than the first. -/
def sampleCycle : List ComparisonEntry :=
  [sampleEntry 1 (some 1) 30, sampleEntry 2 (some 2) 10, sampleEntry 3 none 20]

/-- Under the baseline policy a valid candidate is better than the winner, and another order of the
same candidates has another winner. -/
theorem select_cycle :
    (sampleCycle.map ComparisonEntry.digest).Nodup ∧
    validEntries sampleCycle ⟨0⟩ = sampleCycle ∧
    (select sampleCycle .baseline ⟨0⟩).winner = some (sampleEntry 1 (some 1) 30).digest ∧
    compareEntries (sampleEntry 3 none 20) (sampleEntry 1 (some 1) 30)
      SelectionPolicy.baseline.metricOrder = .lt ∧
    (select sampleCycle.reverse .baseline ⟨0⟩).winner ≠ (select sampleCycle .baseline ⟨0⟩).winner := by
  refine ⟨by decide +kernel, by rfl, by decide +kernel, by decide +kernel, by decide +kernel⟩

/-- The condition for two candidates. -/
theorem select_orderIndependent_iff_pair :
    OrderIndependent [sampleEntry 1 (some 1) 30, sampleEntry 2 none 10] .baseline ⟨0⟩ ↔
      ComparisonTransitive [sampleEntry 1 (some 1) 30, sampleEntry 2 none 10] .baseline ⟨0⟩ :=
  select_orderIndependent_iff _ _ _ (by decide +kernel)

/-! ## Uniform metrics -/

/-- The value by which a metric ranks, where it is known; a smaller one is better. -/
def CandidateMetrics.cost (metrics : CandidateMetrics) : MetricKey → Int
  | .testsPassed => -metrics.testsPassed
  | .modelRequests => metrics.modelRequests.getD 0
  | .elapsedMs => metrics.elapsedMs.getD 0
  | .changedBytes => metrics.changedBytes

/-- Whether the metric has a value. -/
def CandidateMetrics.knows (metrics : CandidateMetrics) : MetricKey → Bool
  | .testsPassed | .changedBytes => true
  | .modelRequests => metrics.modelRequests.isSome
  | .elapsedMs => metrics.elapsedMs.isSome

theorem compare_neg_cast (m n : Nat) : compare (-(m : Int)) (-(n : Int)) = compare n m := by
  simp only [compare, compareOfLessAndEq]
  split_ifs <;> first | rfl | omega

theorem compare_cast (m n : Nat) : compare (m : Int) (n : Int) = compare m n := by
  simp only [compare, compareOfLessAndEq]
  split_ifs <;> first | rfl | omega

theorem compareKnown_eq {left right : Option Nat} (hleft : left.isSome = true)
    (hright : right.isSome = true) :
    compareKnown left right = compare ((left.getD 0 : Nat) : Int) ((right.getD 0 : Nat) : Int) := by
  obtain ⟨m, rfl⟩ := Option.isSome_iff_exists.1 hleft
  obtain ⟨n, rfl⟩ := Option.isSome_iff_exists.1 hright
  exact (compare_cast m n).symm

theorem compareMetric_of_knows (hleft : left.knows metric = true)
    (hright : right.knows metric = true) :
    compareMetric metric left right = compare (left.cost metric) (right.cost metric) := by
  cases metric with
  | testsPassed => exact (compare_neg_cast _ _).symm
  | modelRequests => exact compareKnown_eq hleft hright
  | elapsedMs => exact compareKnown_eq hleft hright
  | changedBytes => exact (compare_cast _ _).symm

theorem compareMetric_of_not_knows (hleft : left.knows metric = false) :
    compareMetric metric left right = .eq := by
  cases metric with
  | testsPassed | changedBytes => cases hleft
  | modelRequests =>
    have hnone : left.modelRequests = none := by simpa [CandidateMetrics.knows] using hleft
    simp [compareMetric, compareKnown, hnone]
  | elapsedMs =>
    have hnone : left.elapsedMs = none := by simpa [CandidateMetrics.knows] using hleft
    simp [compareMetric, compareKnown, hnone]

/-- Every metric of the order is known for all the candidates or for none of them. -/
def UniformMetrics (entries : List ComparisonEntry) (order : List MetricKey) : Prop :=
  ∀ metric ∈ order, ∃ known, ∀ entry ∈ entries, entry.metrics.knows metric = known

theorem compare_then_ne_gt {x y : Int} {o : Ordering} :
    (compare x y).then o ≠ .gt ↔ x < y ∨ x = y ∧ o ≠ .gt := by
  rw [Ne, Ordering.then_eq_gt, Int.compare_eq_gt, Int.compare_eq_eq]
  by_cases ho : o = .gt <;> simp [ho] <;> omega

theorem compareEntries_le_trans {entries : List ComparisonEntry}
    (huniform : UniformMetrics entries order) (ha : a ∈ entries) (hb : b ∈ entries)
    (hc : c ∈ entries) (hab : compareEntries a b order ≠ .gt) (hbc : compareEntries b c order ≠ .gt)
    : compareEntries a c order ≠ .gt := by
  induction order with
  | nil => exact Nat.compare_ne_gt.2 ((Nat.compare_ne_gt.1 hab).trans (Nat.compare_ne_gt.1 hbc))
  | cons metric rest ih =>
    obtain ⟨known, hknown⟩ := huniform metric mem_cons_self
    have hrest : UniformMetrics entries rest := fun m hm => huniform m (mem_cons_of_mem _ hm)
    rw [compareEntries] at hab hbc ⊢
    cases known with
    | false =>
      rw [compareMetric_of_not_knows (hknown a ha), Ordering.then] at hab ⊢
      rw [compareMetric_of_not_knows (hknown b hb), Ordering.then] at hbc
      exact ih hrest hab hbc
    | true =>
      have hcost : ∀ x ∈ entries, ∀ y ∈ entries, compareMetric metric x.metrics y.metrics =
          compare (x.metrics.cost metric) (y.metrics.cost metric) := fun x hx y hy =>
        compareMetric_of_knows (hknown x hx) (hknown y hy)
      rw [hcost a ha b hb, compare_then_ne_gt] at hab
      rw [hcost b hb c hc, compare_then_ne_gt] at hbc
      rw [hcost a ha c hc, compare_then_ne_gt]
      rcases hab with hab | ⟨hab, habRest⟩
      · exact .inl (hbc.elim (fun h => hab.trans h) fun h => h.1 ▸ hab)
      · rcases hbc with hbc | ⟨hbc, hbcRest⟩
        · exact .inl (hab ▸ hbc)
        · exact .inr ⟨hab.trans hbc, ih hrest habRest hbcRest⟩

/-- Where every metric of the order is known for all valid candidates or for none, selection is
independent of their order. -/
theorem orderIndependent_of_uniform {entries : List ComparisonEntry} {policy : SelectionPolicy}
    {contractId : Sha256Digest} (hdistinct : (entries.map ComparisonEntry.digest).Nodup)
    (huniform : UniformMetrics (validEntries entries contractId) policy.metricOrder) :
    OrderIndependent entries policy contractId := by
  refine orderIndependent_of_transitive hdistinct fun a ha b hb c hc hab hbc => ?_
  have hle : compareEntries a c policy.metricOrder ≠ .gt :=
    compareEntries_le_trans huniform ha hb hc (by rw [hab]; decide) (by rw [hbc]; decide)
  cases hac : compareEntries a c policy.metricOrder with
  | lt => rfl
  | gt => exact absurd hac hle
  | eq =>
    obtain rfl := inj_on_of_nodup_map hdistinct (validEntries_subset ha)
      (validEntries_subset hc) (digest_eq_of_compareEntries hac)
    rw [compareEntries_swap a b, hab] at hbc
    cases hbc

/-- Two candidates with known requests, and two that their gate excludes. -/
def sampleComparison : List ComparisonEntry :=
  [sampleEntry 1 (some 1) 30, { sampleEntry 4 none 20 with gate := .error [.reviewMissing] },
    sampleEntry 2 (some 2) 10, { sampleEntry 3 none 5 with gate := .error [.verificationMissing] }]

/-- The outcome of the sample, with its exclusions, has one order. -/
theorem orderIndependent_of_uniform_pair :
    OrderIndependent sampleComparison .baseline ⟨0⟩ ∧
      (select sampleComparison .baseline ⟨0⟩).excluded.length = 2 :=
  ⟨orderIndependent_of_uniform (by decide +kernel) (by unfold UniformMetrics; decide +kernel),
    by decide +kernel⟩

end Vibemux
