import Vibemux.Workflow.PolicyHistory

/-!
# The history of a policy is a stack

The states and the parents of the versions encode a stack: the active version is its top, the
superseded ones are below it, and the parent of a version on the stack is the one under it.
-/

namespace Vibemux

open Checked Machine List

/-- A stack of versions, top first, and how many versions were promoted. -/
structure PolicyStack where
  stack : List Nat
  issued : Nat

/-- An operation on the stack. -/
def PolicyStack.step (s : PolicyStack) : PolicyOp → PolicyStack
  | .promote _ => if s.issued < u32Max then ⟨(s.issued + 1) :: s.stack, s.issued + 1⟩ else s
  | .rollback =>
    match s.stack with
    | _ :: below :: rest => { s with stack := below :: rest }
    | _ => s

/-- The stack after some operations. -/
def policyStack (ops : List PolicyOp) : PolicyStack := ops.foldl PolicyStack.step ⟨[], 0⟩

/-- The state of a version, given the stack. -/
def stateIn (stack : List Nat) (version : Nat) : PolicyState :=
  if stack.head? = some version then .active
  else if version ∈ stack then .superseded
  else .rolledBack

theorem stateIn_eq_rolledBack {stack : List Nat} {version : Nat} :
    stateIn stack version = .rolledBack ↔ version ∉ stack := by
  have hhead : stack.head? = some version → version ∈ stack := mem_of_head?
  unfold stateIn
  split_ifs <;> simp_all

/-- The history is that of the stack. -/
structure Encodes (history : PolicyHistory) (s : PolicyStack) : Prop where
  numbered : history.map PolicyVersion.version = range' 1 s.issued
  states : ∀ v ∈ history, v.state = stateIn s.stack v.version
  parents : ∀ v ∈ history, ∀ below, v.version :: below <:+ s.stack → v.parent = below.head?
  stacked : ∀ n ∈ s.stack, n ∈ history.map PolicyVersion.version
  nodup : s.stack.Nodup
  nonempty : s.stack = [] → history = []

variable {history history' : PolicyHistory} {s : PolicyStack} {v : PolicyVersion}

section

variable (h : Encodes history s)
include h

theorem Encodes.active_eq (hv : v ∈ history) :
    v.state = .active ↔ s.stack.head? = some v.version := by
  rw [h.states v hv, stateIn]
  split_ifs <;> simp [*]

theorem Encodes.version_inj {w : PolicyVersion} (hv : v ∈ history)
    (hw : w ∈ history) (hsame : v.version = w.version) : v = w :=
  inj_on_of_nodup_map (h.numbered ▸ nodup_range') hv hw hsame

/-- The active version is the top of the stack, and its parent is the version below. -/
theorem Encodes.top {top : Nat} {below : List Nat} (hstack : s.stack = top :: below) :
    ∃ v ∈ history, history.active = some v ∧ v.version = top ∧ v.parent = below.head? := by
  obtain ⟨v, hv, rfl⟩ := mem_map.1 (h.stacked top (hstack ▸ mem_cons_self))
  have hactive : v.state = .active := (h.active_eq hv).2 (by rw [hstack]; rfl)
  refine ⟨v, hv, ?_, rfl, h.parents v hv below (hstack ▸ suffix_rfl)⟩
  cases hfind : history.active with
  | none => exact absurd (decide_eq_true hactive) (find?_eq_none.1 hfind v hv)
  | some w =>
    have hw := mem_of_find?_eq_some hfind
    have hfound := find?_some hfind
    have hhead := (h.active_eq hw).1 (of_decide_eq_true hfound)
    rw [hstack] at hhead
    rw [h.version_inj hw hv (Option.some.inj hhead).symm]

theorem Encodes.active_version : history.active.map PolicyVersion.version = s.stack.head? := by
  cases hstack : s.stack with
  | nil => rw [h.nonempty hstack]; rfl
  | cons top below =>
    obtain ⟨v, -, hactive, hversion, -⟩ := h.top hstack
    rw [hactive, Option.map_some, hversion]
    rfl

theorem Encodes.version_lt (hv : v ∈ history) : v.version < s.issued + 1 := by
  have hmem : v.version ∈ history.map PolicyVersion.version := mem_map_of_mem hv
  rw [h.numbered, mem_range'_1] at hmem
  omega

end

/-- The version with the state that the stack gives it. -/
def restate (stack : List Nat) (v : PolicyVersion) : PolicyVersion :=
  { v with state := stateIn stack v.version }

section

variable (h : Encodes history s)
include h

theorem Encodes.next_eq :
    (history.map PolicyVersion.version).max?.elim (some 1) (checkedSucc u32Max) =
      checkedSucc u32Max s.issued := by
  rw [h.numbered]
  cases s.issued with
  | zero => rfl
  | succ n =>
    have hlast : (range' 1 (n + 1)).max? = some (n + 1) := by
      rw [max?_eq_some_iff]
      simp only [mem_range'_1]
      exact ⟨by omega, fun b hb => by omega⟩
    rw [hlast]
    rfl

theorem Encodes.superseded :
    (history.map fun v => if v.state = .active then { v with state := .superseded } else v) =
      history.map (restate ((s.issued + 1) :: s.stack)) := by
  refine map_congr_left fun v hv => ?_
  have hlt := h.version_lt hv
  have hstate := h.states v hv
  have hhead : s.stack.head? = some v.version → v.version ∈ s.stack := mem_of_head?
  obtain ⟨version, parent, digest, state⟩ := v
  simp only [stateIn, restate, head?_cons, Option.some.injEq, mem_cons] at *
  grind

theorem Encodes.promote (digest : Sha256Digest) :
    Encodes (final policyStep history [.promote digest]) (s.step (.promote digest)) := by
  have hstep : policyStep history (.promote digest) =
      require (checkedSucc u32Max s.issued) .invalidHistory >>= fun next => .ok (next,
        history.map (restate ((s.issued + 1) :: s.stack)) ++ [⟨next, s.stack.head?, digest, .active⟩]) := by
    rw [← h.next_eq, ← h.superseded, ← h.active_version]
    rfl
  rw [PolicyStack.step]
  split_ifs with hlimit
  · rw [checkedSucc, if_pos hlimit] at hstep
    rw [final_cons_ok hstep, final_nil]
    have hnew : s.issued + 1 ∉ s.stack := by
      intro hmem
      obtain ⟨v, hv, hversion⟩ := mem_map.1 (h.stacked _ hmem)
      exact absurd (h.version_lt hv) (by omega)
    constructor
    · simp [Function.comp_def, restate, h.numbered, range'_concat, Nat.add_comm]
    · simp only [mem_append, mem_map, mem_singleton]
      rintro _ (⟨v, -, rfl⟩ | rfl)
      · rfl
      · simp [stateIn]
    · simp only [mem_append, mem_map, mem_singleton, suffix_cons_iff]
      rintro _ (⟨v, hv, rfl⟩ | rfl) below (hwhole | hsuffix)
      · exact absurd (cons.inj hwhole).1 (h.version_lt hv).ne
      · exact h.parents v hv below hsuffix
      · rw [(cons.inj hwhole).2]
      · exact absurd (hsuffix.subset mem_cons_self) hnew
    · simp only [mem_cons, map_append, map_map, mem_append]
      rintro n (rfl | hn)
      · exact .inr (by simp)
      · exact .inl (h.stacked n hn)
    · exact nodup_cons.2 ⟨hnew, h.nodup⟩
    · exact nofun
  · rw [checkedSucc, if_neg hlimit] at hstep
    rw [final_cons_error hstep, final_nil]
    exact h

theorem Encodes.rollback_eq : history.rollback = match s.stack with
      | _ :: below :: rest => .ok (below, history.map (restate (below :: rest)))
      | _ => .error .invalidHistory := by
  cases hstack : s.stack with
  | nil => rw [h.nonempty hstack]; rfl
  | cons top stack =>
    obtain ⟨v, hv, hactive, rfl, hparent⟩ := h.top hstack
    rw [PolicyHistory.rollback, hactive]
    change (require v.parent _ >>= _) = _
    rw [hparent]
    cases stack with
    | nil => rfl
    | cons below rest =>
      refine congrArg (fun after => Except.ok (below, after)) (map_congr_left fun w hw => ?_)
      have hstate := h.states w hw
      have hnodup := h.nodup
      rw [hstack] at hstate hnodup
      obtain ⟨version, parent, digest, state⟩ := w
      simp only [stateIn, restate, head?_cons, Option.some.injEq, mem_cons, nodup_cons] at *
      grind

theorem Encodes.rollback : Encodes (final policyStep history [.rollback]) (s.step .rollback) := by
  have hstep : policyStep history .rollback = _ := h.rollback_eq
  rw [PolicyStack.step]
  split at hstep
  · next top below rest hstack =>
    rw [final_cons_ok hstep, final_nil]
    have hsuffix : below :: rest <:+ s.stack := hstack ▸ suffix_cons _ _
    constructor
    · simp [Function.comp_def, restate, h.numbered]
    · simp only [mem_map]
      rintro _ ⟨v, -, rfl⟩
      rfl
    · simp only [mem_map]
      rintro _ ⟨v, hv, rfl⟩ under hunder
      exact h.parents v hv under (hunder.trans hsuffix)
    · intro n hn
      rw [map_map]
      exact h.stacked n (hsuffix.subset hn)
    · exact h.nodup.sublist hsuffix.sublist
    · exact nofun
  · rw [final_cons_error hstep, final_nil]
    exact h

end

/-- The history of a run is that of its stack. -/
theorem run_encodes (ops : List PolicyOp) : Encodes (final policyStep [] ops) (policyStack ops) := by
  induction ops using reverseRecOn with
  | nil => exact ⟨rfl, nofun, nofun, nofun, nodup_nil, fun _ => rfl⟩
  | append_singleton ops op ih =>
    rw [final_append, policyStack, foldl_append]
    cases op with
    | promote digest => exact ih.promote digest
    | rollback => exact ih.rollback

/-- A version that is off the stack stays off it. -/
theorem PolicyStack.foldl_step {n : Nat} (hle : n < s.issued + 1) (hmem : n ∉ s.stack)
    (more : List PolicyOp) : n ∉ (more.foldl PolicyStack.step s).stack := by
  induction more generalizing s with
  | nil => exact hmem
  | cons op more ih =>
    refine ih ?_ ?_ <;> (cases op <;> simp only [PolicyStack.step] <;> split <;> grind)

/-- The history after the operations, seen as a stack. -/
structure BehavesAsStack (ops : List PolicyOp) : Prop where
  oneActive : final policyStep [] ops ≠ [] → ∃! v, v ∈ final policyStep [] ops ∧ v.state = .active
  active : (final policyStep [] ops).active.map PolicyVersion.version = (policyStack ops).stack.head?
  rollback : (final policyStep [] ops).rollback = .error .invalidHistory ↔
    (policyStack ops).stack.length ≤ 1
  refused : (policyStack ops).stack.length ≤ 1 →
    final policyStep [] (ops ++ [.rollback]) = final policyStep [] ops
  /-- The promotions number the versions, so no number comes again. -/
  numbered : (final policyStep [] ops).map PolicyVersion.version = range' 1 (policyStack ops).issued
  /-- Whatever follows, a version that was rolled back stays so. -/
  retired : ∀ more, ∀ v ∈ final policyStep [] ops, v.state = .rolledBack →
    ∀ w ∈ final policyStep [] (ops ++ more), w.version = v.version → w.state = .rolledBack

/-- Every history of policies is that of a stack. -/
theorem policyHistory_behavesAsStack (ops : List PolicyOp) : BehavesAsStack ops := by
  have h := run_encodes ops
  have hrollback : (final policyStep [] ops).rollback = .error .invalidHistory ↔
      (policyStack ops).stack.length ≤ 1 := by
    rw [h.rollback_eq]
    rcases (policyStack ops).stack with _ | ⟨top, _ | ⟨below, rest⟩⟩ <;> simp
  refine ⟨fun hne => ?_, h.active_version, hrollback, fun hshort => ?_, h.numbered, ?_⟩
  · cases hstack : (policyStack ops).stack with
    | nil => exact absurd (h.nonempty hstack) hne
    | cons top below =>
      obtain ⟨v, hv, -, rfl, -⟩ := h.top hstack
      refine ⟨v, ⟨hv, (h.active_eq hv).2 (by rw [hstack]; rfl)⟩, fun w hw => ?_⟩
      have hhead := (h.active_eq hw.1).1 hw.2
      rw [hstack] at hhead
      exact h.version_inj hw.1 hv (Option.some.inj hhead).symm
  · rw [final_append]
    exact final_cons_error (hrollback.2 hshort) []
  · intro more v hv hstate w hw hsame
    have hoff : v.version ∉ (policyStack ops).stack :=
      stateIn_eq_rolledBack.1 ((h.states v hv).symm.trans hstate)
    rw [(run_encodes (ops ++ more)).states w hw, stateIn_eq_rolledBack, hsame, policyStack, foldl_append]
    exact PolicyStack.foldl_step (h.version_lt hv) hoff more

end Vibemux
