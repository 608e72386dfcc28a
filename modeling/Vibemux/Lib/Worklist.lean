import Mathlib

/-!
# Worklists

A node that has not been found yet is recorded, and its successors are put on the stack. The stack is
empty after as many rounds as there are edges and one more, and what has been found then is what can be
reached.
-/

namespace Worklist

open List

variable {α : Type*} [DecidableEq α]

/-- The successors of a node. -/
def successors (graph : List (α × List α)) (node : α) : List α :=
  ((graph.find? fun entry => entry.1 = node).map Prod.snd).getD []

/-- An edge of the graph. -/
def Edge (graph : List (α × List α)) (node next : α) : Prop := next ∈ successors graph node

/-- Works off the stack `pending`, whose top is its head, for at most `fuel` rounds. -/
def close (graph : List (α × List α)) : Nat → List α → List α → List α
  | 0, _, found => found
  | _ + 1, [], found => found
  | fuel + 1, node :: pending, found =>
    if node ∈ found then close graph fuel pending found
    else close graph fuel ((successors graph node).reverse ++ pending) (node :: found)

/-- The rounds without a bound: what has been found once the stack is empty. -/
inductive Run (graph : List (α × List α)) : List α → List α → List α → Prop where
  | done {found : List α} : Run graph [] found found
  | skip {node : α} {pending found result : List α} (hfound : node ∈ found)
      (hrest : Run graph pending found result) : Run graph (node :: pending) found result
  | visit {node : α} {pending found result : List α} (hnew : node ∉ found)
      (hrest : Run graph ((successors graph node).reverse ++ pending) (node :: found) result) :
      Run graph (node :: pending) found result

/-- The number of edges of the nodes that have not been found. -/
def remaining (graph : List (α × List α)) (found : List α) : Nat :=
  ((graph.filter fun entry => entry.1 ∉ found).map fun entry => entry.2.length).sum

/-- The nodes that can be reached from `start`. -/
def reachable (graph : List (α × List α)) (start : α) : List α :=
  close graph (remaining graph [] + 1) [start] []

variable {graph : List (α × List α)}

theorem remaining_graph_cons (entry : α × List α) (rest : List (α × List α)) (found : List α) :
    remaining (entry :: rest) found =
      (if entry.1 ∈ found then 0 else entry.2.length) + remaining rest found := by
  by_cases h : entry.1 ∈ found <;> simp [remaining, h]

theorem successors_graph_cons (entry : α × List α) (rest : List (α × List α)) (node : α) :
    successors (entry :: rest) node = if entry.1 = node then entry.2 else successors rest node := by
  by_cases h : entry.1 = node <;> simp [successors, h]

theorem remaining_cons_le (graph : List (α × List α)) (node : α) (found : List α) :
    remaining graph (node :: found) ≤ remaining graph found := by
  induction graph with
  | nil => exact Nat.le_refl _
  | cons entry rest ih =>
    rw [remaining_graph_cons, remaining_graph_cons]
    by_cases h : entry.1 ∈ found
    · rw [if_pos (mem_cons_of_mem node h), if_pos h]
      omega
    · rw [if_neg h]
      split_ifs <;> omega

/-- A node that is found gives up all its edges. -/
theorem remaining_cons (graph : List (α × List α)) {node : α} {found : List α} (h : node ∉ found) :
    remaining graph (node :: found) + (successors graph node).length ≤ remaining graph found := by
  induction graph with
  | nil => exact Nat.le_refl _
  | cons entry rest ih =>
    rw [remaining_graph_cons, remaining_graph_cons, successors_graph_cons]
    by_cases hnode : entry.1 = node
    · have hrest := remaining_cons_le rest node found
      rw [hnode, if_pos mem_cons_self, if_neg h, if_pos rfl]
      omega
    · have hfound : entry.1 ∈ node :: found ↔ entry.1 ∈ found := mem_cons.trans (or_iff_right hnode)
      rw [if_neg hnode]
      simp only [hfound]
      omega

/-- With enough fuel the stack is emptied: the edges that are left pay for what is put on it. -/
theorem run_close {fuel : Nat} {pending found : List α}
    (h : pending.length + remaining graph found ≤ fuel) :
    Run graph pending found (close graph fuel pending found) := by
  induction fuel generalizing pending found with
  | zero =>
    obtain rfl : pending = [] := length_eq_zero_iff.1 (by omega)
    exact .done
  | succ fuel ih =>
    cases pending with
    | nil => exact .done
    | cons node pending =>
      rw [length_cons] at h
      rw [close]
      split_ifs with hnode
      · exact .skip hnode (ih (by omega))
      · have hremaining := remaining_cons graph hnode
        exact .visit hnode (ih (by simp only [length_append, length_reverse]; omega))

/-- Where no node has two entries every entry counts. -/
theorem edge_iff (h : (graph.map Prod.fst).Nodup) {node next : α} :
    Edge graph node next ↔ ∃ entry ∈ graph, entry.1 = node ∧ next ∈ entry.2 := by
  unfold Edge successors
  constructor
  · intro hnext
    cases hfind : graph.find? fun entry => entry.1 = node with
    | none => simp [hfind] at hnext
    | some entry =>
      rw [hfind] at hnext
      have hnode := find?_some hfind
      exact ⟨entry, mem_of_find?_eq_some hfind, of_decide_eq_true hnode, hnext⟩
  · rintro ⟨entry, hmem, rfl, hnext⟩
    cases hfind : graph.find? fun other => other.1 = entry.1 with
    | none => exact absurd (decide_eq_true rfl) (find?_eq_none.1 hfind entry hmem)
    | some other =>
      have hnode := find?_some hfind
      have hsame : other = entry := inj_on_of_nodup_map h (mem_of_find?_eq_some hfind) hmem
        (of_decide_eq_true hnode)
      exact hsame ▸ hnext

/-- What is found was found before or can be reached from the stack. -/
theorem close_sound {fuel : Nat} {pending found : List α} {node : α}
    (h : node ∈ close graph fuel pending found) :
    node ∈ found ∨ ∃ start ∈ pending, Relation.ReflTransGen (Edge graph) start node := by
  induction fuel generalizing pending found with
  | zero => exact .inl h
  | succ fuel ih =>
    cases pending with
    | nil => exact .inl h
    | cons first pending =>
      rw [close] at h
      split_ifs at h with hfirst
      · rcases ih h with hfound | ⟨start, hstart, hreach⟩
        · exact .inl hfound
        · exact .inr ⟨start, mem_cons_of_mem _ hstart, hreach⟩
      · rcases ih h with hfound | ⟨start, hstart, hreach⟩
        · rcases mem_cons.1 hfound with rfl | hfound
          · exact .inr ⟨node, mem_cons_self, .refl⟩
          · exact .inl hfound
        · rcases mem_append.1 hstart with hnext | hold
          · exact .inr ⟨first, mem_cons_self, .head (mem_reverse.1 hnext) hreach⟩
          · exact .inr ⟨start, mem_cons_of_mem _ hold, hreach⟩

/-- With enough fuel the result holds what was found and what was on the stack, and with every node its
successors, if those of the nodes found before are found or on the stack. -/
theorem close_closed {fuel : Nat} {pending found : List α}
    (hfuel : pending.length + remaining graph found ≤ fuel)
    (hfound : ∀ node ∈ found, ∀ next, Edge graph node next → next ∈ found ∨ next ∈ pending) :
    (∀ node ∈ found ++ pending, node ∈ close graph fuel pending found) ∧
      ∀ node ∈ close graph fuel pending found, ∀ next, Edge graph node next →
        next ∈ close graph fuel pending found := by
  induction fuel generalizing pending found with
  | zero =>
    obtain rfl : pending = [] := length_eq_zero_iff.1 (by omega)
    simpa [close] using hfound
  | succ fuel ih =>
    cases pending with
    | nil => simpa [close] using hfound
    | cons first pending =>
      rw [length_cons] at hfuel
      rw [close]
      split_ifs with hfirst
      · have hkept : ∀ node ∈ found, ∀ next, Edge graph node next → next ∈ found ∨ next ∈ pending := by
          intro node hnode next hedge
          rcases hfound node hnode next hedge with hnext | hnext
          · exact .inl hnext
          · rcases mem_cons.1 hnext with rfl | hnext
            · exact .inl hfirst
            · exact .inr hnext
        obtain ⟨hmem, hclosed⟩ := ih (by omega) hkept
        refine ⟨fun node hnode => hmem node ?_, hclosed⟩
        rcases mem_append.1 hnode with hold | hnode
        · exact mem_append_left _ hold
        · rcases mem_cons.1 hnode with rfl | hold
          · exact mem_append_left _ hfirst
          · exact mem_append_right _ hold
      · have hremaining := remaining_cons graph hfirst
        have hstep : ∀ node ∈ first :: found, ∀ next, Edge graph node next →
            next ∈ first :: found ∨ next ∈ (successors graph first).reverse ++ pending := by
          intro node hnode next hedge
          rcases mem_cons.1 hnode with rfl | hnode
          · exact .inr (mem_append_left _ (mem_reverse.2 hedge))
          · rcases hfound node hnode next hedge with hnext | hnext
            · exact .inl (mem_cons_of_mem _ hnext)
            · rcases mem_cons.1 hnext with rfl | hnext
              · exact .inl mem_cons_self
              · exact .inr (mem_append_right _ hnext)
        obtain ⟨hmem, hclosed⟩ := ih (by simp only [length_append, length_reverse]; omega) hstep
        refine ⟨fun node hnode => hmem node ?_, hclosed⟩
        rcases mem_append.1 hnode with hold | hnode
        · exact mem_append_left _ (mem_cons_of_mem _ hold)
        · rcases mem_cons.1 hnode with rfl | hold
          · exact mem_append_left _ mem_cons_self
          · exact mem_append_right _ (mem_append_right _ hold)

theorem mem_reachable {start node : α} :
    node ∈ reachable graph start ↔ Relation.ReflTransGen (Edge graph) start node := by
  constructor
  · intro h
    rcases close_sound h with hfound | ⟨first, hfirst, hreach⟩
    · cases hfound
    · rwa [mem_singleton.1 hfirst] at hreach
  · obtain ⟨hmem, hclosed⟩ : (∀ node ∈ [] ++ [start], node ∈ reachable graph start) ∧
        ∀ node ∈ reachable graph start, ∀ next, Edge graph node next → next ∈ reachable graph start :=
      close_closed (by simp [Nat.add_comm]) (by simp)
    intro h
    induction h with
    | refl => exact hmem start mem_cons_self
    | tail _ hedge ih => exact hclosed _ ih _ hedge

end Worklist
