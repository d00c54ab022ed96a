import Mathlib.Data.List.Nodup
import Mathlib.Data.List.Perm.Subperm

set_option autoImplicit false

/-!
Lists that are threaded through their nodes by links.

`Chain next head nodes` says that the links lead from `head` through exactly
`nodes`, in that order.  Such a list is finite, so it repeats nothing and a walk
that is given enough steps ends.
-/

namespace XBotFirmware.Library

universe u

variable {Node : Type u}

inductive Chain (next : Node → Option Node) : Option Node → List Node → Prop
  | nil : Chain next none []
  | cons {node : Node} {rest : List Node} :
      Chain next (next node) rest → Chain next (some node) (node :: rest)

/-- The links lead from `head` to a node. -/
inductive Ahead (next : Node → Option Node) : Option Node → Node → Prop
  | here {node : Node} : Ahead next (some node) node
  | later {node target : Node} : Ahead next (next node) target → Ahead next (some node) target

theorem not_ahead_none {next : Node → Option Node} {target : Node} : ¬Ahead next none target := by
  rintro ⟨⟩

theorem ahead_some_iff {next : Node → Option Node} {node target : Node} :
    Ahead next (some node) target ↔ target = node ∨ Ahead next (next node) target := by
  constructor
  · intro ahead
    cases ahead with
    | here => exact .inl rfl
    | later ahead => exact .inr ahead
  · rintro (rfl | ahead)
    · exact .here
    · exact .later ahead

/-- Follow the links from `head`, for at most `fuel` nodes. -/
def walk? (next : Node → Option Node) : Nat → Option Node → Option (List Node)
  | _, none => some []
  | 0, some _ => none
  | fuel + 1, some node => (walk? next fuel (next node)).map (node :: ·)

def last? (next : Node → Option Node) : Nat → Node → Option Node
  | 0, _ => none
  | fuel + 1, node =>
      match next node with
      | none => some node
      | some following => last? next fuel following

namespace Chain

variable {next next' : Node → Option Node} {head : Option Node} {nodes : List Node}

theorem walk? (chain : Chain next head nodes) {fuel : Nat} (enough : nodes.length ≤ fuel) :
    walk? next fuel head = some nodes := by
  induction chain generalizing fuel with
  | nil => cases fuel <;> rfl
  | cons _ inductionHypothesis =>
      cases fuel with
      | zero => exact absurd enough (Nat.not_succ_le_zero _)
      | succ fuel =>
          rw [Library.walk?, inductionHypothesis (Nat.le_of_succ_le_succ enough), Option.map_some]

theorem mem_of_ahead {target : Node} (chain : Chain next head nodes)
    (ahead : Ahead next head target) : target ∈ nodes := by
  induction ahead generalizing nodes with
  | here =>
      cases chain
      exact List.mem_cons_self
  | later _ inductionHypothesis =>
      cases chain with
      | cons rest => exact List.mem_cons_of_mem _ (inductionHypothesis rest)

/-- The links determine the list. -/
theorem unique {other : List Node} (chain : Chain next head nodes)
    (second : Chain next head other) : nodes = other := by
  induction chain generalizing other with
  | nil =>
      cases second
      rfl
  | cons _ inductionHypothesis =>
      cases second with
      | cons rest => rw [inductionHypothesis rest]

theorem drop {node : Node} (chain : Chain next head nodes) (membership : node ∈ nodes) :
    ∃ rest, Chain next (some node) (node :: rest) ∧ rest.length < nodes.length := by
  induction chain with
  | nil => cases membership
  | cons rest inductionHypothesis =>
      rcases List.mem_cons.mp membership with rfl | later
      · exact ⟨_, .cons rest, Nat.lt_succ_self _⟩
      · obtain ⟨remaining, threaded, shorter⟩ := inductionHypothesis later
        exact ⟨remaining, threaded, Nat.lt_succ_of_lt shorter⟩

/-- A list that came back to a node would never end. -/
theorem nodup (chain : Chain next head nodes) : nodes.Nodup := by
  induction chain with
  | nil => exact List.nodup_nil
  | @cons node rest threaded inductionHypothesis =>
      refine List.nodup_cons.mpr ⟨?_, inductionHypothesis⟩
      intro again
      obtain ⟨remaining, second, shorter⟩ := threaded.drop again
      have same := (Chain.cons threaded).unique second
      rw [(List.cons.inj same).2] at shorter
      exact absurd shorter (Nat.lt_irrefl _)

theorem length_le {next : Nat → Option Nat} {head : Option Nat} {nodes : List Nat} {bound : Nat}
    (chain : Chain next head nodes) (below : ∀ node ∈ nodes, node < bound) :
    nodes.length ≤ bound := by
  have contained : nodes ⊆ List.range bound :=
    fun node membership => List.mem_range.mpr (below node membership)
  have counted := (List.subperm_of_subset chain.nodup contained).length_le
  rwa [List.length_range] at counted

theorem congr (chain : Chain next head nodes)
    (agree : ∀ node ∈ nodes, next' node = next node) : Chain next' head nodes := by
  induction chain with
  | nil => exact .nil
  | cons _ inductionHypothesis =>
      obtain ⟨first, others⟩ := List.forall_mem_cons.mp agree
      exact .cons (first ▸ inductionHypothesis others)

theorem last? {first : Node} (chain : Chain next (some first) nodes) {fuel : Nat}
    (enough : nodes.length ≤ fuel) : last? next fuel first = nodes.getLast? := by
  induction nodes generalizing first fuel with
  | nil => cases chain
  | cons node rest inductionHypothesis =>
      cases chain with
      | cons threaded =>
          cases fuel with
          | zero => exact absurd enough (Nat.not_succ_le_zero _)
          | succ fuel =>
              unfold Library.last?
              cases link : next node with
              | none =>
                  rw [link] at threaded
                  cases threaded
                  rfl
              | some following =>
                  rw [link] at threaded
                  have rest_ne : rest ≠ [] := by
                    rintro rfl
                    cases threaded
                  simp only
                  rw [inductionHypothesis threaded (Nat.le_of_succ_le_succ enough),
                    List.getLast?_cons, List.getLast?_eq_some_getLast rest_ne, Option.getD_some]

theorem concat {last new : Node} (chain : Chain next head nodes)
    (ends : nodes.getLast? = some last) (agree : ∀ node ∈ nodes, node ≠ last →
      next' node = next node) (linked : next' last = some new) (final : next' new = none) :
    Chain next' head (nodes ++ [new]) := by
  have distinct := chain.nodup
  induction chain with
  | nil => cases ends
  | @cons node rest threaded inductionHypothesis =>
      obtain ⟨fresh, distinctRest⟩ := List.nodup_cons.mp distinct
      cases rest with
      | nil =>
          obtain rfl : node = last := Option.some.inj ends
          refine .cons ?_
          rw [linked]
          exact .cons (final ▸ .nil)
      | cons second others =>
          rw [List.getLast?_cons_cons] at ends
          have different : node ≠ last := by
            rintro rfl
            exact fresh (List.mem_of_getLast? ends)
          refine .cons ?_
          rw [agree node List.mem_cons_self different]
          exact inductionHypothesis ends
            (fun other membership => agree other (List.mem_cons_of_mem _ membership)) distinctRest

end Chain

end XBotFirmware.Library
