import Mathlib.Data.List.Perm.Subperm
import DeviceBrowser.Proofs.Snapshot.Renumbering

/-! A walk down a snapshot meets no node twice, and so it ends within as many steps as there are
nodes. -/

namespace DeviceBrowser.Snapshot

variable {snapshot : Snapshot} {met waiting rest : List Nat} {number : Nat}

/-- No node is in two lists. -/
theorem Listed.parent_unique (listed : snapshot.Listed) {left right : Option Nat} {child : Nat}
    (inLeft : child ∈ snapshot.children left) (inRight : child ∈ snapshot.children right) :
    left = right := by
  -- Both lists belong to the one parent of the node.
  obtain ⟨node, found, toLeft⟩ := (listed.mem_iff left child).mp inLeft
  obtain ⟨again, foundAgain, toRight⟩ := (listed.mem_iff right child).mp inRight
  cases found.symm.trans foundAgain
  rw [← toLeft, toRight]

/-- How a walk down a snapshot stands: the nodes that were met and those that wait are different
nodes, and whichever of them is below another was put there when that one was met. -/
structure Underway (snapshot : Snapshot) (met waiting : List Nat) : Prop where
  distinct : (met ++ waiting).Nodup
  within : ∀ number ∈ met ++ waiting, number < snapshot.size
  above : ∀ up child, child ∈ snapshot.children (some up) → child ∈ met ++ waiting → up ∈ met

/-- At the start of a walk the roots wait. -/
theorem Listed.underway (listed : snapshot.Listed) :
    snapshot.Underway [] (snapshot.children none) where
  -- Nothing was met yet, and a root is below no node.
  distinct := listed.nodup none
  within number isRoot := by
    rw [List.nil_append] at isRoot
    exact listed.lt_size isRoot
  above up child inList isRoot := by
    rw [List.nil_append] at isRoot
    have same := listed.parent_unique inList isRoot
    cases same

/-- A walk may pass a node without going down. -/
theorem Underway.pass (underway : snapshot.Underway met (number :: rest)) :
    snapshot.Underway (number :: met) rest := by
  -- The node moves from those that wait to those that were met.
  have moved : (met ++ number :: rest).Perm (number :: met ++ rest) := List.perm_middle
  constructor
  · exact moved.nodup underway.distinct
  · intro other member
    exact underway.within other (moved.mem_iff.mpr member)
  · intro up child inList member
    exact List.mem_cons_of_mem _ (underway.above up child inList (moved.mem_iff.mpr member))

/-- A walk may go down to the nodes below the one that it meets. -/
theorem Underway.descend (listed : snapshot.Listed)
    (underway : snapshot.Underway met (number :: rest)) :
    snapshot.Underway (number :: met) (snapshot.children (some number) ++ rest) := by
  have passed := underway.pass
  have unmet : number ∉ met := by
    have apart := List.disjoint_of_nodup_append underway.distinct
    intro member
    exact apart member List.mem_cons_self
  -- A node below that waited already would have been put there when this one was met before.
  have fresh : ∀ child ∈ snapshot.children (some number), child ∉ number :: met ++ rest := by
    intro child inList member
    have waited : child ∈ met ++ number :: rest := List.perm_middle.mem_iff.mpr member
    exact unmet (underway.above number child inList waited)
  -- What is met and what waits are the same nodes as before, and those below the one now met.
  have moved : (snapshot.children (some number) ++ (number :: met ++ rest)).Perm
      (number :: met ++ (snapshot.children (some number) ++ rest)) := by
    have swapped : (snapshot.children (some number) ++ number :: met).Perm
        (number :: met ++ snapshot.children (some number)) := List.perm_append_comm
    simpa only [List.append_assoc] using swapped.append_right rest
  constructor
  · apply moved.nodup
    exact (listed.nodup _).append passed.distinct fresh
  · intro other member
    rcases List.mem_append.mp (moved.mem_iff.mpr member) with inList | earlier
    · exact listed.lt_size inList
    · exact passed.within other earlier
  · intro up child inList member
    rcases List.mem_append.mp (moved.mem_iff.mpr member) with here | earlier
    · have same := listed.parent_unique inList here
      cases same
      exact List.mem_cons_self
    · exact passed.above up child inList earlier

/-- A walk has no more nodes to meet than it has not met yet. -/
theorem Underway.length_le (underway : snapshot.Underway met waiting) :
    met.length + waiting.length ≤ snapshot.size := by
  -- They are different numbers below that of the nodes.
  have nodes : met ++ waiting ⊆ List.range snapshot.size := by
    intro number member
    exact List.mem_range.mpr (underway.within number member)
  have counted := (underway.distinct.subperm nodes).length_le
  rwa [List.length_append, List.length_range] at counted

end DeviceBrowser.Snapshot
