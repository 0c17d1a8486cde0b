import Mathlib.Data.List.Forall2
import JvmFacts.Proofs.Digraph.Reachability

/-!
Searching graphs that differ only in how their nodes are numbered: the searches visit nodes that
correspond to each other, in the same order.
-/

set_option autoImplicit false

namespace JvmFacts.Digraph

open List

section

variable {R : Nat → Nat → Prop}

/-- Nodes that correspond are stacked in the same order and are marked alike. -/
structure Alike (R : Nat → Nat → Prop) (first second : List Nat × Array Bool) : Prop where
  stack : Forall₂ R first.1 second.1
  marks : ∀ n m, R n m → first.2[n]? = second.2[m]?

variable (unique : Relator.BiUnique R) {first second : List Nat × Array Bool}

include unique

theorem Alike.discover (alike : Alike R first second) {n m : Nat} (twins : R n m) :
    Alike R (discover first n) (discover second m) where
  stack := by
    have same := alike.marks n m twins
    unfold Digraph.discover
    by_cases unmarked : first.2[n]? = some false
    · rw [if_pos unmarked, if_pos (same ▸ unmarked)]
      exact .cons twins alike.stack
    · rw [if_neg unmarked, if_neg (same ▸ unmarked)]
      exact alike.stack
  marks := by
    intro a b pair
    have same : n = a ↔ m = b := Relator.rel_eq unique twins pair
    simp only [marks_discover, alike.marks a b pair, same]

theorem Alike.discoverAll (alike : Alike R first second) {ns ms : List Nat}
    (twins : Forall₂ R ns ms) : Alike R (discoverAll first ns) (discoverAll second ms) := by
  unfold Digraph.discoverAll
  have step : Relator.LiftFun (Alike R) (Relator.LiftFun R (Alike R)) Digraph.discover
      Digraph.discover := by
    intro s t still n m pair
    exact still.discover unique pair
  exact rel_foldl step alike (forall₂_reverse_iff.2 twins)

theorem rel_visit {one two : Nat → List Nat} (edges : ∀ n m, R n m → Forall₂ R (one n) (two m))
    (alike : Alike R first second) : Forall₂ R (visit one first) (visit two second) := by
  obtain ⟨waiting, marks⟩ := second
  fun_induction visit one first generalizing waiting marks with
  | case1 marks' =>
    have stack := alike.stack
    cases stack
    rw [visit_nil]
    exact .nil
  | case2 n stack marks' ih =>
    obtain ⟨waits, same⟩ := alike
    cases waits with
    | @cons _ m _ rest twins further =>
      have popped : Alike R (stack, marks') (rest, marks) := ⟨further, same⟩
      rw [visit_cons]
      exact .cons twins (ih _ _ (popped.discoverAll unique (edges n m twins)))

end

/-! ## Searches -/

section

variable {ν ε : Type} {g h : Digraph ν ε}

variable {R : Nat → Nat → Prop} (unique : Relator.BiUnique R)
  (inside : ∀ n m, R n m → n < g.nodeCount ∧ m < h.nodeCount)

include unique inside

theorem alike_searchStart {n m : Nat} (twins : R n m) :
    Alike R (g.searchStart n) (h.searchStart m) := by
  obtain ⟨here, there⟩ := inside n m twins
  constructor
  · rw [searchStart_of_lt here, searchStart_of_lt there]
    exact .cons twins .nil
  · intro a b pair
    obtain ⟨low, high⟩ := inside a b pair
    have same : n = a ↔ m = b := Relator.rel_eq unique twins pair
    simp only [marks_searchStart here low, marks_searchStart there high, same]

/-- If the edges of corresponding nodes lead to corresponding nodes, the searches correspond. -/
theorem rel_search (edges : ∀ n m, R n m → Forall₂ R (g.successors n) (h.successors m)) {n m : Nat}
    (twins : R n m) : Forall₂ R (g.search n) (h.search m) :=
  rel_visit unique edges (alike_searchStart unique inside twins)

end

end JvmFacts.Digraph
