import JvmFacts.Digraph.Search
import JvmFacts.Pattern.Parser
import JvmFacts.Pattern.Weight

/-!
Machines that search texts for the matches of a pattern that was given on the command line.

A machine is a graph whose nodes read a character, branch, wait for an anchor to hold, or accept. A
search goes once through the text and keeps all nodes that a match begun anywhere may have reached.
At every place each node is reached once at most, so a search ends however its repetitions are
nested.
-/

set_option autoImplicit false

namespace JvmFacts.Pattern

inductive Node where
  | step (s : Text.CharSet) (next : Nat)
  | branch (first second : Nat)
  | guard (a : Anchor) (next : Nat)
  | accept
  deriving Repr

/-- Nodes are known by their place in the list of all. -/
abbrev Building := StateM (Array Node)

def addNode (node : Node) : Building Nat :=
  modifyGet fun nodes => (nodes.size, nodes.push node)

/-- Builds copies one before the other, from the last to the first. -/
def copies (build : Nat → Building Nat) : (count : Nat) → (next : Nat) → Building Nat
  | 0, next => pure next
  | count + 1, next => do copies build count (← build next)

/-- A branch to as many rounds of a copy as one likes. -/
def loop (build : Nat → Building Nat) (next : Nat) : Building Nat := do
  let entry ← addNode .accept
  let body ← build entry
  modify fun nodes => nodes.set! entry (.branch body next)
  pure entry

/-- A copy, or nothing. -/
def skippable (build : Nat → Building Nat) (done next : Nat) : Building Nat := do
  addNode (.branch (← build next) done)

mutual

/-- The node where matches of the pattern begin that go on at the given node. -/
def build : Pattern → (next : Nat) → Building Nat
  | empty, next => pure next
  | set s, next => addNode (.step s next)
  | anchor a, next => addNode (.guard a next)
  | group p, next => build p next
  | sequence ps, next => buildAll ps next
  | either ps, next => buildAny ps next
  | times p least most, next => do
    let rest ← match most with
      | none => loop (fun next => build p next) next
      | some most => copies (skippable (fun next => build p next) next) (most - least) next
    copies (fun next => build p next) least rest

def buildAll : List Pattern → (next : Nat) → Building Nat
  | [], next => pure next
  | p :: ps, next => do build p (← buildAll ps next)

def buildAny : List Pattern → (next : Nat) → Building Nat
  | [], next => addNode (.step .empty next)
  | [p], next => build p next
  | p :: ps, next => do
    let others ← buildAny ps next
    addNode (.branch (← build p next) others)

end

structure Machine where
  nodes : Array Node
  start : Nat
  deriving Repr

namespace Machine

def ofPattern (p : Pattern) : Machine :=
  let (start, nodes) := (build p 0).run #[.accept]
  ⟨nodes, start⟩

/-- The machine of a text that can be read as a pattern and is not too heavy. -/
def ofText? (text : String) : Option Machine := do
  let p ← parse? text
  if p.isTooHeavy then none else some (ofPattern p)

/-- The nodes that a node leads to without reading, at a place between two characters. -/
def passes (m : Machine) (before after : Option Char) (node : Nat) : List Nat :=
  match m.nodes[node]? with
  | some (.branch first second) => [first, second]
  | some (.guard a next) => if a.holds before after then [next] else []
  | _ => []

def reads (m : Machine) (c : Char) (node : Nat) : Option Nat :=
  match m.nodes[node]? with
  | some (.step s next) => if s.contains c then some next else none
  | _ => none

def accepts (m : Machine) (node : Nat) : Bool :=
  m.nodes[node]? matches some .accept

/-- All nodes that are reached from the stacked ones without reading. -/
def settle (passes : Nat → List Nat) (reached : List Nat) :
    List Nat × Array Bool → List Nat × Array Bool
  | ([], marks) => (reached, marks)
  | (node :: stack, marks) =>
    settle passes (node :: reached) (Digraph.discoverAll (stack, marks) (passes node))
termination_by state => Digraph.pending state
decreasing_by
  rw [Digraph.pending_discoverAll]
  simp only [Digraph.pending, List.length_cons]
  omega

/-- The nodes that matches have got to at a place between two characters: those that begin there,
and those that the last character led to. -/
def reach (m : Machine) (before after : Option Char) (got : List Nat) (marks : Array Bool) :
    List Nat × Array Bool :=
  settle (m.passes before after) [] (Digraph.discoverAll ([], marks) (m.start :: got))

/-- A match ends in the text, given the nodes that matches have got to before it. Marks are taken
off again after every character. -/
def search (m : Machine) (before : Option Char) (got : List Nat) (marks : Array Bool) :
    List Char → Bool
  | [] => (m.reach before none got marks).1.any m.accepts
  | c :: rest =>
    let (reached, marks) := m.reach before (some c) got marks
    reached.any m.accepts ||
      search m (some c) (reached.filterMap (m.reads c))
        (reached.foldl (fun marks node => marks.set! node false) marks) rest

/-- Some match of the pattern is in the text. -/
def isIn (m : Machine) (text : String) : Bool :=
  m.search none [] (Array.replicate m.nodes.size false) text.toList

end Machine

end JvmFacts.Pattern
