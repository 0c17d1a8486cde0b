import JvmFacts.Class.Path
import JvmFacts.Proofs.Lists
import JvmFacts.Session.Classes

/-!
What a table of bridges answers after any number of changes. Both directions tell the newest link of
the method that is asked about. A link is written under its two ends, so one that is set later from the
same bridge takes its place under the bridge, but not under the method that it led to before.
-/

set_option autoImplicit false

namespace JvmFacts

namespace Bridges

/-- A change to the table. -/
inductive Operation where
  | set (source target : Method)
  | clear

/-- A bridge and the method that it was said to forward to. -/
structure Link where
  source : Method
  target : Method

namespace Link

variable (l : Link) (m : MethodDescriptor)

def leaves : Bool :=
  l.source.descriptor.id == m.id

def enters : Bool :=
  l.target.descriptor.id == m.id

theorem leaves_source : l.leaves l.source.descriptor = true :=
  beq_self_eq_true _

theorem enters_target : l.enters l.target.descriptor = true :=
  beq_self_eq_true _

end Link

namespace Operation

def apply : Operation → Bridges → Bridges
  | set source target, b => b.set source target
  | clear, _ => .empty

/-- What the operation makes of the links before it, the newest one first. -/
def record : Operation → List Link → List Link
  | set source target, links => ⟨source, target⟩ :: links
  | clear, _ => []

end Operation

def applyAll (operations : List Operation) (b : Bridges) : Bridges :=
  operations.foldl (fun b operation => operation.apply b) b

def recordAll (operations : List Operation) (links : List Link) : List Link :=
  operations.foldl (fun links operation => operation.record links) links

/-! ## The newest link -/

/-- Either direction tells the newest link of the method. -/
structure Tells (b : Bridges) (links : List Link) : Prop where
  target? : ∀ m, b.target? m = (links.find? (·.leaves m)).map Link.target
  source? : ∀ m, b.source? m = (links.find? (·.enters m)).map Link.source

theorem tells_empty : empty.Tells [] :=
  ⟨fun _ => rfl, fun _ => rfl⟩

/-- To write one end of a link under its other end is to put the link before all others. -/
theorem find?_insert_link {under : Link → Nat} {value : Link → Method} {t : Table Nat Method}
    {links : List Link} {id : Nat} (told : t.find? id = (links.find? (under · == id)).map value)
    (l : Link) : (t.insert (under l) (value l)).find? id =
      ((l :: links).find? (under · == id)).map value := by
  rw [Table.find?_insert]
  by_cases same : under l = id
  · have hit : (under l == id) = true := beq_iff_eq.2 same
    rw [if_pos same, @List.find?_cons_of_pos _ (under · == id) _ _ hit]
    rfl
  · have miss : ¬ (under l == id) = true := mt beq_iff_eq.1 same
    rw [if_neg same, @List.find?_cons_of_neg _ (under · == id) _ _ miss, told]

section

variable {b : Bridges} {links : List Link} (tells : b.Tells links)

include tells

theorem Tells.apply (operation : Operation) : (operation.apply b).Tells (operation.record links) := by
  cases operation with
  | clear => exact tells_empty
  | set source target =>
    constructor
    · exact fun m => find?_insert_link (tells.target? m) ⟨source, target⟩
    · exact fun m => find?_insert_link (tells.source? m) ⟨source, target⟩

theorem Tells.applyAll (operations : List Operation) :
    (applyAll operations b).Tells (recordAll operations links) := by
  induction operations generalizing b links with
  | nil => exact tells
  | cons operation rest ih => exact ih (tells.apply operation)

variable {newer : List Link} {l : Link} (within : newer ++ [l] <+: links)

include within

/-- Forward, a link stands until a newer one leaves its bridge. -/
theorem Tells.target?_of_leaves {m : MethodDescriptor} (leaves : l.leaves m = true) :
    b.target? m = some ((newer.find? (·.leaves m)).getD l).target := by
  rw [tells.target?, @find?_of_front _ (·.leaves m) _ _ _ within leaves]
  rfl

/-- Backward, a link stands until a newer one enters its target. -/
theorem Tells.source?_of_enters {m : MethodDescriptor} (enters : l.enters m = true) :
    b.source? m = some ((newer.find? (·.enters m)).getD l).source := by
  rw [tells.source?, @find?_of_front _ (·.enters m) _ _ _ within enters]
  rfl

end

/-! ## Both directions -/

/-- A bridge that is told for the method forwards to it. -/
def Agrees (b : Bridges) (t : MethodDescriptor) : Prop :=
  ∀ bridge, b.source? t = some bridge →
    ∃ target, b.target? bridge.descriptor = some target ∧ target.descriptor = t

/-- The newest link to the method, with the links that were set after it. -/
structure Newest (links : List Link) (t : MethodDescriptor) (newer : List Link) (l : Link) : Prop where
  within : newer ++ [l] <+: links
  enters : l.enters t = true
  apart : ∀ x ∈ newer, x.enters t = false

section

variable {b : Bridges} {links : List Link} (tells : b.Tells links) {t : MethodDescriptor}

include tells

theorem Tells.source?_of_newest {newer : List Link} {l : Link} (newest : Newest links t newer l) :
    b.source? t = some l.source := by
  have nothing : newer.find? (·.enters t) = none :=
    List.find?_eq_none.2 fun x member => ne_true_of_eq_false (newest.apart x member)
  rw [tells.source?_of_enters newest.within newest.enters, nothing]
  rfl

theorem Tells.exists_newest {bridge : Method} (told : b.source? t = some bridge) :
    ∃ newer l, Newest links t newer l ∧ l.source = bridge := by
  rw [tells.source?] at told
  obtain ⟨l, found, rfl⟩ := Option.map_eq_some_iff.1 told
  obtain ⟨enters, newer, older, rfl, apart⟩ := List.find?_eq_some_iff_append.1 found
  refine ⟨newer, l, ⟨⟨older, ?_⟩, enters, ?_⟩, rfl⟩
  · rw [List.append_assoc, List.singleton_append]
  · intro x member
    exact (Bool.not_eq_true' _).mp (apart x member)

/-- The directions agree on a method where the newest link to it is also the newest one of its
bridge. -/
theorem Tells.agrees_iff : b.Agrees t ↔ ∀ newer l, Newest links t newer l →
    l.target.descriptor = t ∧ ∀ x ∈ newer, x.leaves l.source.descriptor = false := by
  constructor
  · intro agrees newer l newest
    obtain ⟨target, forwards, rfl⟩ := agrees l.source (tells.source?_of_newest newest)
    rw [tells.target?_of_leaves newest.within l.leaves_source] at forwards
    cases found : newer.find? (·.leaves l.source.descriptor) with
    | none =>
      rw [found] at forwards
      refine ⟨congrArg (·.descriptor) (Option.some.inj forwards), ?_⟩
      intro x member
      exact eq_false_of_ne_true (List.find?_eq_none.1 found x member)
    | some x =>
      -- A link that replaced the newest one to the target leads elsewhere.
      rw [found] at forwards
      obtain rfl : x.target = target := Option.some.inj forwards
      have elsewhere := newest.apart x (List.mem_of_find?_eq_some found)
      rw [x.enters_target] at elsewhere
      cases elsewhere
  · intro standing bridge told
    obtain ⟨newer, l, newest, rfl⟩ := tells.exists_newest told
    obtain ⟨named, last⟩ := standing newer l newest
    have nothing : newer.find? (·.leaves l.source.descriptor) = none :=
      List.find?_eq_none.2 fun x member => ne_true_of_eq_false (last x member)
    refine ⟨l.target, ?_, named⟩
    rw [tells.target?_of_leaves newest.within l.leaves_source, nothing]
    rfl

end

/-- What the table answers, by the links that were set. The directions agree on a method when no other
link left its bridge after the newest link to it. A link that a newer one of its bridge took the place
of is gone forward; backward it stays until a newer one enters its target. -/
structure Linked (b : Bridges) (links : List Link) : Prop extends Tells b links where
  agrees : ∀ t, b.Agrees t ↔ ∀ newer l, Newest links t newer l →
    l.target.descriptor = t ∧ ∀ x ∈ newer, x.leaves l.source.descriptor = false
  overwritten : ∀ newer l, newer ++ [l] <+: links →
    (∃ x ∈ newer, x.leaves l.source.descriptor = true) →
      (∃ x ∈ newer, b.target? l.source.descriptor = some x.target) ∧
        b.source? l.target.descriptor =
          some ((newer.find? (·.enters l.target.descriptor)).getD l).source

theorem Tells.linked {b : Bridges} {links : List Link} (tells : b.Tells links) : b.Linked links where
  toTells := tells
  agrees := fun _ => tells.agrees_iff
  overwritten := by
    intro newer l within replaced
    refine ⟨?_, tells.source?_of_enters within l.enters_target⟩
    obtain ⟨x, found⟩ := Option.isSome_iff_exists.1 (List.find?_isSome.2 replaced)
    refine ⟨x, List.mem_of_find?_eq_some found, ?_⟩
    rw [tells.target?_of_leaves within l.leaves_source, found]
    rfl

theorem linked_applyAll (operations : List Operation) :
    (applyAll operations .empty).Linked (recordAll operations []) :=
  (tells_empty.applyAll operations).linked

/-! ## A bridge that is linked again -/

/-- A class with a bridge method, with the method that it stands for, and with another one. -/
def comparable : ClassPath :=
  ClassPath.add {}
    { name := "app/Main"
      methods :=
        [{ className := "app/Main", name := "compareTo", signature := "(Ljava/lang/Object;)I",
           flags := .ofList [.accPublic, .accBridge, .accSynthetic] },
          { className := "app/Main", name := "compareTo", signature := "(Lapp/Main;)I",
            flags := .ofList [.accPublic] },
          { className := "app/Main", name := "other", signature := "()V",
            flags := .ofList [.accPublic] }] }

/-- The methods that a new session makes when the class is looked up. -/
def comparableMethods : List Method :=
  let start := Session.start .minimal { token := 0 } .fixed (.collect [])
  let found := ((Session.lookup comparable.read "app.Main").run.run start).1
  (found.toOption.map ResolvedClass.methods).getD []

/-- The one with this place among them. -/
def comparableMethod (place : Nat) (name signature : String) (flags : List MethodFlag) : Method where
  descriptor := ⟨place + 3, ⟨0, 1, "app/Main"⟩, name, signature, false⟩
  flags := .ofList flags
  sourceSignature := none
  exceptions := []
  syntheticParameters := 0
  callCount := 0
  usesConcurrency := false
  hasBackBranch := false
  isStub := false
  serial := place

def bridge : Method :=
  comparableMethod 0 "compareTo" "(Ljava/lang/Object;)I" [.accPublic, .accBridge, .accSynthetic]

def target : Method :=
  comparableMethod 1 "compareTo" "(Lapp/Main;)I" [.accPublic]

def other : Method :=
  comparableMethod 2 "other" "()V" [.accPublic]

def relinked : Bridges :=
  applyAll [.set bridge target, .set bridge other] .empty

/-- The method that the bridge led to first still names it, and the bridge leads elsewhere. -/
theorem not_agrees_relinked :
    comparableMethods = [bridge, target, other] ∧
      relinked.source? target.descriptor = some bridge ∧
      relinked.target? bridge.descriptor = some other ∧
      ¬ relinked.Agrees target.descriptor := by
  have backward : relinked.source? target.descriptor = some bridge := by decide +kernel
  have forward : relinked.target? bridge.descriptor = some other := by decide +kernel
  refine ⟨by decide +kernel, backward, forward, ?_⟩
  intro agrees
  obtain ⟨known, told, named⟩ := agrees _ backward
  rw [forward] at told
  obtain rfl := Option.some.inj told
  exact absurd named (by decide)

end Bridges

end JvmFacts
