import Mathlib.Logic.Function.Basic
import JvmFacts.Class.Path
import JvmFacts.Proofs.Registry.Preparation

/-!
What a run knows, told by names alone: class, name, signature and staticness stand where the run has
ids, and no number that a registry or a session hands out is part of it.

Resolving a class is described here once more, by what was read of the class and without a registry.
It looks at nothing but what is told of that class and changes nothing else, so different classes may
be resolved in any order.
-/

set_option autoImplicit false

namespace JvmFacts

/-- All that a method carries. -/
structure MethodAccount where
  reference : MemberReference
  flags : MethodFlags
  sourceSignature : Option String
  exceptions : List String
  syntheticParameters : ParameterMask
  callCount : Nat
  usesConcurrency : Bool
  hasBackBranch : Bool
  isStub : Bool
  annotations : MethodAnnotations

/-- The facts about a method, with the members that it stands for. -/
structure FactAccount where
  alwaysThrows : Bool := false
  isUnsupported : Bool := false
  isIdentity : Bool := false
  forwardsTo : Option MemberReference := none
  accesses : Option MemberReference := none
  deriving DecidableEq, Repr

/-- What the method table and the facts hold for one method. -/
structure MethodEntry where
  method : Option MethodAccount := none
  facts : FactAccount := {}

/-- All that a class record tells. -/
structure ClassAccount where
  name : String
  superclass : Option String
  interfaces : List String
  flags : ClassFlags
  sourceFile : Option String
  fields : List MemberReference
  methods : List MethodAccount

/-- The records of a run by the id of the class that was asked for, which is settled before the class is
resolved, and the methods and facts by name. -/
structure Ledger where
  classes : Nat → Option ClassAccount
  entries : MemberReference → MethodEntry

/-- What can be resolved of a class, or why nothing can. -/
def ClassReader.usable (reader : ClassReader) (c : ClassDescriptor) : Except Fault ParsedClass :=
  match reader c with
  | .error fault => .error fault
  | .ok parsed =>
    match parsed.fault? c with
    | some fault => .error fault
    | none => .ok parsed

def MethodDraft.account (d : MethodDraft) : MethodAccount where
  reference := d.reference
  flags := d.flags
  sourceSignature := d.sourceSignature
  exceptions := d.exceptions
  syntheticParameters := d.syntheticMask
  callCount := d.callCount
  usesConcurrency := d.usesConcurrency
  hasBackBranch := d.hasBackBranch
  isStub := d.isStub
  annotations := ⟨d.annotations, d.parameterAnnotations⟩

/-- Marks are never taken back; a target replaces an earlier one. -/
def FactAccount.add (f : FactAccount) (d : MethodDraft) : FactAccount where
  alwaysThrows := f.alwaysThrows || d.alwaysThrows
  isUnsupported := f.isUnsupported || d.isUnsupported
  isIdentity := f.isIdentity || d.isIdentity
  forwardsTo := (d.forwardsTo.map MemberReference.slashed).or f.forwardsTo
  accesses := (d.accesses.map MemberReference.slashed).or f.accesses

/-- The first method that is made of a name stays in the table; facts come from every making. -/
def MethodEntry.add (e : MethodEntry) (d : MethodDraft) : MethodEntry where
  method := some (e.method.getD d.account)
  facts := e.facts.add d

namespace Ledger

/-- The methods of these drafts are made. -/
def build (l : Ledger) (drafts : List MethodDraft) : Ledger :=
  { l with entries := fun m =>
      (drafts.filter fun d => d.reference = m).foldl MethodEntry.add (l.entries m) }

/-- The method that a class record shows for a draft is the one that the table has. -/
def shown (l : Ledger) (d : MethodDraft) : MethodAccount :=
  (l.entries d.reference).method.getD d.account

def account (l : Ledger) (c : ClassDescriptor) (parsed : ParsedClass) : ClassAccount where
  name := c.name
  superclass := parsed.superclass.map Name.slashed
  interfaces := parsed.interfaces.map Name.slashed
  flags := parsed.flags
  sourceFile := parsed.sourceFile
  fields := parsed.fields.map (ParsedClass.fieldReference c)
  methods := parsed.methods.map l.shown

def remember (l : Ledger) (c : ClassDescriptor) (account : ClassAccount) : Ledger :=
  { l with classes := Function.update l.classes c.id (some account) }

/-- A class that is known is handed out again; a failure changes nothing. -/
def resolve (reader : ClassReader) (c : ClassDescriptor) (l : Ledger) :
    Except Fault ClassAccount × Ledger :=
  match l.classes c.id with
  | some known => (.ok known, l)
  | none =>
    match reader.usable c with
    | .error fault => (.error (fault.unavailable c.name), l)
    | .ok parsed =>
      let grown := l.build parsed.methods
      let account := grown.account c parsed
      (.ok account, grown.remember c account)

/-- Of this class the ledgers tell the same. -/
structure Same (c : ClassDescriptor) (l m : Ledger) : Prop where
  record : m.classes c.id = l.classes c.id
  entries : ∀ r, r.owner = c.name → m.entries r = l.entries r

/-- Neither by number nor by name can the classes be taken for each other. -/
structure Apart (c d : ClassDescriptor) : Prop where
  id : c.id ≠ d.id
  name : c.name ≠ d.name

theorem Apart.symm {c d : ClassDescriptor} (apart : Apart c d) : Apart d c :=
  ⟨apart.id.symm, apart.name.symm⟩

section

variable {reader : ClassReader} {c d : ClassDescriptor} {l m : Ledger} {parsed : ParsedClass}

theorem usable_own (read : reader.usable c = .ok parsed) :
    ∀ d ∈ parsed.methods, d.reference.owner = c.name := by
  unfold ClassReader.usable at read
  split at read
  · cases read
  · rename_i delivered _
    split at read
    · cases read
    · rename_i sound
      obtain rfl := Except.ok.inj read
      exact delivered.own_of_fault? sound

theorem entries_build_single (l : Ledger) (d : MethodDraft) (m : MemberReference) :
    (l.build [d]).entries m = if d.reference = m then (l.entries m).add d else l.entries m := by
  unfold build
  dsimp only
  rw [List.filter_cons, List.filter_nil]
  by_cases hit : d.reference = m
  · rw [if_pos (decide_eq_true hit), if_pos hit]
    rfl
  · rw [if_neg (by rw [decide_eq_false hit]; exact Bool.false_ne_true), if_neg hit]
    rfl

theorem build_cons (l : Ledger) (d : MethodDraft) (rest : List MethodDraft) :
    l.build (d :: rest) = (l.build [d]).build rest := by
  have entries : (l.build (d :: rest)).entries = ((l.build [d]).build rest).entries := by
    funext m
    unfold build
    dsimp only
    rw [← List.foldl_append, ← List.filter_append]
    rfl
  exact congrArg (Ledger.mk l.classes) entries

/-! ## What resolving a class leaves alone -/

theorem entries_build_of_ne (own : ∀ d ∈ parsed.methods, d.reference.owner = c.name)
    {r : MemberReference} (other : r.owner ≠ c.name) :
    (l.build parsed.methods).entries r = l.entries r := by
  have nothing : (parsed.methods.filter fun d => d.reference = r) = [] := by
    apply List.filter_eq_nil_iff.2
    intro d member
    rw [decide_eq_true_eq]
    rintro rfl
    exact other (own d member)
  unfold build
  dsimp only
  rw [nothing, List.foldl_nil]

/-- Resolving has three endings, and only in the last of them does it change the ledger. -/
theorem resolve_cases (reader : ClassReader) (c : ClassDescriptor) (l : Ledger) :
    (∃ known, l.classes c.id = some known ∧ l.resolve reader c = (.ok known, l)) ∨
      (∃ fault, l.classes c.id = none ∧ reader.usable c = .error fault ∧
        l.resolve reader c = (.error (fault.unavailable c.name), l)) ∨
      ∃ parsed, l.classes c.id = none ∧ reader.usable c = .ok parsed ∧
        l.resolve reader c = (.ok ((l.build parsed.methods).account c parsed),
          (l.build parsed.methods).remember c ((l.build parsed.methods).account c parsed)) := by
  unfold resolve
  cases known : l.classes c.id with
  | some record => exact Or.inl ⟨record, rfl, rfl⟩
  | none =>
    cases read : reader.usable c with
    | error fault => exact Or.inr (Or.inl ⟨fault, rfl, rfl, rfl⟩)
    | ok parsed => exact Or.inr (Or.inr ⟨parsed, rfl, rfl, rfl⟩)

theorem classes_remember (l : Ledger) (c : ClassDescriptor) (a : ClassAccount) (id : Nat) :
    (l.remember c a).classes id = if id = c.id then some a else l.classes id :=
  Function.update_apply ..

theorem classes_resolve_of_ne {id : Nat} (other : id ≠ c.id) :
    (l.resolve reader c).2.classes id = l.classes id := by
  rcases l.resolve_cases reader c with ⟨known, -, run⟩ | ⟨fault, -, -, run⟩ | ⟨parsed, -, -, run⟩
  · rw [run]
  · rw [run]
  · rw [run, classes_remember, if_neg other]
    rfl

theorem entries_resolve_of_ne {r : MemberReference} (other : r.owner ≠ c.name) :
    (l.resolve reader c).2.entries r = l.entries r := by
  rcases l.resolve_cases reader c with ⟨known, -, run⟩ | ⟨fault, -, -, run⟩ | ⟨parsed, -, read, run⟩
  · rw [run]
  · rw [run]
  · rw [run]
    exact entries_build_of_ne (usable_own read) other

theorem same_resolve (apart : Apart c d) : Same d l (l.resolve reader c).2 where
  record := classes_resolve_of_ne apart.id.symm
  entries := fun _ owner => entries_resolve_of_ne fun same => apart.name (same.symm.trans owner)

/-! ## What resolving a class goes by -/

theorem Same.symm (same : Same c l m) : Same c m l :=
  ⟨same.record.symm, fun r owner => (same.entries r owner).symm⟩

theorem Same.trans {n : Ledger} (one : Same c l m) (two : Same c m n) : Same c l n :=
  ⟨two.record.trans one.record, fun r owner => (two.entries r owner).trans (one.entries r owner)⟩

theorem Same.build (same : Same c l m) (drafts : List MethodDraft) :
    Same c (l.build drafts) (m.build drafts) where
  record := same.record
  entries := by
    intro r owner
    unfold Ledger.build
    dsimp only
    rw [same.entries r owner]

theorem Same.account (same : Same c l m) (own : ∀ d ∈ parsed.methods, d.reference.owner = c.name) :
    m.account c parsed = l.account c parsed := by
  have methods : parsed.methods.map m.shown = parsed.methods.map l.shown := by
    apply List.map_congr_left
    intro d member
    unfold shown
    rw [same.entries d.reference (own d member)]
  unfold Ledger.account
  rw [methods]

/-- What becomes of a class depends only on what the ledger tells of it. -/
theorem Same.resolve (same : Same c l m) :
    (m.resolve reader c).1 = (l.resolve reader c).1 ∧
      Same c (l.resolve reader c).2 (m.resolve reader c).2 := by
  have record := same.record
  unfold Ledger.resolve
  rw [record]
  cases l.classes c.id with
  | some known => exact ⟨rfl, same⟩
  | none =>
    cases read : reader.usable c with
    | error fault => exact ⟨rfl, same⟩
    | ok parsed =>
      have built := same.build parsed.methods
      have account := built.account (usable_own read)
      dsimp only
      rw [account]
      refine ⟨rfl, ?_, built.entries⟩
      rw [classes_remember, classes_remember, if_pos rfl, if_pos rfl]

/-! ## Different classes -/

theorem ext_of_same (one : Same c l m) (two : Same d l m)
    (classes : ∀ id, id ≠ c.id → id ≠ d.id → m.classes id = l.classes id)
    (entries : ∀ r, r.owner ≠ c.name → r.owner ≠ d.name → m.entries r = l.entries r) : m = l := by
  obtain ⟨mClasses, mEntries⟩ := m
  obtain ⟨lClasses, lEntries⟩ := l
  congr 1
  · funext id
    by_cases first : id = c.id
    · rw [first]
      exact one.record
    · by_cases second : id = d.id
      · rw [second]
        exact two.record
      · exact classes id first second
  · funext r
    by_cases first : r.owner = c.name
    · exact one.entries r first
    · by_cases second : r.owner = d.name
      · exact two.entries r second
      · exact entries r first second

/-- Each of the two classes finds what it would find without the other one. -/
theorem resolve_comm (apart : Apart c d) (l : Ledger) :
    ((l.resolve reader c).2.resolve reader d).2 = ((l.resolve reader d).2.resolve reader c).2 := by
  have cBefore : Same c l (l.resolve reader d).2 := same_resolve apart.symm
  have dBefore : Same d l (l.resolve reader c).2 := same_resolve apart
  have cAfter : Same c (l.resolve reader c).2 ((l.resolve reader c).2.resolve reader d).2 :=
    same_resolve apart.symm
  have dAfter : Same d (l.resolve reader d).2 ((l.resolve reader d).2.resolve reader c).2 :=
    same_resolve apart
  apply ext_of_same (c := c) (d := d)
  · exact (cBefore.resolve.2.symm.trans cAfter)
  · exact (dAfter.symm.trans dBefore.resolve.2)
  · intro id first second
    rw [classes_resolve_of_ne second, classes_resolve_of_ne first, classes_resolve_of_ne first,
      classes_resolve_of_ne second]
  · intro r first second
    rw [entries_resolve_of_ne second, entries_resolve_of_ne first, entries_resolve_of_ne first,
      entries_resolve_of_ne second]

/-- These classes are resolved one after the other. -/
def resolveAll (reader : ClassReader) (classes : List ClassDescriptor) (l : Ledger) : Ledger :=
  classes.foldl (fun l c => (l.resolve reader c).2) l

theorem resolveAll_cons (reader : ClassReader) (c : ClassDescriptor) (rest : List ClassDescriptor)
    (l : Ledger) :
    l.resolveAll reader (c :: rest) = (l.resolve reader c).2.resolveAll reader rest :=
  rfl

theorem classes_resolveAll_of_ne {classes : List ClassDescriptor} {id : Nat}
    (others : ∀ c ∈ classes, id ≠ c.id) :
    (l.resolveAll reader classes).classes id = l.classes id := by
  induction classes generalizing l with
  | nil => rfl
  | cons c rest ih =>
    obtain ⟨first, further⟩ := List.forall_mem_cons.1 others
    rw [resolveAll_cons, ih further, classes_resolve_of_ne first]

theorem resolveAll_perm {classes others : List ClassDescriptor} (perm : classes.Perm others)
    (apart : ∀ c ∈ classes, ∀ d ∈ classes, c ≠ d → Apart c d) (l : Ledger) :
    l.resolveAll reader classes = l.resolveAll reader others := by
  unfold resolveAll
  apply perm.foldl_eq'
  intro c first d second m
  by_cases same : c = d
  · rw [same]
  · exact resolve_comm (apart c first d second same) m

end

end Ledger

end JvmFacts
