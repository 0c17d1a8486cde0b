import JvmFacts.Proofs.Session.Filing
import JvmFacts.Proofs.Session.Ledger

/-!
The ledger that a session keeps, and what resolving a class does to it: what the ledger itself says it
does. All that the registry decides, which ids are handed out and which names are there already, is gone
from it.
-/

set_option autoImplicit false

namespace JvmFacts

open List

/-! ## Reading things by name -/

def MethodBody.account (b : MethodBody) (annotations : MethodAnnotations) : MethodAccount where
  reference := b.descriptor.reference
  flags := b.flags
  sourceSignature := b.sourceSignature
  exceptions := b.exceptions
  syntheticParameters := b.syntheticParameters
  callCount := b.callCount
  usesConcurrency := b.usesConcurrency
  hasBackBranch := b.hasBackBranch
  isStub := b.isStub
  annotations := annotations

def FactTables.account (t : FactTables) (id : Nat) : FactAccount where
  alwaysThrows := t.alwaysThrows id
  isUnsupported := t.isUnsupported id
  isIdentity := t.isIdentity id
  forwardsTo := (t.forwardsTo? id).map MemberDescriptor.reference
  accesses := (t.accesses? id).map MemberDescriptor.reference

/-- The method of this class, name, signature and staticness, if it was ever asked for. -/
def Registry.methodNamed? (r : Registry) (m : MemberReference) : Option MethodDescriptor :=
  r.methods.find? fun d => d.reference = m

namespace Session

def methodAccount (s : Session) (m : Method) : MethodAccount :=
  m.account (s.annotationsOf m)

def classAccount (s : Session) (c : ResolvedClass) : ClassAccount where
  name := c.descriptor.name
  superclass := c.superclass.map ClassDescriptor.name
  interfaces := c.interfaces.map ClassDescriptor.name
  flags := c.flags
  sourceFile := c.sourceFile
  fields := c.fields.map MemberDescriptor.reference
  methods := c.methods.map s.methodAccount

def entryOf (s : Session) (d : MethodDescriptor) : MethodEntry where
  method := (s.method? d).map s.methodAccount
  facts := s.run.facts.account d.id

def entry (s : Session) (m : MemberReference) : MethodEntry :=
  match s.registry.methodNamed? m with
  | some d => s.entryOf d
  | none => {}

def ledger (s : Session) : Ledger where
  classes := fun id => (s.run.classes.find? id).map s.classAccount
  entries := s.entry

/-- An outcome by names. A fault holds no ids. -/
def outcomeAccount (s : Session) (outcome : Except Fault ResolvedClass) :
    Except Fault ClassAccount :=
  outcome.map s.classAccount

end Session

/-! ## Names and descriptors -/

namespace Registry

variable {r : Registry} {d : MethodDescriptor} {m : MemberReference}

theorem of_methodNamed? (found : r.methodNamed? m = some d) : d ∈ r.methods ∧ d.reference = m := by
  unfold methodNamed? at found
  have fits := find?_some found
  exact ⟨mem_of_find?_eq_some found, of_decide_eq_true fits⟩

theorem WellFormed.methodNamed? (wf : r.WellFormed) (held : d ∈ r.methods) :
    r.methodNamed? d.reference = some d := by
  cases found : r.methodNamed? d.reference with
  | none =>
    have other := find?_eq_none.1 found d held
    exact absurd (decide_eq_true rfl) other
  | some e =>
    obtain ⟨also, same⟩ := of_methodNamed? found
    have key : (Descriptor.ofMethod e).key = (Descriptor.ofMethod d).key := by
      obtain ⟨owner, name, signature, isStatic⟩ := MemberReference.mk.inj same
      simp only [Descriptor.key, owner, name, signature, isStatic]
    rw [Descriptor.ofMethod.inj (wf.canonical (.ofMethod e) (.ofMethod d) also held key)]

end Registry

namespace MethodDraft

variable {d : MethodDraft} {r : Registry} {p : PreparedMethod} (prepares : d.Prepares r p)

include prepares

theorem Prepares.reference : p.body.descriptor.reference = d.reference := by
  obtain ⟨-, owner, name, signature, isStatic⟩ := DescriptorKey.ofMember.inj prepares.key
  unfold MemberDescriptor.reference MethodDraft.reference
  rw [owner, name, signature, isStatic]

theorem Prepares.account : p.body.account ⟨p.annotations, p.parameterAnnotations⟩ = d.account := by
  have named := prepares.reference
  rw [prepares.annotations, prepares.parameterAnnotations, prepares.body]
  unfold MethodBody.account MethodDraft.account
  rw [← named]
  rfl

end MethodDraft

/-! ## Facts -/

namespace FactTables

variable {id : Nat} {t u : FactTables}

theorem Agree.account (agree : Agree id t u) : u.account id = t.account id := by
  unfold FactTables.account
  rw [agree.alwaysThrows, agree.isUnsupported, agree.isIdentity, agree.forwardsTo, agree.accesses]

theorem contains_insertIf_self (holds : Bool) (id : Nat) (ids : List Nat) :
    (insertIf holds id ids).contains id = (ids.contains id || holds) := by
  rw [Bool.eq_iff_iff, contains_iff_mem, mem_insertIf, Bool.or_eq_true, contains_iff_mem]
  simp only [and_true]

theorem map_insertSome_self {α β : Type} (f : α → β) (value : Option α) (t : Table Nat α) :
    ((insertSome id value t).find? id).map f = (value.map f).or ((t.find? id).map f) := by
  rw [find?_insertSome, if_pos rfl, Option.map_or]

theorem account_record {d : MethodDraft} {r : Registry} {p : PreparedMethod}
    (prepares : d.Prepares r p) (t : FactTables) :
    (t.record p).account p.body.descriptor.id = (t.account p.body.descriptor.id).add d := by
  unfold FactTables.account FactAccount.add FactTables.alwaysThrows FactTables.isUnsupported
    FactTables.isIdentity FactTables.forwardsTo? FactTables.accesses? FactTables.record
  dsimp only
  rw [contains_insertIf_self, contains_insertIf_self, contains_insertIf_self, map_insertSome_self,
    map_insertSome_self, prepares.alwaysThrows, prepares.isUnsupported, prepares.isIdentity,
    prepares.forwardsTo.map_reference, prepares.accesses.map_reference]

end FactTables

namespace Session

section

variable {s : Session} (orderly : Orderly s)

include orderly

theorem entry_of_mem {d : MethodDescriptor} (held : d ∈ s.registry.methods) :
    s.entry d.reference = s.entryOf d := by
  unfold entry
  rw [orderly.registry.methodNamed? held]

/-- Nothing is known of a method that the registry does not have. -/
theorem entryOf_of_absent {d : MethodDescriptor} (absent : ∀ e ∈ s.registry.methods, e.id ≠ d.id) :
    s.entryOf d = {} := by
  have method : s.method? d = none := by
    cases found : s.method? d with
    | none => rfl
    | some m =>
      have held := orderly.genuine.registered m (handed_of_method? found)
      rw [orderly.filed.keyed d m found] at held
      exact absurd rfl (absent d held)
  unfold entryOf
  rw [method, (orderly.noted d.id absent).account]
  rfl

/-- Interning makes nothing known. -/
theorem ledger_intern {r : Registry} (grows : s.registry.GrowsSoundly r) :
    ledger { s with registry := r } = s.ledger := by
  have wf := grows.wellFormed orderly.registry
  have entries : entry { s with registry := r } = s.entry := by
    funext m
    cases before : s.registry.methodNamed? m with
    | some d =>
      obtain ⟨held, rfl⟩ := Registry.of_methodNamed? before
      rw [entry_of_mem orderly held]
      exact entry_of_mem (orderly.intern grows) (grows.mem_members held)
    | none =>
      unfold entry
      rw [before]
      dsimp only
      cases after : r.methodNamed? m with
      | none => rfl
      | some d =>
        obtain ⟨held, rfl⟩ := Registry.of_methodNamed? after
        apply entryOf_of_absent orderly
        intro e member same
        have equal : e = d := wf.method_inj (grows.mem_members member) held same
        subst equal
        rw [orderly.registry.methodNamed? member] at before
        cases before
  unfold ledger
  rw [entries]
  rfl

/-! ## Making methods -/

omit orderly in
theorem annotationsOf_makeAndKeep (p : PreparedMethod) {m : Method}
    (older : m.serial < s.methodsMade) :
    (s.makeAndKeep p).2.annotationsOf m = s.annotationsOf m := by
  obtain ⟨methods, same⟩ := makeAndKeep_frame p s
  have other : s.methodsMade ≠ m.serial := Nat.ne_of_gt older
  unfold annotationsOf
  rw [same]
  unfold makeMethod
  dsimp only
  rw [Table.find?_insert, if_neg other]

/-- A method that was there already is told as before. -/
theorem methodAccount_makeAndKeep (p : PreparedMethod) {m : Method}
    (held : m ∈ s.run.methods.values) :
    (s.makeAndKeep p).2.methodAccount m = s.methodAccount m := by
  have older := orderly.genuine.older m (Or.inr held)
  unfold methodAccount
  rw [annotationsOf_makeAndKeep p older]

omit orderly in
theorem methodAccount_makeMethod {d : MethodDraft} {r : Registry} {p : PreparedMethod}
    (prepares : d.Prepares r p) :
    (s.makeAndKeep p).2.methodAccount (s.makeMethod p).1 = d.account := by
  obtain ⟨methods, same⟩ := makeAndKeep_frame p s
  have annotations : (s.makeAndKeep p).2.annotationsOf (s.makeMethod p).1 =
      ⟨p.annotations, p.parameterAnnotations⟩ := by
    unfold annotationsOf
    rw [same]
    unfold makeMethod
    dsimp only
    rw [Table.find?_insert, if_pos rfl]
    rfl
  unfold methodAccount
  rw [annotations]
  exact prepares.account

variable {d : MethodDraft} {p : PreparedMethod} (prepares : d.Prepares s.registry p)

theorem method?_account_makeAndKeep (p : PreparedMethod) (descriptor : MethodDescriptor) :
    ((s.method? descriptor).map (s.makeAndKeep p).2.methodAccount) =
      (s.method? descriptor).map s.methodAccount := by
  cases found : s.method? descriptor with
  | none => rfl
  | some m =>
    have held := Table.mem_values_of_find? found
    rw [Option.map_some, Option.map_some, methodAccount_makeAndKeep orderly p held]

include prepares

/-- What is known of the method that is made, and of that one only. -/
theorem entryOf_makeAndKeep {descriptor : MethodDescriptor}
    (held : descriptor ∈ s.registry.methods) :
    (s.makeAndKeep p).2.entryOf descriptor =
      if d.reference = descriptor.reference then (s.entryOf descriptor).add d
      else s.entryOf descriptor := by
  have old := method?_account_makeAndKeep orderly p descriptor
  unfold entryOf MethodEntry.add
  rw [method?_makeAndKeep, facts_makeAndKeep]
  by_cases hit : p.body.descriptor = descriptor
  · subst hit
    rw [if_pos prepares.reference.symm, if_pos rfl, FactTables.account_record prepares, ← old]
    cases s.method? p.body.descriptor with
    | none => rw [Option.none_or, Option.map_some, methodAccount_makeMethod prepares]; rfl
    | some m => rfl
  · have names : d.reference ≠ descriptor.reference := by
      intro equal
      rw [← prepares.reference] at equal
      have found := orderly.registry.methodNamed? prepares.registered
      rw [equal, orderly.registry.methodNamed? held] at found
      exact hit (Option.some.inj found).symm
    have ids : p.body.descriptor.id ≠ descriptor.id :=
      fun equal => hit (orderly.registry.method_inj prepares.registered held equal)
    rw [if_neg names, if_neg hit, Option.or_none, old, (FactTables.agree_record ids _).account]

theorem entry_makeAndKeep (m : MemberReference) : (s.makeAndKeep p).2.entry m =
    if d.reference = m then (s.entry m).add d else s.entry m := by
  cases named : s.registry.methodNamed? m with
  | some descriptor =>
    obtain ⟨held, rfl⟩ := Registry.of_methodNamed? named
    have still : descriptor ∈ (s.makeAndKeep p).2.registry.methods := by
      rw [registry_makeAndKeep]
      exact held
    rw [entry_of_mem (orderly.makeAndKeep prepares.registered) still, entry_of_mem orderly held,
      entryOf_makeAndKeep orderly prepares held]
  | none =>
    have other : d.reference ≠ m := by
      rintro rfl
      rw [← prepares.reference, orderly.registry.methodNamed? prepares.registered] at named
      cases named
    unfold entry
    rw [registry_makeAndKeep, named, if_neg other]

omit prepares in
theorem classes_ledger_makeAndKeep (p : PreparedMethod) :
    (s.makeAndKeep p).2.ledger.classes = s.ledger.classes := by
  funext id
  unfold ledger
  dsimp only
  rw [classes_makeAndKeep]
  cases found : s.run.classes.find? id with
  | none => rfl
  | some record =>
    have kept := orderly.filed.kept id record found
    have methods : record.methods.map (s.makeAndKeep p).2.methodAccount =
        record.methods.map s.methodAccount :=
      map_congr_left fun m member => methodAccount_makeAndKeep orderly p (kept m member)
    rw [Option.map_some, Option.map_some]
    unfold classAccount
    rw [methods]

theorem ledger_makeAndKeep : (s.makeAndKeep p).2.ledger = s.ledger.build [d] := by
  have classes := classes_ledger_makeAndKeep orderly p
  have entries : (s.makeAndKeep p).2.entry = (s.ledger.build [d]).entries := by
    funext m
    rw [entry_makeAndKeep orderly prepares, Ledger.entries_build_single]
    rfl
  exact congrArg₂ Ledger.mk classes entries

omit orderly prepares in
/-- The methods of a class are made one after the other. -/
theorem ledger_makeAll {drafts : List MethodDraft} {prepared : List PreparedMethod} {s : Session}
    (orderly : Orderly s) (prepares : Forall₂ (·.Prepares s.registry ·) drafts prepared) :
    Orderly (makeAll prepared s).2 ∧ (makeAll prepared s).2.ledger = s.ledger.build drafts := by
  induction drafts generalizing s prepared with
  | nil =>
    cases prepares
    exact ⟨orderly, rfl⟩
  | cons d rest ih =>
    cases prepares with
    | @cons _ p _ _ first others =>
      rw [← registry_makeAndKeep p s] at others
      obtain ⟨still, ledger⟩ := ih (orderly.makeAndKeep first.registered) others
      rw [makeAll_cons, Ledger.build_cons, ← ledger_makeAndKeep orderly first]
      exact ⟨still, ledger⟩

end

/-! ## Making classes -/

section

variable {s : Session} {c : ClassDescriptor} {parsed : ParsedClass} {p : PreparedClass}

/-- The methods of a record are told as those that the table has in the end. -/
theorem methods_makeAll (orderly : Orderly s) {drafts : List MethodDraft}
    {prepared : List PreparedMethod} {made : List Method}
    (prepares : Forall₂ (·.Prepares s.registry ·) drafts prepared)
    (held : Forall₂ (fun p m => s.method? p.body.descriptor = some m) prepared made) :
    made.map s.methodAccount = drafts.map s.ledger.shown := by
  induction prepares generalizing made with
  | nil =>
    cases held
    rfl
  | @cons d p _ _ first _ ih =>
    cases held with
    | @cons _ m _ _ here others =>
      have entry := entry_of_mem orderly first.registered
      rw [first.reference] at entry
      have shown : s.ledger.shown d = s.methodAccount m := by
        unfold Ledger.shown ledger
        dsimp only
        rw [entry]
        unfold entryOf
        rw [here]
        rfl
      rw [map_cons, map_cons, shown, ih others]

section

variable (orderly : Orderly s) (prepares : parsed.Prepares c s.registry p)

include orderly prepares

theorem ledger_makeClass : Orderly (makeClass p s).2 ∧
    (makeClass p s).2.ledger = s.ledger.build parsed.methods := by
  obtain ⟨still, ledger⟩ := ledger_makeAll orderly prepares.methods
  exact ⟨still.countClass, ledger⟩

theorem classAccount_makeClass : (makeClass p s).2.classAccount (makeClass p s).1 =
    (s.ledger.build parsed.methods).account c parsed := by
  obtain ⟨still, ledger⟩ := ledger_makeAll orderly prepares.methods
  have registered := prepares.methods
  rw [← (makeAll_spec p.methods s).1] at registered
  have methods := methods_makeAll still registered (method?_of_makeAll p.methods s)
  have interfaces : p.interfaces.map ClassDescriptor.name = parsed.interfaces.map Name.slashed :=
    (map_eq_of_paired prepares.interfaces fun name x names => names.2.symm).symm
  have fields : p.fields.map MemberDescriptor.reference =
      parsed.fields.map (ParsedClass.fieldReference c) :=
    (map_eq_of_paired prepares.fields fun f m lists => lists.2.symm).symm
  rw [ledger] at methods
  change ClassAccount.mk p.descriptor.name (p.superclass.map ClassDescriptor.name)
    (p.interfaces.map ClassDescriptor.name) p.flags p.sourceFile
    (p.fields.map MemberDescriptor.reference)
    ((makeAll p.methods s).1.map (makeAll p.methods s).2.methodAccount) = _
  rw [prepares.descriptor, ParsedClass.map_name_of_names prepares.superclass, interfaces,
    prepares.flags, prepares.sourceFile, fields, methods]
  rfl

end

theorem ledger_rememberClass (s : Session) (c : ClassDescriptor) (record : ResolvedClass) :
    (s.rememberClass c record).ledger = s.ledger.remember c (s.classAccount record) := by
  have classes : (s.rememberClass c record).ledger.classes =
      (s.ledger.remember c (s.classAccount record)).classes := by
    funext id
    rw [Ledger.classes_remember]
    have found : (s.rememberClass c record).run.classes.find? id =
        if c.id = id then some record else s.run.classes.find? id := Table.find?_insert ..
    unfold ledger
    dsimp only
    rw [found]
    by_cases same : id = c.id
    · rw [if_pos same.symm, if_pos same]
      rfl
    · rw [if_neg (Ne.symm same), if_neg same]
      rfl
  exact congrArg₂ Ledger.mk classes rfl

/-- What a session does to its ledger when a class is asked for is what the ledger says. -/
theorem ledger_classRecord (orderly : Orderly s) (reader : ClassReader) (c : ClassDescriptor) :
    Orderly ((classRecord reader c).run.run s).2 ∧
      ((classRecord reader c).run.run s).2.ledger = (s.ledger.resolve reader c).2 ∧
      ((classRecord reader c).run.run s).2.outcomeAccount ((classRecord reader c).run.run s).1 =
        (s.ledger.resolve reader c).1 := by
  have ledger : s.ledger.classes c.id = (s.run.classes.find? c.id).map s.classAccount := rfl
  unfold Ledger.resolve ClassReader.usable
  rw [ledger]
  cases found : s.run.classes.find? c.id with
  | some known =>
    rw [classRecord_of_known found]
    exact ⟨orderly, rfl, rfl⟩
  | none =>
    rw [classRecord_of_unknown found]
    unfold readClass
    cases reader c with
    | error fault => exact ⟨orderly, rfl, rfl⟩
    | ok parsed =>
      have fails := parsed.prepare_failsWith c s.registry
      have prepared := ParsedClass.yields_prepare orderly.registry c parsed
      have grows := prepared.steps
      have fits := prepared.post
      dsimp only
      unfold resolve
      rw [run_interning_modifyGet]
      rcases ended : (parsed.prepare c).run.run s.registry with ⟨fault | p, r⟩ <;>
        rw [ended] at fails grows fits
      · rw [← fails]
        exact ⟨orderly.intern grows, ledger_intern orderly grows, rfl⟩
      · rw [← fails]
        have before := orderly.intern grows
        obtain ⟨still, made⟩ := ledger_makeClass before (fits p rfl)
        have account := classAccount_makeClass before (fits p rfl)
        have kept := mem_methods_makeAll p.methods { s with registry := r }
        rw [ledger_intern orderly grows] at made account
        refine ⟨still.remember kept c, ?_, congrArg Except.ok account⟩
        refine (ledger_rememberClass _ c _).trans ?_
        rw [made, account]
        rfl

end

end Session

end JvmFacts
