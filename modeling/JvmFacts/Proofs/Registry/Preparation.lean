import JvmFacts.Class.Parsed
import JvmFacts.Promise.CheckReturn
import JvmFacts.Promise.DeclaredNullness
import JvmFacts.Proofs.Registry.Interning

/-!
Preparing methods and classes, and loading built-in entries: each interns a series of members and
classes. Whether something can be prepared does not depend on what the registry holds already.
-/

set_option autoImplicit false

namespace JvmFacts

open Registry

/-- What the member is called, whatever its number. -/
def MemberDescriptor.reference {kind : MemberKind} (m : MemberDescriptor kind) : MemberReference :=
  ⟨m.owner.name, m.name, m.signature, m.isStatic⟩

/-- The member as a registry spells it. -/
def MemberReference.slashed (reference : MemberReference) : MemberReference :=
  { reference with owner := Name.slashed reference.owner }

def MemberReference.key (kind : MemberKind) (reference : MemberReference) : DescriptorKey :=
  .ofMember kind (Name.slashed reference.owner) reference.name reference.signature reference.isStatic

/-- A member of the registry is the one that a reference names; either both are there or neither
is. -/
def Refers (r : Registry) (kind : MemberKind) :
    Option MemberReference → Option (MemberDescriptor kind) → Prop :=
  Option.Rel fun reference m =>
    m ∈ r.members kind ∧ (Descriptor.ofMember kind m).key = reference.key kind

theorem reference_of_key {kind : MemberKind} {m : MemberDescriptor kind}
    {reference : MemberReference} (same : (Descriptor.ofMember kind m).key = reference.key kind) :
    m.reference = reference.slashed := by
  rw [Descriptor.key_ofMember] at same
  obtain ⟨-, owner, name, signature, isStatic⟩ := DescriptorKey.ofMember.inj same
  unfold MemberDescriptor.reference MemberReference.slashed
  rw [owner, name, signature, isStatic]

theorem Refers.map_reference {r : Registry} {kind : MemberKind}
    {reference : Option MemberReference} {m : Option (MemberDescriptor kind)}
    (refers : Refers r kind reference m) :
    m.map MemberDescriptor.reference = reference.map MemberReference.slashed := by
  cases refers with
  | some held => exact congrArg some (reference_of_key held.2)
  | none => rfl

theorem Refers.mem {r : Registry} {kind : MemberKind} {reference : Option MemberReference}
    {m : Option (MemberDescriptor kind)} (refers : Refers r kind reference m) :
    ∀ d ∈ m, d ∈ r.members kind := by
  intro d member
  cases refers with
  | some held =>
    obtain rfl := Option.some.inj member
    exact held.1
  | none => cases member

theorem Refers.grows {r after : Registry} {kind : MemberKind} {reference : Option MemberReference}
    {m : Option (MemberDescriptor kind)} (refers : Refers r kind reference m)
    (grows : r.GrowsSoundly after) : Refers after kind reference m := by
  cases refers with
  | some held => exact .some ⟨grows.mem_members held.1, held.2⟩
  | none => exact .none

theorem MemberReference.yields_internAll? {r : Registry} (wf : r.WellFormed) (kind : MemberKind)
    (reference : Option MemberReference) :
    Work.Yields GrowsSoundly r (internAll? kind reference) fun after member =>
      Refers after kind reference member := by
  cases reference with
  | none => exact Work.Yields.pure .none
  | some reference =>
    apply Work.Yields.map
    apply (yields_internMember kind reference.owner reference.name reference.signature
      reference.isStatic wf).mono
    intro after m _ made
    exact .some made

def MemberReference.fault? (kind : MemberKind) (reference : MemberReference) : Option Fault :=
  memberFault? kind reference.owner reference.name reference.signature

theorem MemberReference.internAll?_failsWith (kind : MemberKind)
    (reference : Option MemberReference) :
    Work.FailsWith (internAll? kind reference) (reference.bind (fault? kind)) := by
  cases reference with
  | none => exact Work.FailsWith.pure none
  | some reference => exact (internMember_failsWith kind _ _ _ _).map some

/-! ## Methods -/

/-- The members that a prepared method speaks of are in the registry. -/
structure PreparedMethod.Within (p : PreparedMethod) (r : Registry) : Prop where
  own : p.body.descriptor ∈ r.methods
  forwardsTo : ∀ d ∈ p.forwardsTo, d ∈ r.methods
  accesses : ∀ d ∈ p.accesses, d ∈ r.fields

theorem PreparedMethod.Within.grows {p : PreparedMethod} {r after : Registry} (within : p.Within r)
    (grows : r.GrowsSoundly after) : p.Within after where
  own := grows.mem_members within.own
  forwardsTo := fun d member => grows.mem_members (within.forwardsTo d member)
  accesses := fun d member => grows.mem_members (within.accesses d member)

namespace MethodDraft

/-- What the method of a draft is asked for by. -/
def key (d : MethodDraft) : DescriptorKey :=
  .ofMember .method (Name.slashed d.className) d.name d.signature d.isStatic

/-- What the method of a draft is called. -/
def reference (d : MethodDraft) : MemberReference :=
  ⟨Name.slashed d.className, d.name, d.signature, d.isStatic⟩

/-- What is fixed about the method of a draft once it has a descriptor. -/
def body (d : MethodDraft) (descriptor : MethodDescriptor) : MethodBody where
  descriptor := descriptor
  flags := d.flags
  sourceSignature := d.sourceSignature
  exceptions := d.exceptions
  syntheticParameters := d.syntheticMask
  callCount := d.callCount
  usesConcurrency := d.usesConcurrency
  hasBackBranch := d.hasBackBranch
  isStub := d.isStub

/-- A prepared method is that of the draft, and it brings what the draft brings. -/
structure Prepares (d : MethodDraft) (r : Registry) (p : PreparedMethod) : Prop where
  registered : p.body.descriptor ∈ r.methods
  key : (Descriptor.ofMethod p.body.descriptor).key = d.key
  body : p.body = d.body p.body.descriptor
  annotations : p.annotations = d.annotations
  parameterAnnotations : p.parameterAnnotations = d.parameterAnnotations
  alwaysThrows : p.alwaysThrows = d.alwaysThrows
  isUnsupported : p.isUnsupported = d.isUnsupported
  isIdentity : p.isIdentity = d.isIdentity
  forwardsTo : Refers r .method d.forwardsTo p.forwardsTo
  accesses : Refers r .field d.accesses p.accesses

theorem Prepares.within {d : MethodDraft} {r : Registry} {p : PreparedMethod}
    (prepares : d.Prepares r p) : p.Within r where
  own := prepares.registered
  forwardsTo := prepares.forwardsTo.mem
  accesses := prepares.accesses.mem

theorem Prepares.grows {d : MethodDraft} {r after : Registry} {p : PreparedMethod}
    (prepares : d.Prepares r p) (grows : r.GrowsSoundly after) : d.Prepares after p :=
  { prepares with
    registered := grows.mem_members prepares.registered
    forwardsTo := prepares.forwardsTo.grows grows
    accesses := prepares.accesses.grows grows }

/-- Why a draft cannot be prepared, by the first of its members that is turned down. -/
def fault? (d : MethodDraft) : Option Fault :=
  (memberFault? .method d.className d.name d.signature).or
    ((d.forwardsTo.bind (MemberReference.fault? .method)).or
      (d.accesses.bind (MemberReference.fault? .field)))

section

variable {r : Registry} (wf : r.WellFormed) (d : MethodDraft)

include wf

theorem yields_prepare : Work.Yields GrowsSoundly r d.prepare d.Prepares := by
  unfold prepare
  apply Work.Yields.bind (yields_internMember .method d.className d.name d.signature d.isStatic wf)
  intro descriptor r₁ grows₁ made
  have wf₁ := grows₁.wellFormed wf
  apply Work.Yields.bind (MemberReference.yields_internAll? wf₁ .method d.forwardsTo)
  intro forwardsTo r₂ grows₂ called
  have wf₂ := grows₂.wellFormed wf₁
  apply Work.Yields.bind (MemberReference.yields_internAll? wf₂ .field d.accesses)
  intro accesses r₃ grows₃ accessed
  apply Work.Yields.bind (yields_canonicalAll r₃ d.exceptions)
  intro exceptions r₄ grows₄ listed
  apply Work.Yields.bind (yields_canonicalOption r₄ d.sourceSignature)
  intro sourceSignature r₅ grows₅ given
  subst listed given
  apply Work.Yields.pure
  have fromThird : r₃.GrowsSoundly r₅ := trans_of GrowsSoundly grows₄ grows₅
  have fromSecond : r₂.GrowsSoundly r₅ := trans_of GrowsSoundly grows₃ fromThird
  have fromFirst : r₁.GrowsSoundly r₅ := trans_of GrowsSoundly grows₂ fromSecond
  exact
    { registered := fromFirst.mem_members made.1
      key := made.2
      body := rfl
      annotations := rfl
      parameterAnnotations := rfl
      alwaysThrows := rfl
      isUnsupported := rfl
      isIdentity := rfl
      forwardsTo := called.grows fromSecond
      accesses := accessed.grows fromThird }

end

theorem of_fault? {d : MethodDraft} {fault : Fault} (turned : d.fault? = some fault) :
    ∃ why, fault = .invalidDescriptor why := by
  have referred : ∀ kind (reference : Option MemberReference),
      reference.bind (MemberReference.fault? kind) = some fault →
        ∃ why, fault = .invalidDescriptor why := by
    intro kind reference failed
    obtain ⟨m, -, because⟩ := Option.bind_eq_some_iff.1 failed
    exact of_memberFault? because
  rcases Option.or_eq_some_iff.1 turned with own | ⟨-, later⟩
  · exact of_memberFault? own
  · rcases Option.or_eq_some_iff.1 later with forwards | ⟨-, accesses⟩
    · exact referred .method _ forwards
    · exact referred .field _ accesses

theorem prepare_failsWith (d : MethodDraft) : Work.FailsWith d.prepare d.fault? := by
  unfold prepare fault?
  apply (internMember_failsWith .method _ _ _ _).bind
  intro descriptor
  apply (MemberReference.internAll?_failsWith .method d.forwardsTo).bind
  intro forwardsTo
  apply (MemberReference.internAll?_failsWith .field d.accesses).followed
  intro accesses
  apply (Work.FailsWith.mapM_never canonical_failsWith d.exceptions).preceded
  intro exceptions
  apply (Work.FailsWith.mapM_option_never canonical_failsWith d.sourceSignature).preceded
  intro sourceSignature
  exact Work.FailsWith.pure _

end MethodDraft

/-! ## Classes -/

namespace ParsedClass

def fieldFault? (f : ParsedField) (owner : ClassDescriptor) : Option Fault :=
  memberFault? .field owner.name f.name f.signature

def methodFault? (d : MethodDraft) (owner : ClassDescriptor) : Option Fault :=
  if Name.slashed d.className ≠ owner.name then
    some (.malformed (.foreignMethod d.name d.signature owner.name d.className))
  else d.fault?

/-- Why a class cannot be prepared, in the order in which its parts are looked at. -/
def fault? (c : ClassDescriptor) (parsed : ParsedClass) : Option Fault :=
  if Name.slashed parsed.name ≠ c.name then
    some (.malformed (.otherClass c.name parsed.name))
  else
    (parsed.superclass.bind classFault?).or
      ((parsed.interfaces.findSome? classFault?).or
        ((parsed.fields.findSome? (fieldFault? · c)).or
          (parsed.methods.findSome? (methodFault? · c))))

/-- A class fails by a name that is turned down or by a structure that contradicts itself. -/
theorem of_fault? {c : ClassDescriptor} {parsed : ParsedClass} {fault : Fault}
    (turned : parsed.fault? c = some fault) :
    (∃ why, fault = .invalidDescriptor why) ∨ ∃ why, fault = .malformed why := by
  unfold fault? at turned
  split at turned
  · exact Or.inr ⟨_, (Option.some.inj turned).symm⟩
  · rcases Option.or_eq_some_iff.1 turned with superclass | ⟨-, later⟩
    · obtain ⟨name, -, because⟩ := Option.bind_eq_some_iff.1 superclass
      exact Or.inl (of_classFault? because)
    · rcases Option.or_eq_some_iff.1 later with interfaces | ⟨-, members⟩
      · obtain ⟨name, -, because⟩ := List.exists_of_findSome?_eq_some interfaces
        exact Or.inl (of_classFault? because)
      · rcases Option.or_eq_some_iff.1 members with fields | ⟨-, methods⟩
        · obtain ⟨f, -, because⟩ := List.exists_of_findSome?_eq_some fields
          exact Or.inl (of_memberFault? because)
        · obtain ⟨d, -, because⟩ := List.exists_of_findSome?_eq_some methods
          unfold methodFault? at because
          split at because
          · exact Or.inr ⟨_, (Option.some.inj because).symm⟩
          · exact Or.inl (MethodDraft.of_fault? because)

/-- A class that can be prepared has methods of its own only. -/
theorem own_of_fault? {c : ClassDescriptor} {parsed : ParsedClass}
    (sound : parsed.fault? c = none) : ∀ d ∈ parsed.methods, Name.slashed d.className = c.name := by
  unfold fault? at sound
  split at sound
  · cases sound
  · have methods := (Option.or_eq_none_iff.1 (Option.or_eq_none_iff.1
      (Option.or_eq_none_iff.1 sound).2).2).2
    intro d member
    have fine := List.findSome?_eq_none_iff.1 methods d member
    unfold methodFault? at fine
    split at fine
    · cases fine
    · rename_i same
      exact not_ne_iff.1 same

theorem prepareMethod_failsWith (c : ClassDescriptor) (d : MethodDraft) :
    Work.FailsWith (prepareMethod c d) (methodFault? d c) := by
  unfold prepareMethod methodFault?
  by_cases foreign : Name.slashed d.className ≠ c.name
  · simp only [if_pos foreign]
    exact Work.FailsWith.throw _
  · simp only [if_neg foreign]
    exact d.prepare_failsWith

theorem prepare_failsWith (c : ClassDescriptor) (parsed : ParsedClass) :
    Work.FailsWith (parsed.prepare c) (parsed.fault? c) := by
  unfold prepare fault?
  by_cases other : Name.slashed parsed.name ≠ c.name
  · simp only [if_pos other]
    exact Work.FailsWith.throw _
  · simp only [if_neg other]
    apply (Work.FailsWith.mapM_option internClass_failsWith parsed.superclass).bind
    intro superclass
    apply (Work.FailsWith.mapM internClass_failsWith parsed.interfaces).bind
    intro interfaces
    apply (Work.FailsWith.mapM (fun f => internMember_failsWith .field _ _ _ _) parsed.fields).bind
    intro fields
    apply (Work.FailsWith.mapM (prepareMethod_failsWith c) parsed.methods).followed
    intro methods
    apply (Work.FailsWith.mapM_option_never canonical_failsWith parsed.sourceFile).followed
    intro sourceFile
    exact Work.FailsWith.pure _

/-- A class of the registry is the one that a name stands for. -/
def Names (r : Registry) (name : String) (c : ClassDescriptor) : Prop :=
  c ∈ r.classes ∧ c.name = Name.slashed name

theorem Names.grows {r after : Registry} {name : String} {c : ClassDescriptor}
    (names : Names r name c) (grows : r.GrowsSoundly after) : Names after name c :=
  ⟨grows.mem_classes names.1, names.2⟩

section

variable {r after : Registry} {name : Option String} {c : Option ClassDescriptor}
  (names : Option.Rel (Names r) name c)

include names

theorem names_grows (grows : r.GrowsSoundly after) : Option.Rel (Names after) name c := by
  cases names with
  | some held => exact .some (held.grows grows)
  | none => exact .none

theorem map_name_of_names : c.map ClassDescriptor.name = name.map Name.slashed := by
  cases names with
  | some held => exact congrArg some held.2
  | none => rfl

theorem names_mem : ∀ x ∈ c, x ∈ r.classes := by
  intro x member
  cases names with
  | some held =>
    obtain rfl := Option.some.inj member
    exact held.1
  | none => cases member

end

def fieldReference (c : ClassDescriptor) (f : ParsedField) : MemberReference :=
  ⟨Name.slashed c.name, f.name, f.signature, f.isStatic⟩

/-- A field of the registry is the one that was read of a class. -/
def Lists (c : ClassDescriptor) (r : Registry) (f : ParsedField) (m : FieldDescriptor) : Prop :=
  m ∈ r.fields ∧ m.reference = fieldReference c f

theorem Lists.grows {c : ClassDescriptor} {r after : Registry} {f : ParsedField}
    {m : FieldDescriptor} (lists : Lists c r f m) (grows : r.GrowsSoundly after) :
    Lists c after f m :=
  ⟨grows.mem_members lists.1, lists.2⟩

/-- A class that was prepared is the one asked for with all that was read of it, and what it names is
in the registry. -/
structure Prepares (parsed : ParsedClass) (c : ClassDescriptor) (r : Registry) (p : PreparedClass) :
    Prop where
  descriptor : p.descriptor = c
  superclass : Option.Rel (Names r) parsed.superclass p.superclass
  interfaces : List.Forall₂ (Names r) parsed.interfaces p.interfaces
  flags : p.flags = parsed.flags
  sourceFile : p.sourceFile = parsed.sourceFile
  fields : List.Forall₂ (Lists c r) parsed.fields p.fields
  methods : List.Forall₂ (·.Prepares r ·) parsed.methods p.methods

theorem Prepares.mem_superclass {parsed : ParsedClass} {c : ClassDescriptor} {r : Registry}
    {p : PreparedClass} (prepares : parsed.Prepares c r p) : ∀ x ∈ p.superclass, x ∈ r.classes :=
  names_mem prepares.superclass

theorem Prepares.mem_interfaces {parsed : ParsedClass} {c : ClassDescriptor} {r : Registry}
    {p : PreparedClass} (prepares : parsed.Prepares c r p) : ∀ x ∈ p.interfaces, x ∈ r.classes := by
  intro x member
  obtain ⟨name, -, names⟩ := exists_of_mem_right prepares.interfaces member
  exact names.1

theorem Prepares.mem_fields {parsed : ParsedClass} {c : ClassDescriptor} {r : Registry}
    {p : PreparedClass} (prepares : parsed.Prepares c r p) : ∀ f ∈ p.fields, f ∈ r.fields := by
  intro f member
  obtain ⟨read, -, lists⟩ := exists_of_mem_right prepares.fields member
  exact lists.1

section

variable {r : Registry} (wf : r.WellFormed) (c : ClassDescriptor)

include wf

theorem yields_prepareMethod (d : MethodDraft) :
    Work.Yields GrowsSoundly r (prepareMethod c d) d.Prepares := by
  unfold prepareMethod
  by_cases foreign : Name.slashed d.className ≠ c.name
  · simp only [if_pos foreign]
    exact Work.Yields.throw _
  · simp only [if_neg foreign]
    exact d.yields_prepare wf

theorem yields_internField (f : ParsedField) :
    Work.Yields GrowsSoundly r (internField c f) fun after m => Lists c after f m := by
  apply (yields_internMember .field c.name f.name f.signature f.isStatic wf).mono
  intro after m _ made
  have named : m.reference = MemberReference.slashed ⟨c.name, f.name, f.signature, f.isStatic⟩ :=
    reference_of_key made.2
  exact ⟨made.1, named⟩

theorem yields_prepare (parsed : ParsedClass) :
    Work.Yields GrowsSoundly r (parsed.prepare c) fun after p => parsed.Prepares c after p := by
  unfold prepare
  by_cases other : Name.slashed parsed.name ≠ c.name
  · simp only [if_pos other]
    exact Work.Yields.throw _
  · simp only [if_neg other]
    have named : ∀ (t : Registry) name, Work.Yields GrowsSoundly t (internClass name) fun after x =>
        Names after name x := fun t name => yields_internClass t name
    apply Work.Yields.bind (Work.Yields.mapM_option (fun name after x => Names after name x)
      parsed.superclass fun name _ => named r name)
    intro superclass r₁ grows₁ above
    have wf₁ := grows₁.wellFormed wf
    apply Work.Yields.bind (Work.Yields.mapM_forall₂ (fun name after x => Names after name x)
      (fun grows names => names.grows grows) parsed.interfaces fun name _ t _ => named t name)
    intro interfaces r₂ grows₂ beside
    have wf₂ := grows₂.wellFormed wf₁
    apply Work.Yields.bind (Work.Yields.mapM_forall₂
      (fun f after m => Lists c after f m) (fun grows lists => lists.grows grows)
      parsed.fields fun f _ t grows => yields_internField (grows.wellFormed wf₂) c f)
    intro fields r₃ grows₃ listed
    have wf₃ := grows₃.wellFormed wf₂
    apply Work.Yields.bind (Work.Yields.mapM_forall₂ MethodDraft.Prepares
      (fun grows held => held.grows grows)
      parsed.methods fun d _ t grows => yields_prepareMethod (grows.wellFormed wf₃) c d)
    intro methods r₄ grows₄ members
    apply Work.Yields.bind (yields_canonicalOption r₄ parsed.sourceFile)
    intro sourceFile r₅ grows₅ given
    subst given
    apply Work.Yields.pure
    have fromThird : r₃.GrowsSoundly r₅ := trans_of GrowsSoundly grows₄ grows₅
    have fromSecond : r₂.GrowsSoundly r₅ := trans_of GrowsSoundly grows₃ fromThird
    have fromFirst : r₁.GrowsSoundly r₅ := trans_of GrowsSoundly grows₂ fromSecond
    exact
      { descriptor := rfl
        superclass := names_grows above fromFirst
        interfaces := beside.imp fun name x names => names.grows fromSecond
        flags := rfl
        sourceFile := rfl
        fields := listed.imp fun f m lists => lists.grows fromThird
        methods := members.imp fun d p prepares => prepares.grows grows₅ }

end

end ParsedClass

/-! ## Built-in entries -/

namespace Loading

variable {τ δ : Type}

theorem grows_withLog {r : Registry} {l : Loading τ} (log : List LogRecord)
    (grows : r.GrowsSoundly l.registry) : r.GrowsSoundly ({ l with log } : Loading τ).registry :=
  grows

theorem grows_take {kind entry : String} {intern : Interning δ} {record : δ → τ → τ}
    {l : Loading τ} {post : Registry → δ → Prop}
    (yields : Work.Yields GrowsSoundly l.registry intern post) :
    l.registry.GrowsSoundly (take kind entry intern record l).registry := by
  have further := yields.steps
  unfold take
  rcases ended : intern.run.run l.registry with ⟨fault | d, t⟩ <;> rw [ended] at further <;>
    exact further

theorem grows_foldl {ι : Type} {step : Loading τ → ι → Loading τ}
    (each : ∀ (l : Loading τ) entry, l.registry.WellFormed →
      l.registry.GrowsSoundly (step l entry).registry)
    (entries : List ι) (l : Loading τ) (wf : l.registry.WellFormed) :
    l.registry.GrowsSoundly (entries.foldl step l).registry := by
  induction entries generalizing l with
  | nil => exact refl_of GrowsSoundly l.registry
  | cons entry rest ih =>
    have first := each l entry wf
    exact trans_of GrowsSoundly first (ih (step l entry) (first.wellFormed wf))

end Loading

namespace CheckReturnTable

section

variable {l : Loading CheckReturnTable} (wf : l.registry.WellFormed)

include wf

theorem grows_takeMethod (entry : KnownMethod × CheckReturn) :
    l.registry.GrowsSoundly (takeMethod l entry).registry := by
  unfold takeMethod Loading.takeMethod
  exact Loading.grows_take (yields_internMember .method _ _ _ _ wf)

omit wf in
theorem grows_takeClass (entry : String × CheckReturn) :
    l.registry.GrowsSoundly (takeClass l entry).registry := by
  unfold takeClass Loading.takeClass
  exact Loading.grows_take (yields_internClass l.registry _)

/-- The methods of the built-in entries and after them the classes. -/
theorem grows_takeAll : l.registry.GrowsSoundly
    (CheckReturn.knownClasses.foldl takeClass
      (CheckReturn.knownMethods.foldl takeMethod l)).registry := by
  have methods := Loading.grows_foldl (fun l entry wf => grows_takeMethod wf entry)
    CheckReturn.knownMethods l wf
  have classes := Loading.grows_foldl (fun l entry _ => grows_takeClass entry)
    CheckReturn.knownClasses (CheckReturn.knownMethods.foldl takeMethod l) (methods.wellFormed wf)
  exact trans_of GrowsSoundly methods classes

end

theorem grows_load (t : CheckReturnTable) {r : Registry} (wf : r.WellFormed) :
    r.GrowsSoundly (t.load r).registry := by
  unfold load
  split
  · exact refl_of GrowsSoundly r
  · apply Loading.grows_withLog
    exact grows_takeAll (l := ⟨{ t with isLoaded := true }, r, []⟩) wf

end CheckReturnTable

namespace DeclaredNullness

theorem grows_takeKnown {l : Loading DeclaredNullness} (wf : l.registry.WellFormed)
    (entry : KnownMethod × Slot × Nullness) : l.registry.GrowsSoundly (takeKnown l entry).registry := by
  unfold takeKnown Loading.takeMethod
  exact Loading.grows_take (yields_internMember .method _ _ _ _ wf)

theorem grows_load (t : DeclaredNullness) {r : Registry} (wf : r.WellFormed) :
    r.GrowsSoundly (t.load r).registry := by
  unfold load
  split
  · exact refl_of GrowsSoundly r
  · exact Loading.grows_foldl (fun l entry wf => grows_takeKnown wf entry) known
      ⟨{ t with isLoaded := true }, r, []⟩ wf

end DeclaredNullness

end JvmFacts
