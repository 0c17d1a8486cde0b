import JvmFacts.Proofs.Work
import JvmFacts.Registry

/-!
What interning keeps true of a registry: ids and keys tell descriptors apart, every member belongs to
a class of the registry, nothing is ever taken out, and no member comes in whose name or signature is
not one of its kind.
-/

set_option autoImplicit false

namespace JvmFacts

/-- What a descriptor is asked for by. The id of the owner plays no part in it, only its name. -/
inductive DescriptorKey where
  | ofClass (name : String)
  | ofMember (kind : MemberKind) (owner name signature : String) (isStatic : Bool)
  deriving DecidableEq, Repr

/-- The names and signatures that members of this kind may have. -/
def MemberKind.Accepts : MemberKind → (name signature : String) → Prop
  | .method, name, signature => Name.isMethod name = true ∧ Name.isMethodSignature signature = true
  | .field, name, signature => Name.isField name = true ∧ Name.isFieldType signature = true

instance (kind : MemberKind) (name signature : String) : Decidable (kind.Accepts name signature) :=
  match kind with
  | .method => inferInstanceAs (Decidable (_ ∧ _))
  | .field => inferInstanceAs (Decidable (_ ∧ _))

namespace Descriptor

def key : Descriptor → DescriptorKey
  | ofClass c => .ofClass c.name
  | ofMethod m => .ofMember .method m.owner.name m.name m.signature m.isStatic
  | ofField f => .ofMember .field f.owner.name f.name f.signature f.isStatic

def ofMember : (kind : MemberKind) → MemberDescriptor kind → Descriptor
  | .method, m => .ofMethod m
  | .field, f => .ofField f

theorem ofMember_injective (kind : MemberKind) : Function.Injective (ofMember kind) := by
  intro a b same
  cases kind with
  | method => exact Descriptor.ofMethod.inj same
  | field => exact Descriptor.ofField.inj same

section

variable {kind : MemberKind} (m : MemberDescriptor kind)

@[simp] theorem id_ofMember : (ofMember kind m).id = m.id := by
  cases kind <;> rfl

@[simp] theorem owner_ofMember : (ofMember kind m).owner = m.owner := by
  cases kind <;> rfl

@[simp] theorem key_ofMember : (ofMember kind m).key =
    .ofMember kind m.owner.name m.name m.signature m.isStatic := by
  cases kind <;> rfl

end

end Descriptor

namespace Registry

def Holds (r : Registry) : Descriptor → Prop
  | .ofClass c => c ∈ r.classes
  | .ofMethod m => m ∈ r.members .method
  | .ofField f => f ∈ r.members .field

theorem holds_ofMember {r : Registry} {kind : MemberKind} {m : MemberDescriptor kind} :
    r.Holds (.ofMember kind m) ↔ m ∈ r.members kind := by
  cases kind <;> exact Iff.rfl

structure WellFormed (r : Registry) : Prop where
  owners : ∀ d, r.Holds d → d.owner ∈ r.classes
  below : ∀ d, r.Holds d → d.id < r.nextId
  apart : ∀ d e, r.Holds d → r.Holds e → d.id = e.id → d = e
  canonical : ∀ d e, r.Holds d → r.Holds e → d.key = e.key → d = e
  distinct : r.classes.Nodup

theorem wellFormed_start (token : Nat) : WellFormed { token } := by
  have nothing : ∀ d, ¬ Holds { token } d := by
    intro d
    cases d <;> exact List.not_mem_nil
  constructor
  · exact fun d held => absurd held (nothing d)
  · exact fun d held => absurd held (nothing d)
  · exact fun d _ held => absurd held (nothing d)
  · exact fun d _ held => absurd held (nothing d)
  · exact List.nodup_nil

/-- What holds between a registry and the same registry later. -/
structure Grows (r after : Registry) : Prop where
  wellFormed : r.WellFormed → after.WellFormed
  classes : r.classes <+: after.classes
  members : ∀ kind, r.members kind <+: after.members kind

instance : IsPreorder Registry Grows where
  refl _ := ⟨id, List.prefix_rfl, fun _ => List.prefix_rfl⟩
  trans _ _ _ one two :=
    ⟨fun wf => two.wellFormed (one.wellFormed wf), one.classes.trans two.classes,
      fun kind => (one.members kind).trans (two.members kind)⟩

theorem Grows.mem_classes {r after : Registry} (grows : r.Grows after) {c : ClassDescriptor}
    (held : c ∈ r.classes) : c ∈ after.classes :=
  grows.classes.subset held

theorem Grows.mem_members {r after : Registry} (grows : r.Grows after) {kind : MemberKind}
    {m : MemberDescriptor kind} (held : m ∈ r.members kind) : m ∈ after.members kind :=
  (grows.members kind).subset held

theorem Grows.holds {r after : Registry} (grows : r.Grows after) {d : Descriptor}
    (held : r.Holds d) : after.Holds d := by
  cases d with
  | ofClass c => exact grows.mem_classes held
  | ofMethod m => exact grows.mem_members held
  | ofField f => exact grows.mem_members held

/-- Every member has a name and a signature that its kind may have. -/
def Sound (r : Registry) : Prop :=
  ∀ kind, ∀ m ∈ r.members kind, kind.Accepts m.name m.signature

/-- The registry grew, and nothing unsound came in. -/
structure GrowsSoundly (r after : Registry) : Prop extends Grows r after where
  sound : r.Sound → after.Sound

instance : IsPreorder Registry GrowsSoundly where
  refl r := ⟨refl_of Grows r, id⟩
  trans _ _ _ one two :=
    ⟨trans_of Grows one.toGrows two.toGrows, fun sound => two.sound (one.sound sound)⟩

theorem sound_start (token : Nat) : Sound { token } := by
  intro kind m held
  cases kind <;> exact absurd held List.not_mem_nil

/-- A registry with the same members is as sound. -/
theorem Sound.of_members {r after : Registry} (sound : r.Sound)
    (same : ∀ kind, after.members kind = r.members kind) : after.Sound := by
  intro kind m held
  rw [same] at held
  exact sound kind m held

section

variable {r : Registry} (wf : r.WellFormed)

include wf

theorem WellFormed.class_inj {c d : ClassDescriptor} (one : c ∈ r.classes) (two : d ∈ r.classes)
    (same : c.id = d.id) : c = d :=
  Descriptor.ofClass.inj (wf.apart (.ofClass c) (.ofClass d) one two same)

theorem WellFormed.method_inj {m n : MethodDescriptor} (one : m ∈ r.methods) (two : n ∈ r.methods)
    (same : m.id = n.id) : m = n :=
  Descriptor.ofMethod.inj (wf.apart (.ofMethod m) (.ofMethod n) one two same)

theorem WellFormed.class_eq_of_name {a b : ClassDescriptor} (one : a ∈ r.classes)
    (two : b ∈ r.classes) (same : a.name = b.name) : a = b :=
  Descriptor.ofClass.inj (wf.canonical (.ofClass a) (.ofClass b) one two
    (congrArg DescriptorKey.ofClass same))

theorem WellFormed.member_eq_of_key {kind : MemberKind} {m n : MemberDescriptor kind}
    (one : m ∈ r.members kind) (two : n ∈ r.members kind)
    (same : (Descriptor.ofMember kind m).key = (Descriptor.ofMember kind n).key) : m = n :=
  Descriptor.ofMember_injective kind
    (wf.canonical _ _ (holds_ofMember.2 one) (holds_ofMember.2 two) same)

/-- A descriptor that is new in its key and takes the next id leaves the registry well formed. -/
theorem WellFormed.push {after : Registry} {d : Descriptor} (id : d.id = r.nextId)
    (next : after.nextId = r.nextId + 1) (holds : ∀ e, after.Holds e ↔ r.Holds e ∨ e = d)
    (new : ∀ e, r.Holds e → e.key ≠ d.key) (classes : r.classes ⊆ after.classes)
    (owner : d.owner ∈ after.classes) (distinct : after.classes.Nodup) : after.WellFormed where
  owners := by
    intro e held
    rcases (holds e).1 held with before | rfl
    · exact classes (wf.owners e before)
    · exact owner
  below := by
    intro e held
    rcases (holds e).1 held with before | rfl
    · have low := wf.below e before
      omega
    · omega
  apart := by
    intro e f one two same
    rcases (holds e).1 one with old | rfl
    · rcases (holds f).1 two with also | rfl
      · exact wf.apart e f old also same
      · have low := wf.below e old
        omega
    · rcases (holds f).1 two with old | rfl
      · have low := wf.below f old
        omega
      · rfl
  canonical := by
    intro e f one two same
    rcases (holds e).1 one with old | rfl
    · rcases (holds f).1 two with also | rfl
      · exact wf.canonical e f old also same
      · exact absurd same (new e old)
    · rcases (holds f).1 two with old | rfl
      · exact absurd same.symm (new f old)
      · rfl
  distinct := distinct

end

/-! ## Texts -/

theorem holds_addString (r : Registry) (value : String) (d : Descriptor) :
    (r.addString value).Holds d ↔ r.Holds d := by
  cases d <;> simp only [Holds, classes_addString, members_addString]

theorem WellFormed.addString {r : Registry} (wf : r.WellFormed) (value : String) :
    (r.addString value).WellFormed := by
  constructor
  · simp only [holds_addString, classes_addString]
    exact wf.owners
  · simp only [holds_addString, nextId_addString]
    exact wf.below
  · simp only [holds_addString]
    exact wf.apart
  · simp only [holds_addString]
    exact wf.canonical
  · rw [classes_addString]
    exact wf.distinct

theorem grows_addString (r : Registry) (value : String) : r.GrowsSoundly (r.addString value) where
  wellFormed := fun wf => wf.addString value
  classes := by
    simp only [classes_addString, List.prefix_rfl]
  members := by
    intro kind
    simp only [members_addString, List.prefix_rfl]
  sound := fun sound => sound.of_members (r.members_addString value)

theorem yields_canonical (r : Registry) (value : String) :
    Work.Yields GrowsSoundly r (canonical value) fun _ text => text = value :=
  ⟨r.grows_addString value, fun _ given => (Except.ok.inj given).symm⟩

theorem yields_canonicalAll (r : Registry) (values : List String) :
    Work.Yields GrowsSoundly r (values.mapM canonical) fun _ texts => texts = values := by
  have each : ∀ value ∈ values, ∀ t, r.GrowsSoundly t →
      Work.Yields GrowsSoundly t (canonical value) fun _ text => value = text :=
    fun value _ t _ => (yields_canonical t value).mono fun _ _ _ same => same.symm
  apply (Work.Yields.mapM_forall₂ (fun value _ text => value = text) (fun _ same => same) values
    each).mono
  intro after texts _ same
  exact (List.forall₂_eq_eq_eq ▸ same : values = texts).symm

theorem yields_canonicalOption (r : Registry) (value : Option String) :
    Work.Yields GrowsSoundly r (value.mapM canonical) fun _ text => text = value := by
  have each : ∀ text ∈ value, Work.Yields GrowsSoundly r (canonical text) fun _ kept => text = kept :=
    fun text _ => (yields_canonical r text).mono fun _ _ _ same => same.symm
  apply (Work.Yields.mapM_option (fun text _ kept => text = kept) value each).mono
  intro after text _ same
  cases same with
  | some equal => rw [equal]
  | none => rfl

theorem canonical_failsWith (value : String) : Work.FailsWith (canonical value) none := by
  intro r
  rfl

/-! ## Classes -/

theorem holds_pushClass (r : Registry) (c : ClassDescriptor) (d : Descriptor) :
    (r.pushClass c).Holds d ↔ r.Holds d ∨ d = .ofClass c := by
  cases d with
  | ofClass other =>
    simp only [Holds, pushClass, List.mem_append, List.mem_singleton, Descriptor.ofClass.injEq]
  | ofMethod m => simp only [Holds, pushClass, members, reduceCtorEq, or_false]
  | ofField f => simp only [Holds, pushClass, members, reduceCtorEq, or_false]

theorem WellFormed.pushClass {r : Registry} (wf : r.WellFormed) {name : String}
    (absent : r.findClass? name = none) : (r.pushClass (r.newClass name)).WellFormed := by
  have fresh : r.newClass name ∉ r.classes := by
    intro held
    have low : r.nextId < r.nextId := wf.below (.ofClass (r.newClass name)) held
    omega
  apply wf.push (d := .ofClass (r.newClass name)) rfl rfl (holds_pushClass r _)
  · intro e held same
    cases e with
    | ofClass c =>
      have unnamed := List.find?_eq_none.1 absent c held
      have named : c.name = name := DescriptorKey.ofClass.inj same
      exact unnamed (beq_iff_eq.2 named)
    | ofMethod m => cases same
    | ofField f => cases same
  · exact List.subset_append_left ..
  · exact List.mem_append_right _ (List.mem_singleton_self _)
  · refine List.nodup_append.2 ⟨wf.distinct, List.pairwise_singleton .., ?_⟩
    intro c held d new same
    rw [List.mem_singleton.1 new] at same
    exact fresh (same ▸ held)

theorem members_pushClass (r : Registry) (c : ClassDescriptor) (kind : MemberKind) :
    (r.pushClass c).members kind = r.members kind := by
  cases kind <;> rfl

theorem findClass?_addString (r : Registry) (value name : String) :
    (r.addString value).findClass? name = r.findClass? name := by
  unfold findClass?
  rw [classes_addString]

theorem findClass?_of_mem {r : Registry} (wf : r.WellFormed) {c : ClassDescriptor}
    (held : c ∈ r.classes) : r.findClass? c.name = some c := by
  unfold findClass?
  cases found : r.classes.find? (·.name == c.name) with
  | none => exact absurd (beq_self_eq_true c.name) (List.find?_eq_none.1 found c held)
  | some d =>
    have named := List.find?_some found
    have same := wf.class_eq_of_name (List.mem_of_find?_eq_some found) held (eq_of_beq named)
    exact congrArg some same

theorem newClass_addString (r : Registry) (value name : String) :
    (r.addString value).newClass name = r.newClass name := by
  unfold newClass
  rw [token_addString, nextId_addString]

theorem addClass_of_absent {r : Registry} {name : String} (absent : r.findClass? name = none) :
    r.addClass name = (r.newClass name, (r.addString name).pushClass (r.newClass name)) := by
  simp only [addClass, absent]

theorem grows_addClass (r : Registry) (name : String) : r.GrowsSoundly (r.addClass name).2 := by
  cases found : r.findClass? name with
  | some c =>
    rw [addClass_of_find found]
    exact refl_of GrowsSoundly r
  | none =>
    rw [addClass_of_absent found]
    have same : ∀ kind,
        ((r.addString name).pushClass (r.newClass name)).members kind = r.members kind := by
      intro kind
      rw [members_pushClass, members_addString]
    constructor
    · constructor
      · intro wf
        have absent := (findClass?_addString r name name).trans found
        rw [← newClass_addString r name]
        exact (wf.addString name).pushClass absent
      · change r.classes <+: (r.addString name).classes ++ [r.newClass name]
        rw [classes_addString]
        exact List.prefix_append ..
      · intro kind
        simp only [same, List.prefix_rfl]
    · exact fun sound => sound.of_members same

theorem mem_addClass (r : Registry) (name : String) :
    (r.addClass name).1 ∈ (r.addClass name).2.classes ∧ (r.addClass name).1.name = name := by
  cases found : r.findClass? name with
  | some c =>
    rw [addClass_of_find found]
    unfold findClass? at found
    have named := List.find?_some found
    exact ⟨List.mem_of_find?_eq_some found, eq_of_beq named⟩
  | none =>
    rw [addClass_of_absent found]
    exact ⟨List.mem_append_right _ (List.mem_singleton_self _), rfl⟩

/-- Why a name is turned down as the name of a class. -/
def classFault? (name : String) : Option Fault :=
  match checkClass name with
  | .error why => some (.invalidDescriptor why)
  | .ok () => none

theorem of_classFault? {name : String} {fault : Fault} (turned : classFault? name = some fault) :
    ∃ why, fault = .invalidDescriptor why := by
  unfold classFault? at turned
  split at turned
  · exact ⟨_, (Option.some.inj turned).symm⟩
  · cases turned

theorem internClass_failsWith (name : String) :
    Work.FailsWith (internClass name) (classFault? name) := by
  intro r
  unfold classFault?
  cases checked : checkClass name with
  | error why =>
    rw [internClass_run_of_error checked]
    rfl
  | ok accepted =>
    rw [internClass_run_of_ok checked]
    rfl

theorem yields_internClass (r : Registry) (name : String) :
    Work.Yields GrowsSoundly r (internClass name) fun after c =>
      c ∈ after.classes ∧ c.name = Name.slashed name := by
  cases checked : checkClass name with
  | error why =>
    have run := internClass_run_of_error (r := r) checked
    constructor
    · rw [run]
      exact refl_of GrowsSoundly r
    · intro c given
      rw [run] at given
      cases given
  | ok accepted =>
    have run := internClass_run_of_ok (r := r) checked
    constructor
    · rw [run]
      exact grows_addClass r _
    · intro c given
      rw [run] at given ⊢
      obtain rfl := Except.ok.inj given
      exact mem_addClass r _

/-! ## Members -/

/-- The member as it is made when no such member is there. -/
def newMember (kind : MemberKind) (r : Registry) (c : ClassDescriptor) (name signature : String)
    (isStatic : Bool) : MemberDescriptor kind :=
  ⟨r.nextId, c, name, signature, isStatic⟩

theorem holds_pushMember (r : Registry) {kind : MemberKind} (m : MemberDescriptor kind)
    (d : Descriptor) : (r.pushMember m).Holds d ↔ r.Holds d ∨ d = .ofMember kind m := by
  cases kind with
  | method =>
    cases d <;> simp [Holds, pushMember, members, Descriptor.ofMember]
  | field =>
    cases d <;> simp [Holds, pushMember, members, Descriptor.ofMember]

theorem classes_pushMember (r : Registry) {kind : MemberKind} (m : MemberDescriptor kind) :
    (r.pushMember m).classes = r.classes := by
  cases kind <;> rfl

theorem nextId_pushMember (r : Registry) {kind : MemberKind} (m : MemberDescriptor kind) :
    (r.pushMember m).nextId = r.nextId + 1 := by
  cases kind <;> rfl

theorem members_pushMember (r : Registry) {kind : MemberKind} (m : MemberDescriptor kind)
    (other : MemberKind) : r.members other <+: (r.pushMember m).members other := by
  cases kind <;> cases other
  · exact List.prefix_append ..
  · exact List.prefix_rfl
  · exact List.prefix_rfl
  · exact List.prefix_append ..

theorem Sound.pushMember {r : Registry} (sound : r.Sound) {kind : MemberKind}
    {m : MemberDescriptor kind} (accepts : kind.Accepts m.name m.signature) :
    (r.pushMember m).Sound := by
  intro other n held
  rcases (holds_pushMember r m _).1 (holds_ofMember.2 held) with before | same
  · exact sound other n (holds_ofMember.1 before)
  · have keys := congrArg Descriptor.key same
    rw [Descriptor.key_ofMember, Descriptor.key_ofMember] at keys
    obtain ⟨rfl, -, named, typed, -⟩ := DescriptorKey.ofMember.inj keys
    rw [named, typed]
    exact accepts

section

variable {r : Registry} {kind : MemberKind} {c : ClassDescriptor} {name signature : String}
  {isStatic : Bool}

theorem of_findMember? (wf : r.WellFormed) (owned : c ∈ r.classes) {m : MemberDescriptor kind}
    (found : r.findMember? c name signature isStatic = some m) :
    m ∈ r.members kind ∧ m.owner = c ∧ m.name = name ∧ m.signature = signature ∧
      m.isStatic = isStatic := by
  unfold findMember? at found
  have held := List.mem_of_find?_eq_some found
  have fits := List.find?_some found
  simp only [Bool.and_eq_true, beq_iff_eq] at fits
  obtain ⟨⟨⟨owner, named⟩, typed⟩, static⟩ := fits
  have owners := wf.owners (.ofMember kind m) (holds_ofMember.2 held)
  rw [Descriptor.owner_ofMember] at owners
  exact ⟨held, wf.class_inj owners owned owner, named, typed, static⟩

theorem WellFormed.pushMember (wf : r.WellFormed) (owned : c ∈ r.classes)
    (absent : @findMember? r kind c name signature isStatic = none) :
    (r.pushMember (newMember kind r c name signature isStatic)).WellFormed := by
  apply wf.push (Descriptor.id_ofMember _) (nextId_pushMember r _) (holds_pushMember r _)
  · intro e held same
    rw [Descriptor.key_ofMember] at same
    have other : ∀ m : MemberDescriptor kind, e = .ofMember kind m → False := by
      rintro m rfl
      rw [Descriptor.key_ofMember] at same
      have member := holds_ofMember.1 held
      have differs := List.find?_eq_none.1 absent m member
      have owner := wf.owners _ held
      rw [Descriptor.owner_ofMember] at owner
      obtain ⟨-, sameOwner, named, typed, static⟩ := DescriptorKey.ofMember.inj same
      have equal : m.owner = c := wf.class_eq_of_name owner owned sameOwner
      apply differs
      simp only [Bool.and_eq_true, beq_iff_eq]
      exact ⟨⟨⟨congrArg ClassDescriptor.id equal, named⟩, typed⟩, static⟩
    cases e with
    | ofClass d => cases same
    | ofMethod m =>
      obtain rfl := (DescriptorKey.ofMember.inj same).1
      exact other m rfl
    | ofField f =>
      obtain rfl := (DescriptorKey.ofMember.inj same).1
      exact other f rfl
  · rw [classes_pushMember]
    exact List.Subset.refl _
  · rw [classes_pushMember, Descriptor.owner_ofMember]
    exact owned
  · rw [classes_pushMember]
    exact wf.distinct

variable (r kind c name signature isStatic)

/-- The registry that a member is looked up in, with the two texts of the member taken in. -/
def withTexts : Registry :=
  (r.addString name).addString signature

theorem grows_withTexts : r.GrowsSoundly (r.withTexts name signature) :=
  trans_of GrowsSoundly (r.grows_addString name) ((r.addString name).grows_addString signature)

theorem addMember_eq : addMember kind r c name signature isStatic =
    match (r.withTexts name signature).findMember? c name signature isStatic with
    | some m => (m, r.withTexts name signature)
    | none =>
      let m := newMember kind (r.withTexts name signature) c name signature isStatic
      (m, (r.withTexts name signature).pushMember m) :=
  rfl

variable {r c}

theorem addMember_spec (accepts : kind.Accepts name signature) (wf : r.WellFormed)
    (owned : c ∈ r.classes) :
    r.GrowsSoundly (addMember kind r c name signature isStatic).2 ∧
      (addMember kind r c name signature isStatic).1 ∈
        (addMember kind r c name signature isStatic).2.members kind ∧
      (Descriptor.ofMember kind (addMember kind r c name signature isStatic).1).key =
        .ofMember kind c.name name signature isStatic := by
  have grows := r.grows_withTexts name signature
  have texts := grows.wellFormed wf
  have member := grows.mem_classes owned
  rw [addMember_eq, Descriptor.key_ofMember]
  cases found : @findMember? (r.withTexts name signature) kind c name signature isStatic with
  | some m =>
    obtain ⟨held, owner, named, typed, static⟩ := of_findMember? texts member found
    refine ⟨grows, held, ?_⟩
    simp only [owner, named, typed, static]
  | none =>
    refine ⟨trans_of GrowsSoundly grows ⟨⟨fun wf => wf.pushMember member found, ?_, ?_⟩,
      fun sound => sound.pushMember accepts⟩, ?_, rfl⟩
    · simp only [classes_pushMember, List.prefix_rfl]
    · exact members_pushMember _ _
    · apply holds_ofMember.1
      exact (holds_pushMember _ _ _).2 (Or.inr rfl)

end

theorem checkMember_eq_ok_iff {kind : MemberKind} {name signature : String} :
    checkMember kind name signature = .ok () ↔ kind.Accepts name signature := by
  cases kind with
  | method =>
    cases named : Name.isMethod name <;> cases typed : Name.isMethodSignature signature <;>
      simp [checkMember, MemberKind.Accepts, named, typed]
  | field =>
    cases named : Name.isField name <;> cases typed : Name.isFieldType signature <;>
      simp [checkMember, MemberKind.Accepts, named, typed]

/-- Why a member is turned down. What is wrong with the member itself counts first. -/
def memberFault? (kind : MemberKind) (owner name signature : String) : Option Fault :=
  match checkMember kind name signature with
  | .error why => some (.invalidDescriptor why)
  | .ok () => classFault? owner

theorem of_memberFault? {kind : MemberKind} {owner name signature : String} {fault : Fault}
    (turned : memberFault? kind owner name signature = some fault) :
    ∃ why, fault = .invalidDescriptor why := by
  unfold memberFault? at turned
  split at turned
  · exact ⟨_, (Option.some.inj turned).symm⟩
  · exact of_classFault? turned

section

variable (kind : MemberKind) (owner name signature : String) (isStatic : Bool)

theorem internMember_failsWith :
    Work.FailsWith (internMember kind owner name signature isStatic)
      (memberFault? kind owner name signature) := by
  unfold internMember memberFault?
  cases checkMember kind name signature with
  | error why => exact Work.FailsWith.throw _
  | ok accepted =>
    apply (internClass_failsWith owner).followed
    intro c
    exact Work.FailsWith.modifyGet (addMember kind · c name signature isStatic)

theorem yields_internMember {r : Registry} (wf : r.WellFormed) :
    Work.Yields GrowsSoundly r (internMember kind owner name signature isStatic) fun after m =>
      m ∈ after.members kind ∧ (Descriptor.ofMember kind m).key =
        .ofMember kind (Name.slashed owner) name signature isStatic := by
  unfold internMember
  cases checked : checkMember kind name signature with
  | error why => exact Work.Yields.throw _
  | ok accepted =>
    have accepts := checkMember_eq_ok_iff.1 checked
    apply Work.Yields.bind (yields_internClass r owner)
    intro c t grows class_
    obtain ⟨owned, named⟩ := class_
    obtain ⟨more, held, key⟩ :=
      addMember_spec kind name signature isStatic accepts (grows.wellFormed wf) owned
    apply Work.Yields.modifyGet more
    rw [key, named]
    exact ⟨held, rfl⟩

end

end Registry

end JvmFacts
