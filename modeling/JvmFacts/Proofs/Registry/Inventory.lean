import Mathlib.Data.List.Nodup
import JvmFacts.Proofs.Registry.Verdicts

/-!
What a registry holds when its operations are run one after the other: ids from one on without a gap,
classes in the order of their ids, members behind their classes, and no name or signature that its
validator turns down. Two requests at once may list their classes in the order in which they get to it,
which need not be that of the ids; this is not described here.
-/

set_option autoImplicit false

namespace JvmFacts

namespace DescriptorKey

/-- A class by a valid name that is slashed, or a member by a name and a signature of its kind. -/
def Valid : DescriptorKey → Prop
  | ofClass name =>
    Name.isClass name = true ∧ (Name.isArray name = false → '.' ∉ name.toList)
  | ofMember kind _ name signature _ => kind.Accepts name signature

theorem valid_slashed {name : String} (valid : Name.isClass name = true) :
    (ofClass (Name.slashed name)).Valid := by
  refine ⟨(Name.isClass_iff_slashed.1 valid).1, ?_⟩
  intro named
  rw [Name.isArray_slashed] at named
  exact Name.dot_not_mem_slashed named

theorem valid_member {kind : MemberKind} {owner name signature : String} {isStatic : Bool}
    (valid : kind.Accepts name signature ∧ Name.isClass owner = true) :
    ∀ key ∈ (ofMember kind (Name.slashed owner) name signature isStatic).parts, key.Valid :=
  List.forall_mem_cons.2 ⟨valid_slashed valid.2, List.forall_mem_singleton.2 valid.1⟩

end DescriptorKey

namespace Registry

/-! ## Runs -/

/-- What can be asked of a registry that it may change by. -/
inductive Operation where
  | request (q : Request)
  | text (value : String)

namespace Operation

def effect : Operation → Registry → Registry
  | request q, r => (q.work.run.run r).2
  | text value, r => ((canonical value).run.run r).2

def answer? : Operation → Registry → Option Descriptor
  | request q, r => (q.work.run.run r).1.toOption
  | text _, _ => none

end Operation

def operateAll (operations : List Operation) (r : Registry) : Registry :=
  operations.foldl (fun r operation => operation.effect r) r

/-- The descriptors that were handed out on the way. -/
def answers : List Operation → Registry → List Descriptor
  | [], _ => []
  | operation :: rest, r => (operation.answer? r).toList ++ answers rest (operation.effect r)

section

variable {r : Registry}

theorem Operation.grows (wf : r.WellFormed) (operation : Operation) :
    r.GrowsSoundly (operation.effect r) ∧ ∀ d ∈ operation.answer? r, (operation.effect r).Holds d := by
  cases operation with
  | text value =>
    refine ⟨r.grows_addString value, ?_⟩
    intro d given
    cases given
  | request q =>
    have yields := Request.yields_work wf q
    refine ⟨yields.steps, ?_⟩
    intro d given
    have granted : (q.work.run.run r).1.toOption = some d := given
    cases outcome : (q.work.run.run r).1 with
    | error fault =>
      rw [outcome] at granted
      cases granted
    | ok e =>
      rw [outcome] at granted
      obtain rfl := Option.some.inj granted
      exact (yields.post e outcome).1

theorem grows_operateAll (wf : r.WellFormed) (operations : List Operation) :
    r.GrowsSoundly (operateAll operations r) ∧
      ∀ d ∈ answers operations r, (operateAll operations r).Holds d := by
  induction operations generalizing r with
  | nil => exact ⟨refl_of GrowsSoundly r, fun d member => absurd member List.not_mem_nil⟩
  | cons operation rest ih =>
    obtain ⟨grows, handed⟩ := Operation.grows wf operation
    obtain ⟨more, later⟩ := ih (grows.wellFormed wf)
    refine ⟨trans_of GrowsSoundly grows more, ?_⟩
    intro d member
    rcases List.mem_append.1 member with now | then_
    · exact more.holds (handed d (Option.mem_toList.1 now))
    · exact later d then_

theorem wellFormed_operateAll (token : Nat) (operations : List Operation) :
    (operateAll operations { token }).WellFormed :=
  (grows_operateAll (wellFormed_start token) operations).1.wellFormed (wellFormed_start token)

end

/-! ## All descriptors -/

def descriptors (r : Registry) : List Descriptor :=
  r.classes.map .ofClass ++ (r.methods.map .ofMethod ++ r.fields.map .ofField)

/-- How many classes, methods and fields there are. -/
def size (r : Registry) : Nat :=
  r.classes.length + r.methods.length + r.fields.length

theorem length_descriptors (r : Registry) : r.descriptors.length = r.size := by
  simp only [descriptors, size, List.length_append, List.length_map, Nat.add_assoc]

theorem mem_descriptors {r : Registry} {d : Descriptor} : d ∈ r.descriptors ↔ r.Holds d := by
  cases d <;> simp [descriptors, Holds, members]

/-- Sorted out by kinds, the descriptors are the same ones. -/
theorem perm_of_kinds (ds : List Descriptor) :
    ((ds.filterMap Descriptor.asClass?).map Descriptor.ofClass ++
      ((ds.filterMap Descriptor.asMethod?).map Descriptor.ofMethod ++
        (ds.filterMap Descriptor.asField?).map Descriptor.ofField)).Perm ds := by
  induction ds with
  | nil => exact List.Perm.nil
  | cons d rest ih =>
    cases d with
    | ofClass c => exact ih.cons _
    | ofMethod m => exact List.perm_middle.trans (ih.cons _)
    | ofField f =>
      apply (List.Perm.append_left _ List.perm_middle).trans
      exact List.perm_middle.trans (ih.cons _)

theorem descriptors_plus (r : Registry) (texts : List String) (new : List Descriptor) :
    (r.plus texts new).descriptors.Perm (r.descriptors ++ new) := by
  rw [List.perm_iff_count]
  intro d
  have kinds := (perm_of_kinds new).count_eq d
  simp only [descriptors, plus, List.map_append, List.count_append] at kinds ⊢
  omega

/-! ## The inventory -/

structure Inventory (r : Registry) : Prop where
  ids : (r.descriptors.map Descriptor.id).Perm (List.range' 1 r.size)
  next : r.nextId = r.size + 1
  ascending : r.classes.Pairwise fun a b => a.id < b.id
  owners : ∀ d, r.Holds d → d.owner ∈ r.classes
  older : ∀ d, r.Holds d → .ofClass d.owner = d ∨ d.owner.id < d.id
  valid : ∀ d, r.Holds d → d.key.Valid

theorem inventory_start (token : Nat) : Inventory { token } := by
  have nothing : ∀ d, ¬ Holds { token } d := by
    intro d
    cases d <;> exact List.not_mem_nil
  exact ⟨List.Perm.nil, rfl, List.Pairwise.nil, fun d held => absurd held (nothing d),
    fun d held => absurd held (nothing d), fun d held => absurd held (nothing d)⟩

section

variable {r s : Registry} {texts fresh : List String} {keys : List DescriptorKey}
  {new : List Descriptor}

theorem Inventory.id_lt (inventory : Inventory r) {d : Descriptor} (held : r.Holds d) :
    d.id < r.nextId := by
  have id := List.mem_map_of_mem (f := Descriptor.id) (mem_descriptors.2 held)
  rw [inventory.ids.mem_iff, List.mem_range'_1] at id
  rw [inventory.next]
  omega

theorem Gain.size_eq (gain : Gain texts keys r s fresh new) : s.size = r.size + new.length := by
  rw [gain.after, ← length_descriptors, (r.descriptors_plus fresh new).length_eq, List.length_append,
    length_descriptors]

theorem Gain.ascending (gain : Gain texts keys r s fresh new) :
    new.Pairwise fun d e => d.id < e.id := by
  have ids : (new.map Descriptor.id).Pairwise (· < ·) := by
    rw [gain.ids]
    exact List.pairwise_lt_range'
  exact List.pairwise_map.1 ids

/-- The class of a new descriptor is the descriptor itself or has a smaller id. -/
theorem Gain.older (gain : Gain texts keys r s fresh new) (below : ∀ c ∈ r.classes, c.id < r.nextId)
    {d : Descriptor} (member : d ∈ new) : .ofClass d.owner = d ∨ d.owner.id < d.id := by
  rcases gain.owners d member with before | ⟨owner, older⟩
  · have low := below d.owner before
    have high := (gain.id_bounds member).1
    exact Or.inr (Nat.lt_of_lt_of_le low high)
  · rcases Nat.lt_or_eq_of_le older with smaller | same
    · exact Or.inr smaller
    · have apart : (new.map Descriptor.id).Nodup := by
        rw [gain.ids]
        exact List.nodup_range'
      exact Or.inl (List.inj_on_of_nodup_map apart owner member same)

theorem Inventory.gain (inventory : Inventory r) (gain : Gain texts keys r s fresh new)
    (valid : ∀ key ∈ keys, key.Valid) : Inventory s := by
  have below : ∀ c ∈ r.classes, c.id < r.nextId := fun c held => inventory.id_lt (d := .ofClass c) held
  have same := gain.after
  have size := gain.size_eq
  constructor
  · -- the new ids begin where the old ones end
    rw [size, same, ← List.range'_append_1, Nat.add_comm 1, ← inventory.next, ← gain.ids]
    apply ((r.descriptors_plus fresh new).map Descriptor.id).trans
    rw [List.map_append]
    exact inventory.ids.append_right _
  · have next : s.nextId = r.nextId + new.length := by
      rw [same]
      rfl
    rw [next, size, inventory.next]
    omega
  · have classes : s.classes = r.classes ++ new.filterMap Descriptor.asClass? := by
      rw [same]
      rfl
    rw [classes, List.pairwise_append]
    refine ⟨inventory.ascending, ?_, ?_⟩
    · apply List.Pairwise.filterMap _ _ gain.ascending
      intro d e earlier c isC f isF
      obtain rfl := Descriptor.asClass?_eq_some.1 isC
      obtain rfl := Descriptor.asClass?_eq_some.1 isF
      exact earlier
    · intro c old d newer
      rw [List.mem_filterMap] at newer
      obtain ⟨e, member, isD⟩ := newer
      obtain rfl := Descriptor.asClass?_eq_some.1 isD
      exact Nat.lt_of_lt_of_le (below c old) (gain.id_bounds member).1
  · intro d held
    rw [same, holds_plus] at held
    rw [same, mem_classes_plus]
    rcases held with before | member
    · exact Or.inl (inventory.owners d before)
    · exact (gain.owners d member).imp_right And.left
  · intro d held
    rw [same, holds_plus] at held
    rcases held with before | member
    · exact inventory.older d before
    · exact gain.older below member
  · intro d held
    rw [same, holds_plus] at held
    rcases held with before | member
    · exact inventory.valid d before
    · exact valid d.key (gain.keys.subset (List.mem_map_of_mem member))

/-- What is granted is valid in the form that it is kept in. -/
theorem Request.valid_parts {q : Request} (valid : q.Valid) : ∀ key ∈ q.key.parts, key.Valid := by
  cases q with
  | ofClass name => exact List.forall_mem_singleton.2 (DescriptorKey.valid_slashed valid)
  | ofSignature signature => exact List.forall_mem_singleton.2 (DescriptorKey.valid_slashed valid)
  | ofMember kind owner name signature isStatic => exact DescriptorKey.valid_member valid
  | ofKind kind owner name signature isStatic =>
    cases kind with
    | ofClass => exact List.forall_mem_singleton.2 (DescriptorKey.valid_slashed valid)
    | ofMember kind => exact DescriptorKey.valid_member valid

theorem Inventory.effect (inventory : Inventory r) (operation : Operation) :
    Inventory (operation.effect r) := by
  cases operation with
  | text value =>
    obtain ⟨fresh, new, gain⟩ := r.gains_addString value
    exact inventory.gain gain fun key member => absurd member List.not_mem_nil
  | request q =>
    have verdict := q.verdict_work r
    change Inventory (q.work.run.run r).2
    cases outcome : (q.work.run.run r).1 with
    | error fault =>
      rw [verdict.refused fault outcome]
      exact inventory
    | ok d =>
      obtain ⟨fresh, new, gain⟩ := verdict.gains
      exact inventory.gain gain (Request.valid_parts (verdict.granted.1 ⟨d, outcome⟩))

theorem Inventory.operateAll (inventory : Inventory r) (operations : List Operation) :
    Inventory (operateAll operations r) := by
  induction operations generalizing r with
  | nil => exact inventory
  | cons operation rest ih => exact ih (inventory.effect operation)

theorem Inventory.member (inventory : Inventory r) {kind : MemberKind} {m : MemberDescriptor kind}
    (held : m ∈ r.members kind) :
    m.owner ∈ r.classes ∧ m.owner.id < m.id ∧ kind.Accepts m.name m.signature := by
  have holds := holds_ofMember.2 held
  have owner := inventory.owners _ holds
  have older := inventory.older _ holds
  have valid := inventory.valid _ holds
  rw [Descriptor.owner_ofMember] at owner older
  rw [Descriptor.id_ofMember] at older
  rw [Descriptor.key_ofMember] at valid
  refine ⟨owner, older.resolve_left ?_, valid⟩
  cases kind <;> exact Descriptor.noConfusion

end

/-- One operation after the other hands out ids without a gap. Every descriptor that was handed out is
there with its class, the classes stand in the order of their ids and are only ever added to, a member
comes after its class, and all names and signatures are valid. -/
theorem operateAll_inventory (token : Nat) (operations more : List Operation) :
    ∃ r, operateAll operations { token } = r ∧
      (r.descriptors.map Descriptor.id).Perm
        (List.range' 1 (r.classes.length + r.methods.length + r.fields.length)) ∧
      (∀ d ∈ answers operations { token }, r.Holds d ∧ r.classes.count d.owner = 1) ∧
      (r.classes.Pairwise fun a b => a.id < b.id) ∧
      r.classes <+: (operateAll (operations ++ more) { token }).classes ∧
      (∀ kind, ∀ m ∈ r.members kind,
        m.owner ∈ r.classes ∧ m.owner.id < m.id ∧ kind.Accepts m.name m.signature) ∧
      ∀ c ∈ r.classes, Name.isClass c.name = true ∧ (c.isArray = false → '.' ∉ c.name.toList) := by
  have inventory := (inventory_start token).operateAll operations
  have wf := wellFormed_operateAll token operations
  have later : operateAll (operations ++ more) { token } =
      operateAll more (operateAll operations { token }) := List.foldl_append
  refine ⟨_, rfl, inventory.ids, ?_, inventory.ascending, ?_, ?_, ?_⟩
  · intro d member
    have held := (grows_operateAll (wellFormed_start token) operations).2 d member
    exact ⟨held, List.count_eq_one_of_mem wf.distinct (inventory.owners d held)⟩
  · rw [later]
    exact (grows_operateAll wf more).1.classes
  · exact fun kind m held => inventory.member held
  · exact fun c held => inventory.valid (.ofClass c) held

example : (operateAll [.request (.ofMember .field "a.B" "x" "I" true), .text "y",
    .request (.ofClass "a.B/"), .request (.ofClass "[I")] { token := 0 }).descriptors.map
      Descriptor.id = [1, 3, 2] := by
  decide +kernel

end Registry

end JvmFacts
