import JvmFacts.Proofs.Registry.Requests

/-!
Which requests are granted, and what a registry gains by them. A request is granted exactly if all its
parts are valid. One that is turned down leaves nothing behind, not even the class of the member that it
asks for. One that is granted adds its class and its member so far as they are not there.
-/

set_option autoImplicit false

namespace JvmFacts

namespace DescriptorKey

/-- What has to be in the registry for this key, its class first. -/
def parts : DescriptorKey → List DescriptorKey
  | ofClass name => [ofClass name]
  | ofMember kind owner name signature isStatic =>
    [ofClass owner, ofMember kind owner name signature isStatic]

def texts : DescriptorKey → List String
  | ofClass name => [name]
  | ofMember _ owner name signature _ => [owner, name, signature]

end DescriptorKey

namespace Descriptor

def asClass? : Descriptor → Option ClassDescriptor
  | ofClass c => some c
  | _ => none

section

variable {d : Descriptor}

theorem asClass?_eq_some {c : ClassDescriptor} : d.asClass? = some c ↔ d = ofClass c := by
  cases d <;> simp [asClass?]

theorem asMethod?_eq_some {m : MethodDescriptor} : d.asMethod? = some m ↔ d = ofMethod m := by
  cases d <;> simp [asMethod?]

theorem asField?_eq_some {f : FieldDescriptor} : d.asField? = some f ↔ d = ofField f := by
  cases d <;> simp [asField?]

end

end Descriptor

namespace Registry

/-! ## A registry that gained something -/

/-- The registry with these texts and descriptors behind those that it has. -/
def plus (r : Registry) (texts : List String) (new : List Descriptor) : Registry :=
  { r with
    strings := r.strings ++ texts
    classes := r.classes ++ new.filterMap Descriptor.asClass?
    methods := r.methods ++ new.filterMap Descriptor.asMethod?
    fields := r.fields ++ new.filterMap Descriptor.asField?
    nextId := r.nextId + new.length }

section

variable (r : Registry)

theorem plus_nil : r.plus [] [] = r := by
  simp only [plus, List.filterMap_nil, List.append_nil, List.length_nil, Nat.add_zero]

theorem plus_plus (texts more : List String) (new further : List Descriptor) :
    (r.plus texts new).plus more further = r.plus (texts ++ more) (new ++ further) := by
  simp only [plus, List.filterMap_append, List.append_assoc, List.length_append, Nat.add_assoc]

theorem mem_classes_plus {texts : List String} {new : List Descriptor} {c : ClassDescriptor} :
    c ∈ (r.plus texts new).classes ↔ c ∈ r.classes ∨ .ofClass c ∈ new := by
  simp only [plus, List.mem_append, List.mem_filterMap, Descriptor.asClass?_eq_some,
    exists_eq_right]

theorem holds_plus {texts : List String} {new : List Descriptor} {d : Descriptor} :
    (r.plus texts new).Holds d ↔ r.Holds d ∨ d ∈ new := by
  cases d with
  | ofClass c => exact r.mem_classes_plus
  | ofMethod m =>
    simp only [Holds, members, plus, List.mem_append, List.mem_filterMap,
      Descriptor.asMethod?_eq_some, exists_eq_right]
  | ofField f =>
    simp only [Holds, members, plus, List.mem_append, List.mem_filterMap,
      Descriptor.asField?_eq_some, exists_eq_right]

theorem pushClass_eq_plus (c : ClassDescriptor) : r.pushClass c = r.plus [] [.ofClass c] := by
  simp [pushClass, plus, Descriptor.asClass?, Descriptor.asMethod?, Descriptor.asField?]

theorem pushMember_eq_plus {kind : MemberKind} (m : MemberDescriptor kind) :
    r.pushMember m = r.plus [] [.ofMember kind m] := by
  cases kind <;> simp [pushMember, plus, Descriptor.ofMember, Descriptor.asClass?,
    Descriptor.asMethod?, Descriptor.asField?]

end

/-- What was added: some of the texts, and a descriptor each for some of the keys, in their order and
with the next ids. The class of a descriptor was there before, or it was added ahead of it. -/
structure Gain (texts : List String) (keys : List DescriptorKey) (r after : Registry)
    (fresh : List String) (new : List Descriptor) : Prop where
  after : after = r.plus fresh new
  texts : fresh.Sublist texts
  keys : (new.map Descriptor.key).Sublist keys
  ids : new.map Descriptor.id = List.range' r.nextId new.length
  owners : ∀ d ∈ new, d.owner ∈ r.classes ∨ .ofClass d.owner ∈ new ∧ d.owner.id ≤ d.id

def Gains (texts : List String) (keys : List DescriptorKey) (r after : Registry) : Prop :=
  ∃ fresh new, Gain texts keys r after fresh new

section

variable {texts more fresh : List String} {keys further : List DescriptorKey}
  {new : List Descriptor} {r s t : Registry}

theorem Gain.id_bounds (gain : Gain texts keys r s fresh new) {d : Descriptor} (member : d ∈ new) :
    r.nextId ≤ d.id ∧ d.id < s.nextId := by
  have id := List.mem_map_of_mem (f := Descriptor.id) member
  rw [gain.ids, List.mem_range'_1] at id
  rw [gain.after]
  exact id

theorem Gains.nothing (texts : List String) (keys : List DescriptorKey) (r : Registry) :
    Gains texts keys r r :=
  ⟨[], [], r.plus_nil.symm, List.nil_sublist _, List.nil_sublist _, rfl,
    fun _ member => absurd member List.not_mem_nil⟩

theorem Gains.trans (one : Gains texts keys r s) (two : Gains more further s t) :
    Gains (texts ++ more) (keys ++ further) r t := by
  obtain ⟨fresh, new, first⟩ := one
  obtain ⟨others, newer, second⟩ := two
  have next : s.nextId = r.nextId + new.length := by
    rw [first.after]
    rfl
  refine ⟨fresh ++ others, new ++ newer, ?_, first.texts.append second.texts, ?_, ?_, ?_⟩
  · rw [second.after, first.after, plus_plus]
  · rw [List.map_append]
    exact first.keys.append second.keys
  · rw [List.map_append, first.ids, second.ids, next, List.range'_append_1, List.length_append]
  · intro d member
    rcases List.mem_append.1 member with early | late
    · rcases first.owners d early with before | ⟨owner, older⟩
      · exact Or.inl before
      · exact Or.inr ⟨List.mem_append_left _ owner, older⟩
    · rcases second.owners d late with before | ⟨owner, older⟩
      · -- what the second work found there may be what the first one added
        rw [first.after, mem_classes_plus] at before
        rcases before with known | owner
        · exact Or.inl known
        · have low := (first.id_bounds owner).2
          have high := (second.id_bounds late).1
          exact Or.inr ⟨List.mem_append_left _ owner, Nat.le_of_lt (Nat.lt_of_lt_of_le low high)⟩
      · exact Or.inr ⟨List.mem_append_right _ owner, older⟩

theorem gains_addString (r : Registry) (value : String) : Gains [value] [] r (r.addString value) := by
  unfold addString
  split
  · exact Gains.nothing _ _ r
  · refine ⟨[value], [], ?_, List.Sublist.refl _, List.nil_sublist _, rfl,
      fun _ member => absurd member List.not_mem_nil⟩
    simp only [plus, List.filterMap_nil, List.append_nil, List.length_nil, Nat.add_zero]

/-- One descriptor with the next id, whose class was there or which is one itself. -/
theorem gains_single {d : Descriptor} {key : DescriptorKey} (after : s = r.plus [] [d])
    (keyed : d.key = key) (id : d.id = r.nextId)
    (owner : d.owner ∈ r.classes ∨ .ofClass d.owner = d) : Gains [] [key] r s := by
  refine ⟨[], [d], after, List.Sublist.refl _, ?_, congrArg (fun n => [n]) id, ?_⟩
  · rw [List.map_singleton, keyed]
  · intro e member
    obtain rfl := List.mem_singleton.1 member
    rcases owner with before | itself
    · exact Or.inl before
    · exact Or.inr ⟨List.mem_singleton.2 itself, Nat.le_of_eq (congrArg Descriptor.id itself)⟩

theorem gains_addClass (r : Registry) (name : String) :
    Gains [name] [.ofClass name] r (r.addClass name).2 := by
  cases found : r.findClass? name with
  | some c =>
    rw [addClass_of_find found]
    exact Gains.nothing _ _ r
  | none =>
    rw [addClass_of_absent found, ← newClass_addString r name]
    apply (r.gains_addString name).trans
    have next : ((r.addString name).newClass name).id = (r.addString name).nextId := rfl
    exact gains_single (pushClass_eq_plus _ _) rfl next (Or.inr rfl)

variable (kind : MemberKind) {c : ClassDescriptor} (name signature : String) (isStatic : Bool)

theorem gains_addMember (owned : c ∈ r.classes) :
    Gains [name, signature] [.ofMember kind c.name name signature isStatic] r
      (addMember kind r c name signature isStatic).2 := by
  have both : Gains [name, signature] [] r (r.withTexts name signature) :=
    (r.gains_addString name).trans ((r.addString name).gains_addString signature)
  have owner := (r.grows_withTexts name signature).mem_classes owned
  rw [addMember_eq]
  split
  · exact both.trans (Gains.nothing [] _ _)
  · have made := (r.withTexts name signature).pushMember_eq_plus
      (newMember kind (r.withTexts name signature) c name signature isStatic)
    apply both.trans
    apply gains_single made (Descriptor.key_ofMember _) (Descriptor.id_ofMember _)
    rw [Descriptor.owner_ofMember]
    exact Or.inl owner

end

/-! ## Verdicts -/

/-- Work is granted exactly under this condition and adds no more than this; without it the registry is
left as it was. -/
structure Verdict {α : Type} (valid : Prop) (texts : List String) (keys : List DescriptorKey)
    (r : Registry) (work : Interning α) : Prop where
  granted : (∃ a, (work.run.run r).1 = .ok a) ↔ valid
  refused : ∀ fault, (work.run.run r).1 = .error fault → (work.run.run r).2 = r
  gains : Gains texts keys r (work.run.run r).2

section

variable {α β : Type} {valid : Prop} {texts : List String} {keys : List DescriptorKey}
  {r : Registry} {work : Interning α}

theorem Verdict.of_error (invalid : ¬ valid) {fault : Fault}
    (run : work.run.run r = (.error fault, r)) : Verdict valid texts keys r work := by
  constructor
  · rw [run]
    exact iff_of_false (fun ⟨a, given⟩ => by cases given) invalid
  · intro _ _
    rw [run]
  · rw [run]
    exact Gains.nothing _ _ r

theorem Verdict.of_ok (holds : valid) {a : α} {after : Registry}
    (run : work.run.run r = (.ok a, after)) (gains : Gains texts keys r after) :
    Verdict valid texts keys r work := by
  constructor
  · rw [run]
    exact iff_of_true ⟨a, rfl⟩ holds
  · rw [run]
    intro fault failed
    cases failed
  · rw [run]
    exact gains

theorem Verdict.map (change : α → β) (verdict : Verdict valid texts keys r work) :
    Verdict valid texts keys r (change <$> work) := by
  constructor
  · rw [Work.run_map, ← verdict.granted]
    cases (work.run.run r).1 <;> simp [Except.map]
  · rw [Work.run_map]
    intro fault failed
    cases outcome : (work.run.run r).1 with
    | error why => exact verdict.refused why outcome
    | ok a =>
      rw [outcome] at failed
      cases failed
  · rw [Work.run_map]
    exact verdict.gains

end

theorem checkClass_eq_ok_iff {name : String} :
    checkClass name = .ok () ↔ Name.isClass name = true := by
  unfold checkClass
  by_cases empty : name.isEmpty = true
  · rw [if_pos empty]
    exact iff_of_false (by simp) fun valid =>
      Name.ne_empty_of_isClass valid (String.isEmpty_iff.1 empty)
  · rw [if_neg empty]
    cases Name.isClass name <;> simp

theorem checkClass_of_invalid {name : String} (written : name ≠ "")
    (invalid : ¬ Name.isClass name = true) : checkClass name = .error (.className name) := by
  have nonempty : ¬ name.isEmpty = true := mt String.isEmpty_iff.1 written
  rw [checkClass, if_neg nonempty, if_neg invalid]

section

variable (r : Registry) (kind : MemberKind) (owner name signature : String) (isStatic : Bool)

theorem verdict_internClass : Verdict (Name.isClass name = true) [Name.slashed name]
    [.ofClass (Name.slashed name)] r (internClass name) := by
  rw [← checkClass_eq_ok_iff]
  cases checked : checkClass name with
  | error why => exact Verdict.of_error (by simp) (internClass_run_of_error checked)
  | ok accepted =>
    exact Verdict.of_ok rfl (internClass_run_of_ok checked) (r.gains_addClass _)

theorem internMember_run_of_error {why : NameFault}
    (refused : checkMember kind name signature = .error why) :
    (internMember kind owner name signature isStatic).run.run r =
      (.error (.invalidDescriptor why), r) := by
  simp only [internMember, refused]
  rfl

theorem internMember_run_of_ok (accepted : checkMember kind name signature = .ok ()) :
    (internMember kind owner name signature isStatic).run.run r =
      match (internClass owner).run.run r with
      | (.ok c, t) =>
        (.ok (addMember kind t c name signature isStatic).1,
          (addMember kind t c name signature isStatic).2)
      | (.error fault, t) => (.error fault, t) := by
  simp only [internMember, accepted]
  rw [Work.run_bind]
  rcases (internClass owner).run.run r with ⟨fault | c, t⟩ <;> rfl

/-- The class is looked at last and interned first, so it is not interned for nothing. -/
theorem verdict_internMember :
    Verdict (kind.Accepts name signature ∧ Name.isClass owner = true)
      [Name.slashed owner, name, signature]
      [.ofClass (Name.slashed owner), .ofMember kind (Name.slashed owner) name signature isStatic]
      r (internMember kind owner name signature isStatic) := by
  rw [← checkMember_eq_ok_iff, ← checkClass_eq_ok_iff]
  cases checked : checkMember kind name signature with
  | error why =>
    exact Verdict.of_error (by simp) (internMember_run_of_error r kind owner name signature _ checked)
  | ok accepted =>
    have run := internMember_run_of_ok r kind owner name signature isStatic checked
    cases named : checkClass owner with
    | error why =>
      rw [internClass_run_of_error named] at run
      exact Verdict.of_error (by simp) run
    | ok valid =>
      obtain ⟨owned, spelled⟩ := r.mem_addClass (Name.slashed owner)
      have member := gains_addMember kind name signature isStatic owned
      rw [spelled] at member
      rw [internClass_run_of_ok named] at run
      exact Verdict.of_ok ⟨rfl, rfl⟩ run ((r.gains_addClass _).trans member)

end

namespace Request

/-- All parts of what is asked for are valid as they are spelled. -/
def Valid : Request → Prop
  | ofClass name => Name.isClass name = true
  | ofSignature signature => Name.isClass ((nameInSignature? signature).getD signature) = true
  | ofMember kind owner name signature _ =>
    kind.Accepts name signature ∧ Name.isClass owner = true
  | ofKind .ofClass owner _ _ _ => Name.isClass owner = true
  | ofKind (.ofMember kind) owner name signature _ =>
    kind.Accepts name signature ∧ Name.isClass owner = true

instance : DecidablePred Valid
  | ofClass _ => inferInstanceAs (Decidable (_ = _))
  | ofSignature _ => inferInstanceAs (Decidable (_ = _))
  | ofMember _ _ _ _ _ => inferInstanceAs (Decidable (_ ∧ _))
  | ofKind .ofClass _ _ _ _ => inferInstanceAs (Decidable (_ = _))
  | ofKind (.ofMember _) _ _ _ _ => inferInstanceAs (Decidable (_ ∧ _))

theorem verdict_work (r : Registry) (q : Request) :
    Verdict q.Valid q.key.texts q.key.parts r q.work := by
  cases q with
  | ofClass name => exact (r.verdict_internClass name).map _
  | ofSignature signature => exact (r.verdict_internClass _).map _
  | ofMember kind owner name signature isStatic =>
    cases kind <;> exact (r.verdict_internMember _ owner name signature isStatic).map _
  | ofKind kind owner name signature isStatic =>
    rcases kind with _ | (_ | _)
    · exact (r.verdict_internClass owner).map _
    · exact (r.verdict_internMember .method owner name signature isStatic).map _
    · exact (r.verdict_internMember .field owner name signature isStatic).map _

/-- A request is granted exactly if it is valid. If it is turned down, nothing changed; in any case
nothing but what it asks for is put behind what was there. -/
theorem granted_iff_valid (r : Registry) (q : Request) :
    ((∃ d, (q.work.run.run r).1 = .ok d) ↔ q.Valid) ∧
      (∀ fault, (q.work.run.run r).1 = .error fault → (q.work.run.run r).2 = r) ∧
      ∃ texts new, (q.work.run.run r).2 = r.plus texts new ∧ texts.Sublist q.key.texts ∧
        (new.map Descriptor.key).Sublist q.key.parts ∧
        new.map Descriptor.id = List.range' r.nextId new.length := by
  have verdict := q.verdict_work r
  obtain ⟨texts, new, gain⟩ := verdict.gains
  exact ⟨verdict.granted, verdict.refused, texts, new, gain.after, gain.texts, gain.keys, gain.ids⟩

end Request

end Registry

end JvmFacts
