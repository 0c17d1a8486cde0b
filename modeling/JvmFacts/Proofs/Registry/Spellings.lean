import JvmFacts.Proofs.Registry.Lookup
import JvmFacts.Proofs.Signature.ClassNames

/-!
What a class descriptor spells its class by, and which of these spellings lead back to it. The name and
the signature do. The dotted name does so unless it is that of an array with a slash in it: the name of
an array is a type signature, and it is none any more once it is dotted.
-/

set_option autoImplicit false

namespace JvmFacts.Registry

/-- A signature names the class that it is the signature of. -/
theorem nameInSignature?_signature {c : ClassDescriptor} (named : c.name ≠ "") :
    (nameInSignature? c.signature).getD c.signature = c.name := by
  unfold ClassDescriptor.signature
  split
  · rename_i array
    rw [nameInSignature?_of_isArray array]
    rfl
  · rw [nameInSignature?_eq_some.2 ⟨named, rfl⟩]
    rfl

section

variable {r : Registry} {c : ClassDescriptor} {name : String}

/-- A valid name leads to the class whose name is its slashed form. -/
theorem internClass_run_of_mem (wf : r.WellFormed) (held : c ∈ r.classes)
    (valid : Name.isClass name = true) (slashed : Name.slashed name = c.name) :
    (internClass name).run.run r = (.ok c, r) := by
  refine internClass_run_eq_iff.2 ⟨valid, ?_⟩
  rw [getClass?, slashed]
  exact findClass?_of_mem wf held

section

variable (inventory : Inventory r) (held : c ∈ r.classes)

include inventory held

theorem Inventory.isClass_name : Name.isClass c.name = true :=
  (inventory.valid (.ofClass c) held).1

theorem Inventory.isFieldType_name (array : c.isArray = true) : Name.isFieldType c.name = true := by
  rw [← Name.isClass_of_isArray array]
  exact inventory.isClass_name held

theorem Inventory.dot_not_mem_name : '.' ∉ c.name.toList := by
  cases array : c.isArray with
  | false => exact (inventory.valid (.ofClass c) held).2 array
  | true => exact Name.dot_not_mem_of_isFieldType (inventory.isFieldType_name held array)

theorem Inventory.slashed_name : Name.slashed c.name = c.name :=
  Name.slashed_of_undotted (inventory.dot_not_mem_name held)

/-- What is a class name on its own is one between L and semicolon. -/
theorem Inventory.isFieldType_signature : Name.isFieldType c.signature = true := by
  unfold ClassDescriptor.signature
  split
  · rename_i array
    exact inventory.isFieldType_name held array
  · rename_i named
    have undotted := inventory.dot_not_mem_name held
    have rules := Name.isClass_iff_isObjectName (Bool.not_eq_true _ ▸ named) undotted
    exact Name.isFieldType_object (rules.1 (inventory.isClass_name held)).1

/-! ## The dotted name -/

theorem Inventory.isClass_dottedName_iff :
    Name.isClass c.dottedName = true ↔ ¬ (c.isArray = true ∧ '/' ∈ c.name.toList) := by
  have valid := inventory.isClass_name held
  have dotted : Name.isArray c.dottedName = c.isArray := Name.isArray_dotted c.name
  cases array : c.isArray with
  | true =>
    rw [Name.isClass_of_isArray (dotted.trans array), and_iff_right rfl]
    constructor
    · intro type slash
      exact Name.dot_not_mem_of_isFieldType type (Name.mem_swap slash)
    · intro single
      rw [ClassDescriptor.dottedName, Name.dotted, Name.swap_of_not_mem single]
      exact inventory.isFieldType_name held array
  | false =>
    have unmixed : ¬ Name.IsMixed c.dottedName :=
      fun mixed => Name.not_mem_swap (by decide) c.name mixed.2.2
    have named : ¬ (false = true ∧ '/' ∈ c.name.toList) := fun both => Bool.false_ne_true both.1
    rw [iff_true_right named, Name.isClass_iff_slashed]
    refine ⟨?_, unmixed⟩
    rw [ClassDescriptor.dottedName, Name.slashed_dotted array, inventory.slashed_name held]
    exact valid

theorem Inventory.slashed_dottedName (unslashed : ¬ (c.isArray = true ∧ '/' ∈ c.name.toList)) :
    Name.slashed c.dottedName = c.name := by
  cases array : c.isArray with
  | true =>
    have single : '/' ∉ c.name.toList := fun slash => unslashed ⟨array, slash⟩
    rw [ClassDescriptor.dottedName, Name.dotted, Name.swap_of_not_mem single]
    exact inventory.slashed_name held
  | false =>
    rw [ClassDescriptor.dottedName, Name.slashed_dotted array]
    exact inventory.slashed_name held

end

end

/-- The name and the signature of a class that was ever interned lead back to it, and the signature is
the type of its instances. -/
theorem operateAll_spellings (token : Nat) (operations : List Operation) {r : Registry}
    (reached : operateAll operations { token } = r) {c : ClassDescriptor} (held : c ∈ r.classes) :
    Name.isFieldType c.signature = true ∧
      (internClass c.name).run.run r = (.ok c, r) ∧
      (internSignature c.signature).run.run r = (.ok c, r) := by
  have inventory := (inventory_start token).operateAll operations
  have wf := wellFormed_operateAll token operations
  rw [reached] at inventory wf
  have named : (internClass c.name).run.run r = (.ok c, r) :=
    internClass_run_of_mem wf held (inventory.isClass_name held) (inventory.slashed_name held)
  refine ⟨inventory.isFieldType_signature held, named, ?_⟩
  have written := Name.ne_empty_of_isClass (inventory.isClass_name held)
  rw [internSignature, nameInSignature?_signature written]
  exact named

/-- A run that asks for a class and for two arrays, one of them of a class with a blank in its name. -/
def namingArrays : List Operation :=
  [.request (.ofClass "a.B"), .request (.ofSignature "[La/B;"), .request (.ofSignature "[[La b;")]

theorem spellings_nestedArray :
    ⟨0, 3, "[[La b;"⟩ ∈ (operateAll namingArrays { token := 0 }).classes ∧
      Name.isFieldType (ClassDescriptor.signature ⟨0, 3, "[[La b;"⟩) = true ∧
      (internClass "[[La b;").run.run (operateAll namingArrays { token := 0 }) =
        (.ok ⟨0, 3, "[[La b;"⟩, operateAll namingArrays { token := 0 }) ∧
      (internSignature (ClassDescriptor.signature ⟨0, 3, "[[La b;"⟩)).run.run
          (operateAll namingArrays { token := 0 }) =
        (.ok ⟨0, 3, "[[La b;"⟩, operateAll namingArrays { token := 0 }) := by
  have held : ⟨0, 3, "[[La b;"⟩ ∈ (operateAll namingArrays { token := 0 }).classes := by
    decide +kernel
  exact ⟨held, operateAll_spellings 0 namingArrays rfl held⟩

/-- The dotted name leads back to every class but an array with a slash in its name. -/
theorem operateAll_dottedName (token : Nat) (operations : List Operation) {r : Registry}
    (reached : operateAll operations { token } = r) {c : ClassDescriptor} (held : c ∈ r.classes) :
    (internClass c.dottedName).run.run r =
      if c.isArray = true ∧ '/' ∈ c.name.toList then
        (.error (.invalidDescriptor (.className c.dottedName)), r)
      else (.ok c, r) := by
  have inventory := (inventory_start token).operateAll operations
  have wf := wellFormed_operateAll token operations
  rw [reached] at inventory wf
  have valid := inventory.isClass_dottedName_iff held
  split
  · rename_i slashed
    apply internClass_run_of_error
    apply checkClass_of_invalid
    · intro empty
      have dot : '.' ∈ c.dottedName.toList := Name.mem_swap slashed.2
      rw [empty] at dot
      cases dot
    · exact fun accepted => valid.1 accepted slashed
  · rename_i unslashed
    exact internClass_run_of_mem wf held (valid.2 unslashed)
      (inventory.slashed_dottedName held unslashed)

/-- Of a class and an array of it, only the class is found again by its dotted name. -/
theorem dottedName_classAndArray :
    (internClass (ClassDescriptor.dottedName ⟨0, 1, "a/B"⟩)).run.run
        (operateAll namingArrays { token := 0 }) =
      (.ok ⟨0, 1, "a/B"⟩, operateAll namingArrays { token := 0 }) ∧
    (internClass (ClassDescriptor.dottedName ⟨0, 2, "[La/B;"⟩)).run.run
        (operateAll namingArrays { token := 0 }) =
      (.error (.invalidDescriptor (.className (ClassDescriptor.dottedName ⟨0, 2, "[La/B;"⟩))),
        operateAll namingArrays { token := 0 }) := by
  have one : ⟨0, 1, "a/B"⟩ ∈ (operateAll namingArrays { token := 0 }).classes := by
    decide +kernel
  have two : ⟨0, 2, "[La/B;"⟩ ∈ (operateAll namingArrays { token := 0 }).classes := by
    decide +kernel
  exact ⟨(operateAll_dottedName 0 namingArrays rfl one).trans (if_neg (by decide)),
    (operateAll_dottedName 0 namingArrays rfl two).trans (if_pos (by decide))⟩

theorem dottedName_stringArray :
    ⟨0, 1, "[Ljava/lang/String;"⟩ ∈
        (operateAll [.request (.ofClass "[Ljava/lang/String;")] { token := 0 }).classes ∧
      ClassDescriptor.dottedName ⟨0, 1, "[Ljava/lang/String;"⟩ = "[Ljava.lang.String;" ∧
      ((internClass "[Ljava.lang.String;").run.run
        (operateAll [.request (.ofClass "[Ljava/lang/String;")] { token := 0 })).1.toOption =
          none := by
  decide +kernel

end JvmFacts.Registry
