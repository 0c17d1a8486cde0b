import JvmFacts.Proofs.Registry.Verdicts
import JvmFacts.Proofs.Signature.ClassNames
import JvmFacts.Proofs.Signature.Slices

/-!
The classes that the signatures of members speak of. A registry has a class for every array that a
signature may mention, and for every object but those with a stray character in their name: these it
lets through in signatures and turns down as classes.
-/

set_option autoImplicit false

namespace JvmFacts

namespace Name

/-- The type of an object whose class is named with a blank or a colon. -/
def HasStray (type : String) : Prop :=
  isArray type = false ∧ ∃ c ∈ type.toList, isStray c = true

instance (type : String) : Decidable (HasStray type) :=
  inferInstanceAs (Decidable (_ ∧ _))

/-- Around the name, L and semicolon are no strays. -/
theorem hasStray_object {name : String} :
    HasStray ("L" ++ name ++ ";") ↔ ∃ c ∈ name.toList, isStray c = true := by
  unfold HasStray isArray
  rw [toList_object]
  constructor
  · rintro ⟨-, c, member, stray⟩
    refine ⟨c, ?_, stray⟩
    have place : c = 'L' ∨ c ∈ name.toList ∨ c = ';' := by simpa using member
    rcases place with rfl | inside | rfl
    · exact absurd stray (by decide)
    · exact inside
    · exact absurd stray (by decide)
  · rintro ⟨c, member, stray⟩
    exact ⟨rfl, c, List.mem_cons_of_mem _ (List.mem_append_left _ member), stray⟩

theorem isArray_of_isObjectName {name : String} (rules : isObjectName name.toList = true) :
    isArray name = false := by
  have plain := ((isObjectName_iff _).1 rules).plain
  unfold isArray
  cases written : name.toList with
  | nil => rfl
  | cons c rest =>
    rw [written] at plain
    have other : c ≠ '[' := by
      rintro rfl
      exact plain _ (List.mem_cons_self ..) (by decide)
    simp [other]

theorem dot_not_mem_of_isObjectName {name : String} (rules : isObjectName name.toList = true) :
    '.' ∉ name.toList :=
  fun dot => ((isObjectName_iff _).1 rules).plain '.' dot (by decide)

theorem isClass_iff_not_hasStray {name : String} (rules : isObjectName name.toList = true) :
    isClass name = true ↔ ¬ HasStray ("L" ++ name ++ ";") := by
  rw [isClass_iff_isObjectName (isArray_of_isObjectName rules) (dot_not_mem_of_isObjectName rules),
    and_iff_right rules, hasStray_object]
  simp

end Name

/-! ## The types in a signature -/

namespace MemberKind

/-- The types in the signature of a member, as they are written: the one of a field, the parameters and
the result of a method. -/
def types : MemberKind → (signature : String) → List String
  | .method, signature =>
    match MethodSignature.parse signature.toList with
    | .ok s => (s.parameterTexts ++ [s.result.text]).map String.ofList
    | .error _ => []
  | .field, signature => [signature]

/-- Those of them that are objects or arrays. -/
def references (kind : MemberKind) (signature : String) : List String :=
  (kind.types signature).filter Name.isReference

theorem isFieldType_ofList {text : List Char} (form : IsFieldType text) :
    Name.isFieldType (String.ofList text) = true := by
  rw [Name.isFieldType_iff, String.toList_ofList]
  exact form

/-- A result that is no field type is V, and that is no reference. -/
theorem isFieldType_of_mem_types {signature type : String}
    (written : type ∈ types .method signature) (reference : Name.isReference type = true) :
    Name.isFieldType type = true := by
  cases read : MethodSignature.parse signature.toList with
  | error why =>
    simp only [types, read] at written
    exact absurd written List.not_mem_nil
  | ok s =>
    simp only [types, read] at written
    have parts := MethodSignature.isSignature_text (MethodSignature.of_parse read).1
    obtain ⟨part, member, rfl⟩ := List.mem_map.1 written
    rcases List.mem_append.1 member with parameter | result
    · exact isFieldType_ofList (parts.types part parameter)
    · obtain rfl := List.mem_singleton.1 result
      rcases parts.last with void | value
      · rw [void] at reference
        exact absurd reference (by decide)
      · exact isFieldType_ofList value

theorem of_mem_references {kind : MemberKind} {name signature t : String}
    (accepts : kind.Accepts name signature) (mentioned : t ∈ kind.references signature) :
    Name.isFieldType t = true ∧ Name.isReference t = true := by
  obtain ⟨written, reference⟩ := List.mem_filter.1 mentioned
  refine ⟨?_, reference⟩
  cases kind with
  | field =>
    rw [List.mem_singleton.1 written]
    exact accepts.2
  | method =>
    exact isFieldType_of_mem_types written reference

end MemberKind

namespace Registry

/-- What becomes of a type whose class is asked for. One with a stray character is turned down and leaves
nothing behind; any other gets a class that has this very signature. -/
inductive SettlesType (r : Registry) (type : String) : Prop
  | refused {name : String} (stray : Name.HasStray type)
    (run : (internSignature type).run.run r = (.error (.invalidDescriptor (.className name)), r))
  | granted {c : ClassDescriptor} (plain : ¬ Name.HasStray type)
    (run : ((internSignature type).run.run r).1 = .ok c) (signature : c.signature = type)

/-- A valid name is granted, and the class has its slashed form for a name. -/
theorem exists_internClass (r : Registry) {name : String} (valid : Name.isClass name = true) :
    ∃ c, ((internClass name).run.run r).1 = .ok c ∧ c.name = Name.slashed name := by
  have run := internClass_run_of_ok (r := r) (checkClass_eq_ok_iff.2 valid)
  exact ⟨_, congrArg Prod.fst run, (r.mem_addClass (Name.slashed name)).2⟩

theorem settlesType_array (r : Registry) {type : String} (array : Name.isArray type = true)
    (valid : Name.isFieldType type = true) : r.SettlesType type := by
  have plain : ¬ Name.HasStray type := by
    rintro ⟨named, -⟩
    rw [array] at named
    cases named
  have asked : internSignature type = internClass type := by
    rw [internSignature, nameInSignature?_of_isArray array, Option.getD_none]
  rw [← Name.isClass_of_isArray array] at valid
  obtain ⟨c, given, named⟩ := r.exists_internClass valid
  rw [Name.slashed_of_isArray array] at named
  refine .granted plain (asked ▸ given) ?_
  rw [ClassDescriptor.signature, ClassDescriptor.isArray, named, if_pos array]

theorem settlesType_object (r : Registry) {name : String}
    (rules : isObjectName name.toList = true) : r.SettlesType ("L" ++ name ++ ";") := by
  have written : name ≠ "" := by
    rintro rfl
    exact absurd rules (by decide)
  have asked : internSignature ("L" ++ name ++ ";") = internClass name := by
    rw [internSignature, nameInSignature?_eq_some.2 ⟨written, rfl⟩, Option.getD_some]
  by_cases stray : Name.HasStray ("L" ++ name ++ ";")
  · have invalid : ¬ Name.isClass name = true := fun valid =>
      (Name.isClass_iff_not_hasStray rules).1 valid stray
    exact .refused stray (asked ▸ internClass_run_of_error (checkClass_of_invalid written invalid))
  · obtain ⟨c, given, named⟩ := r.exists_internClass ((Name.isClass_iff_not_hasStray rules).2 stray)
    rw [Name.slashed_of_undotted (Name.dot_not_mem_of_isObjectName rules)] at named
    have object : ¬ c.isArray = true := by
      rw [ClassDescriptor.isArray, named, Name.isArray_of_isObjectName rules]
      exact Bool.false_ne_true
    refine .granted stray (asked ▸ given) ?_
    rw [ClassDescriptor.signature, if_neg object, named]

theorem settlesType_reference (r : Registry) {type : String} (valid : Name.isFieldType type = true)
    (reference : Name.isReference type = true) : r.SettlesType type := by
  rcases Name.reference_cases valid reference with array | ⟨name, rules, rfl⟩
  · exact r.settlesType_array array valid
  · exact r.settlesType_object rules

/-- Every type of an object or an array is settled in this way, and so are those that a member mentions
when it is granted. -/
theorem settlesType_spec (r : Registry) :
    (∀ type, Name.isFieldType type = true → Name.isReference type = true → r.SettlesType type) ∧
    ∀ kind owner name signature isStatic m,
      ((internMember kind owner name signature isStatic).run.run r).1 = .ok m →
        ∀ type ∈ kind.references signature,
          Name.isFieldType type = true ∧ Name.isReference type = true ∧
            ((internMember kind owner name signature isStatic).run.run r).2.SettlesType type := by
  refine ⟨fun type => r.settlesType_reference, ?_⟩
  intro kind owner name signature isStatic m granted type mentioned
  have verdict := r.verdict_internMember kind owner name signature isStatic
  have accepts := (verdict.granted.1 ⟨m, granted⟩).1
  obtain ⟨valid, reference⟩ := MemberKind.of_mem_references accepts mentioned
  exact ⟨valid, reference, settlesType_reference _ valid reference⟩

/-- An array of a class that is turned down on its own, and a method that gives back another such. -/
theorem settlesType_colonResult :
    SettlesType { token := 0 } "[La b;" ∧
    "La:b;" ∈ MemberKind.references .method "([La b;I)La:b;" ∧
    SettlesType
      ((internMember .method "a/B" "m" "([La b;I)La:b;" true).run.run { token := 0 }).2 "La:b;" := by
  have spec := settlesType_spec { token := 0 }
  have valid : Name.isFieldType "[La b;" = true := by decide +kernel
  have mentioned : "La:b;" ∈ MemberKind.references .method "([La b;I)La:b;" := by decide +kernel
  have accepted : ((internMember .method "a/B" "m" "([La b;I)La:b;" true).run.run
      { token := 0 }).1.toOption.isSome = true := by decide +kernel
  refine ⟨spec.1 "[La b;" valid (by decide), mentioned, ?_⟩
  cases granted : ((internMember .method "a/B" "m" "([La b;I)La:b;" true).run.run
      { token := 0 }).1 with
  | error fault =>
    rw [granted] at accepted
    cases accepted
  | ok m => exact (spec.2 _ _ _ _ _ m granted _ mentioned).2.2

/-- A field is taken in and the class of its type is turned down after it. -/
theorem settlesType_spacedField :
    ((internMember .field "a/B" "x" "La b;" false).run.run { token := 0 }).1.toOption.isSome =
        true ∧
      "La b;" ∈ MemberKind.references .field "La b;" ∧
      ((internSignature "La b;").run.run
        ((internMember .field "a/B" "x" "La b;" false).run.run { token := 0 }).2).1.toOption =
          none := by
  decide +kernel

end Registry

end JvmFacts
