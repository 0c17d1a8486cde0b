import JvmFacts.Promise.CheckReturn
import JvmFacts.Proofs.Method.Tables
import JvmFacts.Proofs.Registry.Interning
import JvmFacts.Proofs.Signature.Slices

/-!
The signature of a method. One that was accepted is taken apart, so its parameters are counted and its
result is known; and whether there is a result can be told by how the text ends. A class may be named
by nearly any characters, but a closing parenthesis is none of them, so the last one of the text is the
one that stands before the result.
-/

set_option autoImplicit false

namespace JvmFacts

/-! ## The end of a signature -/

namespace FieldType

theorem text_ne_void (t : FieldType) : t.text ≠ ['V'] := by
  obtain ⟨c, rest, same, -, letter⟩ := t.exists_cons_text
  rw [same]
  intro void
  exact letter (List.cons.inj void).1

theorem isReference_iff (t : FieldType) :
    t.isReference = true ↔ t.text.head? = some 'L' ∨ t.text.head? = some '[' := by
  obtain ⟨dimensions, base⟩ := t
  cases dimensions with
  | succ dimensions => exact iff_of_true rfl (Or.inr rfl)
  | zero =>
    cases base with
    | primitive p => cases p <;> decide
    | object name => exact iff_of_true rfl (Or.inl rfl)

end FieldType

namespace ResultType

theorem isReference_iff (t : ResultType) :
    t.isReference = true ↔ t.text.head? = some 'L' ∨ t.text.head? = some '[' := by
  cases t with
  | void => decide
  | value t => exact t.isReference_iff

end ResultType

namespace MethodSignature

variable {s : MethodSignature}

theorem suffix_text_iff (proper : s.result.Proper) :
    [')', 'V'] <:+ s.text ↔ s.result = .void := by
  have last : ')' :: s.result.text <:+ s.text :=
    ⟨'(' :: s.parameterTexts.flatten, s.text_eq.symm⟩
  cases result : s.result with
  | void =>
    rw [result] at last
    exact iff_of_true last rfl
  | value t =>
    rw [result] at last proper
    have type : IsFieldType t.text := (isFieldType_iff t.text).2 ⟨t, proper, rfl⟩
    have sealed : ')' ∉ t.text := type.not_mem (by decide)
    have other : [')', 'V'] ≠ ')' :: t.text := by
      intro same
      exact t.text_ne_void (List.cons.inj same).2.symm
    refine iff_of_false ?_ (by simp)
    intro ends
    -- of two ends of one text the shorter is an end of the longer
    rcases List.suffix_or_suffix_of_suffix ends last with within | beyond
    · rcases List.suffix_cons_iff.1 within with same | inside
      · exact other same
      · exact sealed (inside.subset (List.mem_cons_self ..))
    · rcases List.suffix_cons_iff.1 beyond with same | inside
      · exact other same.symm
      · have member : ')' ∈ ['V'] := inside.subset (List.mem_cons_self ..)
        exact absurd member (by decide)

end MethodSignature

/-- The text is read as this signature, whose types are written in it one after the other; and it ends
like a signature without a result just when there is none. -/
structure Spells (signature : String) (s : MethodSignature) : Prop where
  read : MethodSignature.parse signature.toList = .ok s
  written : IsSignature signature.toList s.parameterTexts s.result.text
  ends_iff : [')', 'V'] <:+ signature.toList ↔ s.result = .void

theorem exists_spells {signature : String} (valid : Name.isMethodSignature signature = true) :
    ∃ s, Spells signature s := by
  unfold Name.isMethodSignature MethodSignature.parse? at valid
  cases read : MethodSignature.parse signature.toList with
  | error fault =>
    rw [read] at valid
    cases valid
  | ok s =>
    obtain ⟨proper, text⟩ := MethodSignature.of_parse read
    refine ⟨s, read, ?_, ?_⟩
    · rw [text]
      exact MethodSignature.isSignature_text proper
    · rw [text]
      exact MethodSignature.suffix_text_iff proper.2

example : ["()V", "(LV;)LaV;", "([LV V;)[[I", "(V)V", "()LV)V;"].map
    (fun text => (MethodSignature.parse? text.toList).map (·.result == .void)) =
      [some true, some false, some false, none, none] := by
  decide +kernel

/-! ## Methods -/

theorem CheckReturnTable.returnsVoid_iff (m : MethodBody) :
    returnsVoid m = true ↔ [')', 'V'] <:+ m.signature.toList := by
  unfold returnsVoid
  rw [beq_iff_eq, ← List.reverse_prefix, List.prefix_iff_eq_take]
  exact eq_comm

/-- All that is told of the method by its signature is told by the signature as it is taken apart:
nothing is made up for a text that cannot be read, and the ending of the text never misleads. -/
structure MethodBody.Reads (m : MethodBody) (s : MethodSignature) : Prop where
  spells : Spells m.signature s
  parsed : m.parsed? = some s
  parameterCount : m.parameterCount = s.parameters.length
  returnsReference : m.returnsReference = true ↔
    s.result.text.head? = some 'L' ∨ s.result.text.head? = some '['
  returnsVoid : CheckReturnTable.returnsVoid m = true ↔ s.result = .void
  default : ∀ (t : CheckReturnTable) annotations, CheckReturn.ofAnnotations? annotations = none →
    t.methods.find? m.descriptor.id = none →
    t.resolve m annotations =
      if m.name = Name.constructorName ∨ s.result = .void then none else t.classes.find? m.owner.id

theorem MethodBody.reads_of_spells {m : MethodBody} {s : MethodSignature}
    (spells : Spells m.signature s) : m.Reads s := by
  have parsed : m.parsed? = some s := by
    unfold MethodBody.parsed? MethodSignature.parse?
    rw [spells.read]
    rfl
  have void : CheckReturnTable.returnsVoid m = true ↔ s.result = .void :=
    (CheckReturnTable.returnsVoid_iff m).trans spells.ends_iff
  constructor
  · exact spells
  · exact parsed
  · simp only [parameterCount, parsed]
  · simp only [returnsReference, parsed]
    exact s.result.isReference_iff
  · exact void
  · intro t annotations silent unlisted
    simp only [CheckReturnTable.resolve, silent, unlisted, Bool.or_eq_true, decide_eq_true_eq, void]

theorem MethodBody.exists_reads {m : MethodBody}
    (accepts : MemberKind.method.Accepts m.name m.signature) : ∃ s, m.Reads s := by
  obtain ⟨s, spells⟩ := exists_spells accepts.2
  exact ⟨s, reads_of_spells spells⟩

/-! ## What interning gives -/

namespace Registry

variable (r : Registry) (kind : MemberKind) (name signature : String) (isStatic : Bool)

/-- What is made for a member, or found for it, is called what was asked for, on any registry. -/
theorem named_addMember (c : ClassDescriptor) :
    (addMember kind r c name signature isStatic).1.name = name ∧
      (addMember kind r c name signature isStatic).1.signature = signature := by
  rw [addMember_eq]
  split
  · rename_i m found
    unfold findMember? at found
    have fits := List.find?_some found
    simp only [Bool.and_eq_true, beq_iff_eq] at fits
    exact ⟨fits.1.1.2, fits.1.2⟩
  · exact ⟨rfl, rfl⟩

theorem gives_internMember (owner : String) :
    Work.Gives r (internMember kind owner name signature isStatic) fun m =>
      m.name = name ∧ m.signature = signature ∧ kind.Accepts name signature := by
  unfold internMember
  cases checked : checkMember kind name signature with
  | error why => exact Work.Yields.throw _
  | ok accepted =>
    apply Work.Yields.bind (Work.gives_anything r (internClass owner))
    intro c t _ _
    obtain ⟨named, typed⟩ := named_addMember t kind name signature isStatic c
    exact Work.Yields.modifyGet trivial ⟨named, typed, checkMember_eq_ok_iff.1 checked⟩

end Registry

/-- A draft that can be prepared is of a method whose name and signature were looked at. -/
theorem MethodDraft.gives_accepted (d : MethodDraft) (r : Registry) :
    Work.Gives r d.prepare fun p => MemberKind.method.Accepts p.body.name p.body.signature := by
  have interned := Registry.gives_internMember r .method d.name d.signature d.isStatic d.className
  apply (d.gives_prepare_of_internMethod interned).mono
  intro after p _ prepared
  obtain ⟨named, typed, accepts⟩ := prepared.1
  unfold MethodBody.name MethodBody.signature
  rw [named, typed]
  exact accepts

end JvmFacts
