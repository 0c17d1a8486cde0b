import JvmFacts.Proofs.Registry.Inventory

/-!
Looking a class up against asking for it. Both go by the slashed form of the name, but looking up does
not ask whether the name is valid. They differ on the names that mix the separators: such a name finds
the class whose name it becomes when it is slashed, though nobody can ask for the class by it.
-/

set_option autoImplicit false

namespace JvmFacts.Registry

section

variable {r : Registry} {name : String} {c : ClassDescriptor}

/-- What is granted without a trace was there before. -/
theorem findClass?_of_addClass (same : r.addClass name = (c, r)) : r.findClass? name = some c := by
  cases found : r.findClass? name with
  | some d =>
    rw [addClass_of_find found] at same
    exact congrArg some (Prod.mk.inj same).1
  | none =>
    rw [addClass_of_absent found] at same
    have next : (r.addString name).nextId + 1 = r.nextId := congrArg nextId (Prod.mk.inj same).2
    rw [nextId_addString] at next
    omega

theorem internClass_run_eq_iff : (internClass name).run.run r = (.ok c, r) ↔
    Name.isClass name = true ∧ r.getClass? name = some c := by
  constructor
  · intro run
    have valid := (r.verdict_internClass name).granted.1 ⟨c, congrArg Prod.fst run⟩
    rw [internClass_run_of_ok (checkClass_eq_ok_iff.2 valid)] at run
    obtain ⟨given, still⟩ := Prod.mk.inj run
    exact ⟨valid, findClass?_of_addClass (Prod.ext (Except.ok.inj given) still)⟩
  · rintro ⟨valid, found⟩
    rw [internClass_run_of_ok (checkClass_eq_ok_iff.2 valid), addClass_of_find found]

theorem of_getClass? (found : r.getClass? name = some c) :
    c ∈ r.classes ∧ c.name = Name.slashed name := by
  unfold getClass? findClass? at found
  have named := List.find?_some found
  exact ⟨List.mem_of_find?_eq_some found, eq_of_beq named⟩

/-- What is found has a valid name, though it may be found by one that is not. -/
theorem Inventory.isClass_slashed (inventory : Inventory r) (found : r.getClass? name = some c) :
    Name.isClass (Name.slashed name) = true := by
  obtain ⟨held, named⟩ := of_getClass? found
  rw [← named]
  exact (inventory.valid (.ofClass c) held).1

theorem checkClass_of_isMixed (mixed : Name.IsMixed name) :
    checkClass name = .error (.className name) := by
  apply checkClass_of_invalid
  · rintro rfl
    exact absurd mixed (by decide)
  · exact fun valid => (Name.isClass_iff_slashed.1 valid).2 mixed

/-- Looking up and asking agree on every name but those that find a class though they are mixed. -/
theorem Inventory.lookup_agrees_iff (inventory : Inventory r) :
    (∀ c, r.getClass? name = some c ↔ (internClass name).run.run r = (.ok c, r)) ↔
      (Name.IsMixed name → r.getClass? name = none) := by
  simp only [internClass_run_eq_iff]
  constructor
  · intro agree mixed
    cases found : r.getClass? name with
    | none => rfl
    | some c =>
      have valid := ((agree c).1 found).1
      exact absurd mixed (Name.isClass_iff_slashed.1 valid).2
  · intro absent c
    refine ⟨fun found => ⟨?_, found⟩, And.right⟩
    refine Name.isClass_iff_slashed.2 ⟨inventory.isClass_slashed found, ?_⟩
    intro mixed
    rw [absent mixed] at found
    cases found

end

/-- Looking up is asking for the slashed form. On the name itself the two agree unless it is mixed and
finds a class. -/
theorem getClass?_eq_some_iff (token : Nat) (operations : List Operation) (name : String) :
    ∃ r, operateAll operations { token } = r ∧
      (∀ c, r.getClass? name = some c ↔
        (internClass (Name.slashed name)).run.run r = (.ok c, r)) ∧
      ((∀ c, r.getClass? name = some c ↔ (internClass name).run.run r = (.ok c, r)) ↔
        (Name.IsMixed name → r.getClass? name = none)) ∧
      (Name.IsMixed name →
        (internClass name).run.run r = (.error (.invalidDescriptor (.className name)), r)) := by
  have inventory := (inventory_start token).operateAll operations
  refine ⟨_, rfl, ?_, inventory.lookup_agrees_iff, ?_⟩
  · intro c
    rw [internClass_run_eq_iff, getClass?, getClass?, Name.slashed_slashed, iff_and_self]
    exact inventory.isClass_slashed
  · exact fun mixed => internClass_run_of_error (checkClass_of_isMixed mixed)

theorem getClass?_mixed :
    (operateAll [.request (.ofClass "a/b/C")] { token := 0 }).getClass? "a.b/C" =
        some ⟨0, 1, "a/b/C"⟩ ∧
      ((internClass "a.b/C").run.run
        (operateAll [.request (.ofClass "a/b/C")] { token := 0 })).1.toOption = none := by
  decide +kernel

end JvmFacts.Registry
