import JvmFacts.Method.Basic
import JvmFacts.Proofs.Method.Steps
import JvmFacts.Proofs.Work

/-!
The annotation tables that a scanner fills. Each annotation stands under its own class, each class
once; and annotations of different classes, or in different slots, may come in any order, which shows
in the order of the table only.
-/

set_option autoImplicit false

namespace JvmFacts

open List

/-! ## Tables as they come about -/

/-- Each annotation stands under its class, and no class has two. -/
structure AnnotationTable.Proper (t : AnnotationTable) : Prop where
  labelled : ∀ e ∈ t, e.2.type = e.1
  distinct : (Table.keys t).Nodup

theorem AnnotationTable.proper_nil : AnnotationTable.Proper [] where
  labelled := fun _ none => absurd none not_mem_nil
  distinct := nodup_nil

theorem AnnotationTable.Proper.add {t : AnnotationTable} (proper : t.Proper) (a : Annotation) :
    (AnnotationTable.add t a).Proper where
  labelled := by
    intro e member
    rcases Table.mem_insert member with rfl | before
    · rfl
    · exact proper.labelled e before
  distinct := Table.nodup_keys_insert proper.distinct

namespace MethodAnnotations

/-- An annotation that is added is the only one that changes, and in its own slot only. -/
theorem inSlot_add (a : MethodAnnotations) (slot other : Slot) (added : Annotation) :
    (a.add slot added).inSlot other =
      if slot = other then AnnotationTable.add (a.inSlot other) added else a.inSlot other := by
  cases slot with
  | none =>
    cases other with
    | none => rfl
    | some parameter => rfl
  | some parameter =>
    cases other with
    | none => rfl
    | some further =>
      have written := Table.find?_insert parameter further
        (AnnotationTable.add (ParameterTable.of a.parameters parameter) added) a.parameters
      unfold add inSlot ParameterTable.add
      dsimp only
      rw [ParameterTable.of, written]
      by_cases same : parameter = further
      · subst same
        rw [if_pos rfl, if_pos rfl, Option.getD_some]
      · have apart : some parameter ≠ some further := fun eq => same (Option.some.inj eq)
        rw [if_neg same, if_neg apart]
        rfl

def Proper (a : MethodAnnotations) : Prop :=
  ∀ slot, (a.inSlot slot).Proper

theorem proper_empty : empty.Proper := by
  intro slot
  cases slot <;> exact AnnotationTable.proper_nil

theorem Proper.add {a : MethodAnnotations} (proper : a.Proper) (slot : Slot) (added : Annotation) :
    (a.add slot added).Proper := by
  intro other
  rw [inSlot_add]
  split
  · exact (proper other).add added
  · exact proper other

/-! ## Adding in one order or another -/

def addAll (a : MethodAnnotations) (additions : List (Slot × Annotation)) : MethodAnnotations :=
  additions.foldl (fun a e => a.add e.1 e.2) a

/-- No annotation replaces another. -/
def OneEach (additions : List (Slot × Annotation)) : Prop :=
  (additions.map fun e => (e.1, e.2.type)).Nodup

/-- The same annotations in each slot, however they are enumerated. -/
def Alike (a b : MethodAnnotations) : Prop :=
  ∀ slot, (a.inSlot slot).Perm (b.inSlot slot)

section

variable {additions : List (Slot × Annotation)} {a : MethodAnnotations}

theorem Proper.addAll (proper : a.Proper) (additions : List (Slot × Annotation)) :
    (a.addAll additions).Proper := by
  induction additions generalizing a with
  | nil => exact proper
  | cons e rest ih => exact ih (proper.add e.1 e.2)

theorem find?_addAll_of_not_mem {slot : Slot} {type : ClassDescriptor}
    (absent : (slot, type) ∉ additions.map fun e => (e.1, e.2.type)) :
    ((a.addAll additions).inSlot slot).find? type = (a.inSlot slot).find? type := by
  induction additions generalizing a with
  | nil => rfl
  | cons e rest ih =>
    obtain ⟨other, later⟩ := not_or.1 (mt mem_cons.2 absent)
    have first : ¬ (e.1 = slot ∧ e.2.type = type) := fun ⟨here, same⟩ =>
      other (Prod.ext here.symm same.symm)
    have step := find?_inSlot_add a e.1 slot e.2 type
    rw [if_neg first] at step
    exact (ih later).trans step

/-- Where nothing is replaced, what was added is found. -/
theorem find?_addAll_of_mem (distinct : OneEach additions) {slot : Slot} {added : Annotation}
    (member : (slot, added) ∈ additions) :
    ((a.addAll additions).inSlot slot).find? added.type = some added := by
  induction additions generalizing a with
  | nil => cases member
  | cons e rest ih =>
    obtain ⟨once, others⟩ := nodup_cons.1 distinct
    rcases mem_cons.1 member with rfl | later
    · have step := find?_inSlot_add a slot slot added added.type
      rw [if_pos ⟨rfl, rfl⟩] at step
      exact (find?_addAll_of_not_mem once).trans step
    · exact ih others later

theorem Proper.alike_addAll (proper : a.Proper) {first second : List (Slot × Annotation)}
    (distinct : OneEach first) (perm : first.Perm second) :
    (a.addAll first).Alike (a.addAll second) := by
  have keys := perm.map fun e : Slot × Annotation => (e.1, e.2.type)
  have distinct' : OneEach second := keys.nodup_iff.1 distinct
  intro slot
  apply Table.perm_of_find? (proper.addAll first slot).distinct (proper.addAll second slot).distinct
  intro type
  by_cases brought : (slot, type) ∈ first.map fun e => (e.1, e.2.type)
  · obtain ⟨⟨place, added⟩, member, same⟩ := mem_map.1 brought
    obtain ⟨rfl, rfl⟩ := Prod.mk.inj same
    rw [find?_addAll_of_mem distinct member, find?_addAll_of_mem distinct' (perm.mem_iff.1 member)]
  · rw [find?_addAll_of_not_mem brought, find?_addAll_of_not_mem (mt keys.mem_iff.2 brought)]

end

end MethodAnnotations

/-! ## The tables of a draft -/

/-- The annotation that a step adds, if any. -/
def DraftStep.addition? : DraftStep → Option (Slot × Annotation)
  | .annotate a => some (none, a)
  | .annotateParameter parameter a => some (some parameter, a)
  | _ => none

namespace MethodDraft

def tables (d : MethodDraft) : MethodAnnotations :=
  ⟨d.annotations, d.parameterAnnotations⟩

theorem tables_apply (d : MethodDraft) (step : DraftStep) :
    (d.apply step).tables = step.addition?.elim d.tables fun e => d.tables.add e.1 e.2 := by
  cases step <;> rfl

theorem tables_applyAll (d : MethodDraft) (steps : List DraftStep) :
    (d.applyAll steps).tables = d.tables.addAll (steps.filterMap DraftStep.addition?) := by
  induction steps generalizing d with
  | nil => rfl
  | cons step rest ih =>
    rw [applyAll_cons, ih, tables_apply]
    cases adds : step.addition? with
    | none => rw [filterMap_cons_none adds, Option.elim_none]
    | some e => rw [filterMap_cons_some adds, Option.elim_some]; rfl

/-- The draft is what a scanner gathered in some steps. -/
def Scanned (d : MethodDraft) : Prop :=
  ∃ className name signature flags steps,
    d = applyAll { className, name, signature, flags } steps

theorem Scanned.proper {d : MethodDraft} (scanned : d.Scanned) : d.tables.Proper := by
  obtain ⟨className, name, signature, flags, steps, rfl⟩ := scanned
  rw [tables_applyAll]
  exact MethodAnnotations.proper_empty.addAll _

end MethodDraft

/-! ## Annotations seen in another order -/

/-- The steps that add no annotation. -/
def DraftStep.addsNone (step : DraftStep) : Bool :=
  step.addition?.isNone

namespace MethodDraft

/-- The one draft is the other but for its annotations, and for whether it is taken for an identity,
which goes by them. -/
def DiffersInTables (d e : MethodDraft) : Prop :=
  ∃ isIdentity annotations parameterAnnotations,
    e = { d with isIdentity, annotations, parameterAnnotations }

section

variable {d e f : MethodDraft}

theorem DiffersInTables.symm (differs : d.DiffersInTables e) : e.DiffersInTables d := by
  obtain ⟨isIdentity, annotations, parameterAnnotations, rfl⟩ := differs
  exact ⟨d.isIdentity, d.annotations, d.parameterAnnotations, rfl⟩

theorem DiffersInTables.trans (first : d.DiffersInTables e) (second : e.DiffersInTables f) :
    d.DiffersInTables f := by
  obtain ⟨_, _, _, rfl⟩ := first
  obtain ⟨isIdentity, annotations, parameterAnnotations, rfl⟩ := second
  exact ⟨isIdentity, annotations, parameterAnnotations, rfl⟩

theorem DiffersInTables.apply (differs : d.DiffersInTables e) (step : DraftStep) :
    (d.apply step).DiffersInTables (e.apply step) := by
  obtain ⟨_, _, _, rfl⟩ := differs
  cases step <;> exact ⟨_, _, _, rfl⟩

theorem differsInTables_apply {step : DraftStep} (adds : ¬ step.addsNone) :
    d.DiffersInTables (d.apply step) := by
  cases step with
  | annotate a => exact ⟨d.isIdentity, _, _, rfl⟩
  | annotateParameter parameter a => exact ⟨d.isIdentity, _, _, rfl⟩
  | _ => exact absurd rfl adds

/-- What else is seen of a method does not go by its annotations. -/
theorem DiffersInTables.applyAll (differs : d.DiffersInTables e) (steps : List DraftStep) :
    (d.applyAll (steps.filter DraftStep.addsNone)).DiffersInTables (e.applyAll steps) := by
  induction steps generalizing d e with
  | nil => exact differs
  | cons step rest ih =>
    by_cases none : step.addsNone
    · rw [filter_cons_of_pos none, applyAll_cons, applyAll_cons]
      exact ih (differs.apply step)
    · rw [filter_cons_of_neg none, applyAll_cons]
      exact ih (differs.trans (differsInTables_apply none))

/-- Two ways to read a method that differ in when its annotations were seen. -/
structure SameSights (first second : List DraftStep) : Prop where
  others : first.filter DraftStep.addsNone = second.filter DraftStep.addsNone
  additions : (first.filterMap DraftStep.addition?).Perm (second.filterMap DraftStep.addition?)
  distinct : MethodAnnotations.OneEach (first.filterMap DraftStep.addition?)

variable {first second : List DraftStep}

theorem SameSights.differsInTables (same : SameSights first second) (d : MethodDraft) :
    (d.applyAll first).DiffersInTables (d.applyAll second) := by
  have itself : d.DiffersInTables d := ⟨d.isIdentity, d.annotations, d.parameterAnnotations, rfl⟩
  have one := itself.applyAll first
  have two := itself.applyAll second
  rw [same.others] at one
  exact one.symm.trans two

theorem SameSights.alike (same : SameSights first second) (proper : d.tables.Proper) :
    (d.applyAll first).tables.Alike (d.applyAll second).tables := by
  rw [tables_applyAll, tables_applyAll]
  exact proper.alike_addAll same.distinct same.additions

end

end MethodDraft

/-! ## What preparing hands on -/

def PreparedMethod.tables (p : PreparedMethod) : MethodAnnotations :=
  ⟨p.annotations, p.parameterAnnotations⟩

/-- The descriptor is what interning the method gives, and all else that is interned changes nothing
about the marks and the annotations, which are those of the draft. -/
theorem MethodDraft.gives_prepare_of_internMethod (d : MethodDraft) {r : Registry}
    {fits : MethodDescriptor → Prop}
    (interned : Work.Gives r (Registry.internMethod d.className d.name d.signature d.isStatic) fits) :
    Work.Gives r d.prepare fun p => fits p.body.descriptor ∧
      p.body.syntheticParameters = d.syntheticMask ∧ p.tables = d.tables := by
  unfold prepare
  apply Work.Yields.bind interned
  intro descriptor r₁ _ given
  apply Work.Yields.bind (Work.gives_anything r₁ _)
  intro forwardsTo r₂ _ _
  apply Work.Yields.bind (Work.gives_anything r₂ _)
  intro accesses r₃ _ _
  apply Work.Yields.bind (Work.gives_anything r₃ _)
  intro exceptions r₄ _ _
  apply Work.Yields.bind (Work.gives_anything r₄ _)
  intro sourceSignature r₅ _ _
  exact Work.Yields.pure ⟨given, rfl, rfl⟩

theorem MethodDraft.gives_prepare (d : MethodDraft) (r : Registry) :
    Work.Gives r d.prepare fun p =>
      p.body.syntheticParameters = d.syntheticMask ∧ p.tables = d.tables := by
  have gives := d.gives_prepare_of_internMethod (Work.gives_anything r _)
  exact gives.mono fun _ _ _ prepared => prepared.2

/-- Interning is the same whatever annotations there are. -/
theorem MethodDraft.DiffersInTables.prepare_eq {d e : MethodDraft} (differs : d.DiffersInTables e) :
    e.prepare = (fun p => { p with
      isIdentity := e.isIdentity
      annotations := e.annotations
      parameterAnnotations := e.parameterAnnotations }) <$> d.prepare := by
  obtain ⟨isIdentity, annotations, parameterAnnotations, rfl⟩ := differs
  unfold prepare
  simp only [map_bind, map_pure]
  rfl

end JvmFacts
