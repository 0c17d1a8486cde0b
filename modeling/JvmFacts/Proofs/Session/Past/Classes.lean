import JvmFacts.Proofs.Session.Past.Methods

/-!
Resolving classes in a session with a past, and what depends on its class path.
-/

set_option autoImplicit false

namespace JvmFacts.Past

variable {p : Past}

theorem agrees_interning {α : Type} (work : Interning α) :
    p.Agrees id (Session.interning work) (Session.interning work) := by
  intro s t before
  rw [Session.interning_run, Session.interning_run, before.registry]
  refine ⟨?_, before.withRegistry _⟩
  exact (congrFun Except.map_id _).symm

theorem Before.makeClass {s t : Session} (before : p.Before s t) (x : PreparedClass) :
    p.Matches p.record (Session.makeClass x s) (Session.makeClass x t) := by
  obtain ⟨made, still⟩ := before.makeAll x.methods
  have classesMade := still.classesMade
  unfold Session.makeClass
  dsimp only
  constructor
  · dsimp only
    rw [made, classesMade]
    rfl
  · refine { still with classesMade := ?_ }
    change (Session.makeAll x.methods t).2.classesMade + 1 =
      (Session.makeAll x.methods s).2.classesMade + 1 + p.classes
    omega

theorem agrees_resolve (c : ClassDescriptor) (parsed : ParsedClass) :
    p.Agrees p.record (Session.resolve c parsed) (Session.resolve c parsed) := by
  unfold Session.resolve
  apply (agrees_interning (parsed.prepare c)).bind
  exact fun x => Agrees.modifyGet fun s t before => before.makeClass x

theorem agrees_readClass (reader : ClassReader) (c : ClassDescriptor) :
    p.Agrees p.record (Session.readClass reader c) (Session.readClass reader c) := by
  unfold Session.readClass
  cases reader c with
  | error fault => exact Agrees.throw p.record fault
  | ok parsed => exact agrees_resolve c parsed

theorem Before.rememberClass {s t : Session} (before : p.Before s t) (c : ClassDescriptor)
    (record : ResolvedClass) :
    p.Before (s.rememberClass c record) (t.rememberClass c (p.record record)) := by
  apply before.withRun
  rw [before.run]
  exact congrArg (fun classes => ({ p.run s.run with classes } : Run))
    (Table.insert_mapValues p.record c.id record s.run.classes)

theorem agrees_classRecord (reader : ClassReader) (c : ClassDescriptor) :
    p.Agrees p.record (Session.classRecord reader c) (Session.classRecord reader c) := by
  intro s t before
  have found := before.findClass c.id
  rw [Session.classRecord_run, Session.classRecord_run, found]
  cases s.run.classes.find? c.id with
  | some known => exact Agrees.pure p.record known s t before
  | none =>
    have read := (agrees_readClass (p := p) reader c).adapt (Fault.unavailable c.name)
    apply read.bind _ s t before
    intro fresh s t before
    exact ⟨rfl, before.rememberClass c fresh⟩

theorem Before.rememberDepth {s t : Session} (before : p.Before s t) (c : ClassDescriptor)
    (depth : Nat) : p.Matches id (s.rememberDepth c depth) (t.rememberDepth c depth) := by
  unfold Session.rememberDepth
  rw [before.findDepth]
  cases s.run.depths.find? c.id with
  | some known => exact ⟨rfl, before⟩
  | none =>
    refine ⟨rfl, before.withRun ?_⟩
    rw [before.run]
    rfl

theorem agrees_depthWithin (reader : ClassReader) (steps : Nat) (c : ClassDescriptor) :
    p.Agrees id (Session.depthWithin reader steps c) (Session.depthWithin reader steps c) := by
  induction steps generalizing c with
  | zero => exact Agrees.throw id _
  | succ steps ih =>
    intro s t before
    unfold Session.depthWithin
    rw [Work.run_get_bind, Work.run_get_bind, before.findDepth]
    cases s.run.depths.find? c.id with
    | some known => exact Agrees.pure id known s t before
    | none =>
      refine Agrees.bind (f := id) (.adapt _ ((agrees_classRecord reader c).bind ?_)) ?_ s t before
      · intro record
        have same : (p.record record).superclass = record.superclass := rfl
        rw [same]
        cases record.superclass with
        | none => exact Agrees.pure id 0
        | some parent => exact (ih parent).bind fun depth => Agrees.pure id (depth + 1)
      · exact fun depth => Agrees.modifyGet fun s t before => before.rememberDepth c depth

theorem agrees_lookup (reader : ClassReader) (name : String) :
    p.Agrees p.record (Session.lookup reader name) (Session.lookup reader name) := by
  rcases Session.lookup_cases reader name with ⟨-, fault, turned⟩ | ⟨-, wrap, sought⟩
  · rw [turned]
    exact Agrees.throw p.record fault
  · rw [sought]
    have found := (agrees_interning (p := p) (Registry.internClass (Name.slashed name))).bind
      fun c => agrees_classRecord reader c
    exact found.adapt wrap

theorem agrees_buildMethod (d : MethodDraft) :
    p.Agrees p.method (Session.buildMethod d) (Session.buildMethod d) := by
  unfold Session.buildMethod
  apply (agrees_interning d.prepare).bind
  exact fun x => Agrees.modifyGet fun s t before => before.makeMethod x

theorem Before.paths_cases {s t : Session} (before : p.Before s t) :
    (s.paths = .fixed ∧ t.paths = .fixed) ∨
      ∃ names more, s.paths = .entries names ∧ t.paths = .entries more := by
  have kinds := before.paths
  cases held : s.paths with
  | fixed =>
    cases later : t.paths with
    | fixed => exact Or.inl ⟨rfl, rfl⟩
    | entries more =>
      rw [held, later] at kinds
      cases kinds
  | entries names =>
    cases later : t.paths with
    | fixed =>
      rw [held, later] at kinds
      cases kinds
    | entries more => exact Or.inr ⟨names, more, rfl, rfl⟩

theorem agrees_addEntry (entry : String) :
    p.Agrees id (Session.addEntry entry) (Session.addEntry entry) := by
  intro s t before
  unfold Session.addEntry
  rw [Work.run_get_bind, Work.run_get_bind]
  rcases before.paths_cases with ⟨held, later⟩ | ⟨names, more, held, later⟩
  · rw [held, later]
    exact Agrees.throw id _ s t before
  · have keeps : t.paths.keepsEntries = true := by
      rw [later]
      rfl
    rw [held, later]
    by_cases empty : entry.isEmpty = true
    · simp only [if_pos empty]
      exact Agrees.throw id _ s t before
    · simp only [if_neg empty]
      constructor
      · split <;> split <;> rfl
      · split <;> split
        · exact { before with paths := rfl }
        · exact { before with paths := keeps }
        · exact { before with paths := before.paths.symm.trans keeps |>.symm }
        · exact before

theorem agrees_clearClassCache :
    p.Agrees id Session.clearClassCache Session.clearClassCache := by
  intro s t before
  unfold Session.clearClassCache
  rw [Work.run_get_bind, Work.run_get_bind]
  rcases before.paths_cases with ⟨held, later⟩ | ⟨names, more, held, later⟩ <;> rw [held, later]
  · exact Agrees.throw id _ s t before
  · exact ⟨rfl, before.purgeClasses⟩
end JvmFacts.Past
