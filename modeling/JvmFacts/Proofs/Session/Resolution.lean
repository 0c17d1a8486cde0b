import Mathlib.Logic.Relation
import JvmFacts.Proofs.Registry.Preparation
import JvmFacts.Proofs.Table
import JvmFacts.Session.Universe

/-!
Resolving classes in a session, taken apart into steps. The records that a session remembers stay in
order at each of them.
-/

set_option autoImplicit false

namespace JvmFacts

open Relation

/-- What a host takes the liberty to do. -/
structure Freedom where
  /-- It passes class descriptors that another registry made. -/
  foreign : Bool
  /-- It asks the database of the current run about methods that the table does not hold. -/
  stray : Bool

namespace Freedom

def MayName (free : Freedom) (r : Registry) (c : ClassDescriptor) : Prop :=
  free.foreign = true ∨ c ∈ r.classes

def MayAsk (free : Freedom) (s : Session) (run : Nat) (m : Method) : Prop :=
  free.stray = true ∨ (run = s.runNumber → s.method? m.descriptor = some m)

theorem MayName.grows {free : Freedom} {r after : Registry} {c : ClassDescriptor}
    (may : free.MayName r c) (grows : r.GrowsSoundly after) : free.MayName after c := by
  rcases may with foreign | held
  · exact Or.inl foreign
  · exact Or.inr (grows.mem_classes held)

end Freedom

namespace Session

/-- The classes and fields that a record speaks of are in the registry. -/
structure Speaks (r : Registry) (record : ResolvedClass) : Prop where
  superclass : ∀ c ∈ record.superclass, c ∈ r.classes
  interfaces : ∀ c ∈ record.interfaces, c ∈ r.classes
  fields : ∀ f ∈ record.fields, f ∈ r.fields

theorem Speaks.grows {r after : Registry} {record : ResolvedClass} (speaks : Speaks r record)
    (grows : r.GrowsSoundly after) : Speaks after record where
  superclass := fun c member => grows.mem_classes (speaks.superclass c member)
  interfaces := fun c member => grows.mem_classes (speaks.interfaces c member)
  fields := fun f member => grows.mem_members (speaks.fields f member)

/-- What a record speaks of is in the registry, and its own class is one that the host may name. -/
structure Fits (free : Freedom) (r : Registry) (record : ResolvedClass) : Prop where
  named : free.MayName r record.descriptor
  speaks : Speaks r record

theorem Fits.grows {free : Freedom} {r after : Registry} {record : ResolvedClass}
    (fits : Fits free r record) (grows : r.GrowsSoundly after) : Fits free after record where
  named := fits.named.grows grows
  speaks := fits.speaks.grows grows

/-- One step of making a class, which no record tells of yet. -/
inductive Making : Session → Session → Prop
  | intern {s : Session} {r : Registry} (grows : s.registry.GrowsSoundly r) :
    Making s { s with registry := r }
  | makeAndKeep {s : Session} {p : PreparedMethod}
    (within : p.Within s.registry) : Making s (s.makeAndKeep p).2
  | countClass {s : Session} : Making s { s with classesMade := s.classesMade + 1 }

abbrev Makes : Session → Session → Prop :=
  ReflTransGen Making

/-- One step of making classes and of remembering their records, whose methods the table has. -/
inductive Resolving (free : Freedom) : Session → Session → Prop
  | making {s t : Session} (step : Making s t) : Resolving free s t
  | remember {s : Session} {record : ResolvedClass} (fits : Fits free s.registry record)
    (kept : ∀ m ∈ record.methods, m ∈ s.run.methods.values) :
    Resolving free s (s.rememberClass record.descriptor record)

abbrev Resolves (free : Freedom) : Session → Session → Prop :=
  ReflTransGen (Resolving free)

/-- The record under an id is that of the class with this id. -/
structure Tidy (free : Freedom) (s : Session) : Prop where
  registry : s.registry.WellFormed
  classes : ∀ id record, s.run.classes.find? id = some record →
    record.descriptor.id = id ∧ Fits free s.registry record

/-! ## What resolving leaves as it is -/

/-- The surroundings of a run are the same: switches, databases, and who is told of what. -/
structure Surrounds (s t : Session) : Prop where
  config : t.config = s.config
  databases : t.run.databases = s.run.databases
  listeners : t.run.listeners = s.run.listeners
  runNumber : t.runNumber = s.runNumber
  reporter : t.reporter = s.reporter
  recorders : t.recorders = s.recorders

/-- Everything of a session that resolving a class has no part in. -/
structure Beside (s t : Session) : Prop extends Surrounds s t where
  bridges : t.run.bridges = s.run.bridges

theorem Surrounds.refl (s : Session) : Surrounds s s :=
  ⟨rfl, rfl, rfl, rfl, rfl, rfl⟩

theorem Surrounds.symm {s t : Session} (same : Surrounds s t) : Surrounds t s :=
  ⟨same.config.symm, same.databases.symm, same.listeners.symm, same.runNumber.symm,
    same.reporter.symm, same.recorders.symm⟩

theorem Surrounds.trans {s t u : Session} (one : Surrounds s t) (two : Surrounds t u) :
    Surrounds s u :=
  ⟨two.config.trans one.config, two.databases.trans one.databases,
    two.listeners.trans one.listeners, two.runNumber.trans one.runNumber,
    two.reporter.trans one.reporter, two.recorders.trans one.recorders⟩

theorem Beside.refl (s : Session) : Beside s s :=
  ⟨.refl s, rfl⟩

theorem Beside.symm {s t : Session} (beside : Beside s t) : Beside t s :=
  ⟨beside.toSurrounds.symm, beside.bridges.symm⟩

theorem Beside.trans {s t u : Session} (one : Beside s t) (two : Beside t u) : Beside s u :=
  ⟨one.toSurrounds.trans two.toSurrounds, two.bridges.trans one.bridges⟩

theorem keepMethod_frame (m : Method) (s : Session) : ∃ methods,
    (s.keepMethod m).2 = { s with run := { s.run with methods } } := by
  unfold keepMethod
  split
  · exact ⟨s.run.methods, rfl⟩
  · exact ⟨_, rfl⟩

theorem makeAndKeep_frame (p : PreparedMethod) (s : Session) : ∃ methods,
    (s.makeAndKeep p).2 = { (s.makeMethod p).2 with run := { (s.makeMethod p).2.run with methods } } :=
  keepMethod_frame (s.makeMethod p).1 (s.makeMethod p).2

section

variable (p : PreparedMethod) (s : Session)

theorem registry_makeAndKeep : (s.makeAndKeep p).2.registry = s.registry := by
  obtain ⟨methods, same⟩ := makeAndKeep_frame p s
  rw [same]
  rfl

theorem facts_makeAndKeep : (s.makeAndKeep p).2.run.facts = s.run.facts.record p := by
  obtain ⟨methods, same⟩ := makeAndKeep_frame p s
  rw [same]
  rfl

theorem classes_makeAndKeep : (s.makeAndKeep p).2.run.classes = s.run.classes := by
  obtain ⟨methods, same⟩ := makeAndKeep_frame p s
  rw [same]
  rfl

end

section

variable {free : Freedom} {s t : Session}

theorem Making.grows (step : Making s t) : s.registry.GrowsSoundly t.registry := by
  cases step with
  | intern grows => exact grows
  | @makeAndKeep p within =>
    rw [registry_makeAndKeep]
    exact refl_of Registry.GrowsSoundly s.registry
  | countClass => exact refl_of Registry.GrowsSoundly s.registry

theorem Making.classes (step : Making s t) : t.run.classes = s.run.classes := by
  cases step with
  | intern grows => rfl
  | @makeAndKeep p within => exact classes_makeAndKeep p s
  | countClass => rfl

theorem Making.beside (step : Making s t) : Beside s t := by
  cases step with
  | intern grows => exact ⟨⟨rfl, rfl, rfl, rfl, rfl, rfl⟩, rfl⟩
  | @makeAndKeep p within =>
    obtain ⟨methods, kept⟩ := makeAndKeep_frame p s
    rw [kept]
    exact ⟨⟨rfl, rfl, rfl, rfl, rfl, rfl⟩, rfl⟩
  | countClass => exact ⟨⟨rfl, rfl, rfl, rfl, rfl, rfl⟩, rfl⟩

theorem Resolving.grows (step : Resolving free s t) : s.registry.GrowsSoundly t.registry := by
  cases step with
  | making step => exact step.grows
  | remember fits kept => exact refl_of Registry.GrowsSoundly s.registry

theorem Resolving.beside (step : Resolving free s t) : Beside s t := by
  cases step with
  | making step => exact step.beside
  | remember fits kept => exact ⟨⟨rfl, rfl, rfl, rfl, rfl, rfl⟩, rfl⟩

theorem Tidy.resolving (tidy : Tidy free s) (step : Resolving free s t) : Tidy free t where
  registry := step.grows.wellFormed tidy.registry
  classes := by
    intro id record found
    have kept : s.run.classes.find? id = some record →
        record.descriptor.id = id ∧ Fits free t.registry record := by
      intro before
      obtain ⟨named, fits⟩ := tidy.classes id record before
      exact ⟨named, fits.grows step.grows⟩
    cases step with
    | making step =>
      rw [step.classes] at found
      exact kept found
    | @remember other fits kept =>
      have inserted := (Table.find?_insert other.descriptor.id id other s.run.classes).symm.trans found
      by_cases same : other.descriptor.id = id
      · rw [if_pos same] at inserted
        obtain rfl := Option.some.inj inserted
        exact ⟨same, fits⟩
      · rw [if_neg same] at inserted
        exact kept inserted

theorem grows_of_resolves (steps : Resolves free s t) : s.registry.GrowsSoundly t.registry := by
  induction steps with
  | refl => exact refl_of Registry.GrowsSoundly s.registry
  | tail _ step ih => exact trans_of Registry.GrowsSoundly ih step.grows

theorem Tidy.resolves (tidy : Tidy free s) (steps : Resolves free s t) : Tidy free t := by
  induction steps with
  | refl => exact tidy
  | tail _ step ih => exact ih.resolving step

theorem beside_of_resolves (steps : Resolves free s t) : Beside s t := by
  induction steps with
  | refl => exact .refl s
  | tail _ step ih => exact ih.trans step.beside

theorem grows_of_makes (steps : Makes s t) : s.registry.GrowsSoundly t.registry := by
  induction steps with
  | refl => exact refl_of Registry.GrowsSoundly s.registry
  | tail _ step ih => exact trans_of Registry.GrowsSoundly ih step.grows

theorem classes_of_makes (steps : Makes s t) : t.run.classes = s.run.classes := by
  induction steps with
  | refl => rfl
  | tail _ step ih => exact step.classes.trans ih

theorem resolves_of_makes (steps : Makes s t) : Resolves free s t :=
  ReflTransGen.mono (fun _ _ step => Resolving.making step) _ _ steps

/-! ## What resolving is made of -/

theorem yields_interning {α : Type} {work : Interning α} {post : Registry → α → Prop}
    (yields : Work.Yields Registry.GrowsSoundly s.registry work post) :
    Work.Yields Makes s (interning work) fun t a => post t.registry a where
  steps := .single (.intern yields.steps)
  post := yields.post

/-- Making something out of what was interned cannot fail. -/
theorem run_interning_modifyGet {α β : Type} (work : Interning α) (make : α → Session → β × Session)
    (s : Session) :
    (interning work >>= fun p => modifyGet (make p) : Working β).run.run s =
      match work.run.run s.registry with
      | (.ok p, r) => (.ok (make p { s with registry := r }).1, (make p { s with registry := r }).2)
      | (.error fault, r) => (.error fault, { s with registry := r }) := by
  rw [Work.run_bind, interning_run]
  rcases work.run.run s.registry with ⟨fault | p, r⟩ <;> rfl

/-- What fits every method that comes of preparing the draft fits the one that is built. -/
theorem body_of_buildMethod {d : MethodDraft} {s t : Session} {m : Method}
    (fits : MethodBody → Prop) (gives : Work.Gives s.registry d.prepare fun p => fits p.body)
    (built : (buildMethod d).run.run s = (.ok m, t)) : fits m.toMethodBody := by
  unfold buildMethod at built
  rw [run_interning_modifyGet] at built
  rcases prepared : d.prepare.run.run s.registry with ⟨fault | p, r⟩ <;> rw [prepared] at built
  · cases built
  · cases built
    exact gives.of_ok prepared

theorem makes_makeAll (prepared : List PreparedMethod) (s : Session)
    (within : ∀ p ∈ prepared, p.Within s.registry) : Makes s (makeAll prepared s).2 := by
  induction prepared generalizing s with
  | nil => exact .refl
  | cons p rest ih =>
    have first : Making s (s.makeAndKeep p).2 := .makeAndKeep (within p (List.mem_cons_self ..))
    apply ReflTransGen.head first
    apply ih
    intro other member
    exact (within other (List.mem_cons_of_mem _ member)).grows first.grows

/-- What the table answers after a method was made and kept. -/
theorem method?_makeAndKeep (p : PreparedMethod) (s : Session) (descriptor : MethodDescriptor) :
    (s.makeAndKeep p).2.method? descriptor = (s.method? descriptor).or
      (if p.body.descriptor = descriptor then some (s.makeMethod p).1 else none) :=
  method?_keepMethod (s.makeMethod p).1 (s.makeMethod p).2 descriptor

/-- The method that is handed on is the one that the table has now. -/
theorem method?_keepMethod_self (m : Method) (s : Session) :
    (s.keepMethod m).2.method? m.descriptor = some (s.keepMethod m).1 := by
  unfold keepMethod
  split
  · rename_i held found
    exact found
  · unfold method?
    dsimp only
    rw [Table.find?_insert, if_pos rfl]

theorem makeAll_cons (p : PreparedMethod) (rest : List PreparedMethod) (s : Session) :
    makeAll (p :: rest) s =
      ((s.makeAndKeep p).1 :: (makeAll rest (s.makeAndKeep p).2).1,
        (makeAll rest (s.makeAndKeep p).2).2) :=
  rfl

/-- What the table has stays there while more methods are made. -/
theorem method?_makeAll (prepared : List PreparedMethod) {s : Session}
    {descriptor : MethodDescriptor} {m : Method} (held : s.method? descriptor = some m) :
    (makeAll prepared s).2.method? descriptor = some m := by
  induction prepared generalizing s with
  | nil => exact held
  | cons p rest ih =>
    rw [makeAll_cons]
    apply ih
    rw [method?_makeAndKeep, held, Option.some_or]

/-- The methods of a class are those that the table has for them in the end. -/
theorem method?_of_makeAll (prepared : List PreparedMethod) (s : Session) :
    List.Forall₂ (fun p m => (makeAll prepared s).2.method? p.body.descriptor = some m)
      prepared (makeAll prepared s).1 := by
  induction prepared generalizing s with
  | nil => exact .nil
  | cons p rest ih =>
    have here : (s.makeAndKeep p).2.method? p.body.descriptor = some (s.makeAndKeep p).1 :=
      method?_keepMethod_self (s.makeMethod p).1 (s.makeMethod p).2
    rw [makeAll_cons]
    exact .cons (method?_makeAll rest here) (ih (s.makeAndKeep p).2)

theorem mem_methods_makeAll (prepared : List PreparedMethod) (s : Session) :
    ∀ m ∈ (makeAll prepared s).1, m ∈ (makeAll prepared s).2.run.methods.values := by
  intro m member
  obtain ⟨p, -, held⟩ := exists_of_mem_right (method?_of_makeAll prepared s) member
  exact Table.mem_values_of_find? held

theorem yields_resolve (wf : s.registry.WellFormed) (c : ClassDescriptor) (parsed : ParsedClass) :
    Work.Yields Makes s (resolve c parsed) fun t record => record.descriptor = c ∧
      Speaks t.registry record ∧ ∀ m ∈ record.methods, m ∈ t.run.methods.values := by
  unfold resolve
  apply Work.Yields.bind (yields_interning (ParsedClass.yields_prepare wf c parsed))
  intro p t _ fits
  have within : ∀ m ∈ p.methods, m.Within t.registry := by
    intro m member
    obtain ⟨d, -, prepares⟩ := exists_of_mem_right fits.methods member
    exact prepares.within
  have made : Makes t (makeAll p.methods t).2 := makes_makeAll p.methods t within
  have grows := grows_of_makes made
  apply Work.Yields.modifyGet
  · exact made.tail .countClass
  · have speaks : Speaks t.registry (makeClass p t).1 :=
      ⟨fits.mem_superclass, fits.mem_interfaces, fits.mem_fields⟩
    exact ⟨fits.descriptor, speaks.grows grows, mem_methods_makeAll p.methods t⟩

theorem yields_readClass (wf : s.registry.WellFormed) (reader : ClassReader) (c : ClassDescriptor) :
    Work.Yields Makes s (readClass reader c) fun t record => record.descriptor = c ∧
      Speaks t.registry record ∧ ∀ m ∈ record.methods, m ∈ t.run.methods.values := by
  unfold readClass
  cases reader c with
  | error fault => exact Work.Yields.throw fault
  | ok parsed => exact yields_resolve wf c parsed

theorem yields_classRecord (tidy : Tidy free s) {c : ClassDescriptor}
    (named : free.MayName s.registry c) (reader : ClassReader) :
    Work.Yields (Resolves free) s (classRecord reader c) fun t record =>
      ∀ x ∈ record.superclass, x ∈ t.registry.classes := by
  unfold classRecord
  apply Work.Yields.get_bind
  cases found : s.run.classes.find? c.id with
  | some known => exact Work.Yields.pure (tidy.classes c.id known found).2.speaks.superclass
  | none =>
    have read : Work.Yields (Resolves free) s (readClass reader c) _ :=
      (yields_readClass tidy.registry reader c).lift fun _ _ => resolves_of_makes
    apply Work.Yields.bind (read.adapt _)
    intro fresh t resolves made
    obtain ⟨rfl, speaks, kept⟩ := made
    have fits : Fits free t.registry fresh := ⟨named.grows (grows_of_resolves resolves), speaks⟩
    apply Work.Yields.bind (Work.Yields.modify (.single (.remember fits kept)))
    intro _ u _ remembered
    subst remembered
    exact Work.Yields.pure speaks.superclass

theorem classRecord_run (reader : ClassReader) (c : ClassDescriptor) (s : Session) :
    (classRecord reader c).run.run s =
      (match s.run.classes.find? c.id with
        | some known => (pure known : Working ResolvedClass)
        | none => do
          let fresh ← ExceptT.adapt (Fault.unavailable c.name) (readClass reader c)
          modify (rememberClass c fresh)
          pure fresh).run.run s :=
  rfl

theorem classRecord_of_known {reader : ClassReader} {c : ClassDescriptor} {record : ResolvedClass}
    (known : s.run.classes.find? c.id = some record) :
    (classRecord reader c).run.run s = (.ok record, s) := by
  rw [classRecord_run, known]
  rfl

theorem classRecord_of_unknown {reader : ClassReader} {c : ClassDescriptor}
    (unknown : s.run.classes.find? c.id = none) :
    (classRecord reader c).run.run s =
      match (readClass reader c).run.run s with
      | (.ok record, t) => (.ok record, t.rememberClass c record)
      | (.error fault, t) => (.error (fault.unavailable c.name), t) := by
  rw [classRecord_run, unknown]
  dsimp only
  rw [Work.run_bind, Work.run_adapt]
  rcases (readClass reader c).run.run s with ⟨fault | record, t⟩ <;> rfl

theorem resolveAll_cons (reader : ClassReader) (c : ClassDescriptor) (rest : List ClassDescriptor)
    (s : Session) : ((resolveAll reader (c :: rest)).run s).1 =
      (c, ((classRecord reader c).run.run s).1) ::
        ((resolveAll reader rest).run ((classRecord reader c).run.run s).2).1 :=
  rfl

theorem resolves_resolveAll (reader : ClassReader) (classes : List ClassDescriptor)
    (tidy : Tidy free s) (named : ∀ c ∈ classes, free.MayName s.registry c) :
    Resolves free s ((resolveAll reader classes).run s).2 := by
  induction classes generalizing s with
  | nil => exact .refl
  | cons c rest ih =>
    have first := (yields_classRecord tidy (named c (List.mem_cons_self ..)) reader).steps
    have further := ih (tidy.resolves first) fun d member =>
      (named d (List.mem_cons_of_mem _ member)).grows (grows_of_resolves first)
    exact first.trans further

end

end Session

end JvmFacts
