import JvmFacts.Proofs.Session.ResolutionOrder
import JvmFacts.Proofs.Session.Twins

/-!
Twin sessions that resolve the same classes on different schedules. Over a registry that has all that the
classes speak of, nothing is interned and the sessions stay twins; so they do when they declare
applications.
-/

set_option autoImplicit false

namespace JvmFacts

open List

namespace Session

/-! ## Resolving classes over a registry that has it all -/

section

variable {s t : Session} {reader : ClassReader}

theorem registry_makeClass (p : PreparedClass) (s : Session) :
    (makeClass p s).2.registry = s.registry :=
  (makeAll_spec p.methods s).1

theorem registry_readClass (same : t.registry = s.registry) (reader : ClassReader)
    (c : ClassDescriptor) :
    ((readClass reader c).run.run t).2.registry = ((readClass reader c).run.run s).2.registry := by
  unfold readClass
  cases reader c with
  | error fault => exact same
  | ok parsed =>
    unfold resolve
    rw [run_interning_modifyGet, run_interning_modifyGet, same]
    rcases (parsed.prepare c).run.run s.registry with ⟨fault | p, r⟩
    · rfl
    · dsimp only
      rw [registry_makeClass, registry_makeClass]

/-- What a class interns depends on the registry and on whether the class is known. -/
theorem registry_classRecord (same : t.registry = s.registry) {c : ClassDescriptor}
    (known : t.knowsClass c = s.knowsClass c) : ((classRecord reader c).run.run t).2.registry =
      ((classRecord reader c).run.run s).2.registry := by
  unfold knowsClass Table.contains at known
  cases found : s.run.classes.find? c.id with
  | some record =>
    rw [found] at known
    obtain ⟨other, foundToo⟩ := Option.isSome_iff_exists.1 known
    rw [classRecord_of_known found, classRecord_of_known foundToo]
    exact same
  | none =>
    rw [found] at known
    have unknown : t.run.classes.find? c.id = none := Option.not_isSome_iff_eq_none.1 (by simp [known])
    have interned : ∀ {u : Session}, u.run.classes.find? c.id = none →
        ((classRecord reader c).run.run u).2.registry =
          ((readClass reader c).run.run u).2.registry := by
      intro u unknown
      rw [classRecord_of_unknown unknown]
      rcases (readClass reader c).run.run u with ⟨fault | record, v⟩ <;> rfl
    rw [interned found, interned unknown]
    exact registry_readClass same reader c

/-- Work after which the registry holds nothing more than before has not touched it. -/
theorem Repeats.registry_eq {α : Type} {work : Session → α × Session}
    (repeats : Repeats s.registry s work) (within : (work s).2.registry.Extends s.registry) :
    (work s).2.registry = s.registry :=
  congrArg (fun outcome => outcome.2.registry) (repeats.again within s.paths)

/-- Resolving the class interns nothing. -/
def Complete (reader : ClassReader) (s : Session) (c : ClassDescriptor) : Prop :=
  ((classRecord reader c).run.run s).2.registry = s.registry

theorem Complete.congr {c : ClassDescriptor} (complete : Complete reader s c)
    (same : t.registry = s.registry) (known : t.knowsClass c = s.knowsClass c) :
    Complete reader t c :=
  (registry_classRecord same known).trans (complete.trans same.symm)

/-- A complete class leaves the others complete. -/
theorem Complete.others (wf : s.registry.WellFormed) {c d : ClassDescriptor}
    (complete : Complete reader s c) (other : d.id ≠ c.id) :
    Complete reader ((classRecord reader c).run.run s).2 d ↔ Complete reader s d := by
  have known : ((classRecord reader c).run.run s).2.knowsClass d = s.knowsClass d :=
    knowsClass_classRecord wf other
  exact ⟨fun still => still.congr complete.symm known.symm, fun before => before.congr complete known⟩

/-- One class after the other interns nothing if none of them does. -/
theorem registry_resolveAll_iff (wf : s.registry.WellFormed) {classes : List ClassDescriptor}
    (apart : classes.Pairwise Ledger.Apart) :
    ((resolveAll reader classes).run s).2.registry = s.registry ↔
      ∀ c ∈ classes, Complete reader s c := by
  induction classes generalizing s with
  | nil => simp only [not_mem_nil, false_implies, implies_true, iff_true]; rfl
  | cons c rest ih =>
    obtain ⟨others, further⟩ := pairwise_cons.1 apart
    have repeats : Repeats s.registry s (classRecord reader c).run.run :=
      repeats_classRecord wf reader c
    have wfToo := repeats.grows.wellFormed wf
    have run : ((resolveAll reader (c :: rest)).run s).2 =
      ((resolveAll reader rest).run ((classRecord reader c).run.run s).2).2 := rfl
    rw [run, forall_mem_cons]
    constructor
    · intro still
      have first : Complete reader s c := by
        have more : Repeats s.registry _ (resolveAll reader rest).run :=
          repeats_resolveAll wfToo reader rest
        have grows := more.grows
        rw [still] at grows
        exact repeats.registry_eq grows
      have later := (ih wfToo further).1 (still.trans first.symm)
      exact ⟨first, fun d member => (first.others wf (others d member).id.symm).1 (later d member)⟩
    · rintro ⟨first, later⟩
      have still := (ih wfToo further).2 fun d member =>
        (first.others wf (others d member).id.symm).2 (later d member)
      exact still.trans first

end

/-! ## Resolving classes in twin sessions -/

/-- Under its id the record of a kempt session speaks of the registry only. -/
theorem Kempt.speaks {s : Session} (kempt : Kempt s) {id : Nat} {record : ResolvedClass}
    (found : s.run.classes.find? id = some record) : record.descriptor ∈ s.registry.classes ∧
      Speaks s.registry record ∧ ∀ m ∈ record.methods, m.descriptor ∈ s.registry.methods := by
  have fits := (kempt.tidy.classes id record found).2
  refine ⟨fits.named.resolve_left Bool.false_ne_true, fits.speaks, ?_⟩
  intro m member
  exact kempt.orderly.genuine.registered m (Or.inr (kempt.orderly.filed.kept id record found m member))

section

variable {s t : Session} {reader : ClassReader}

/-- Records that read alike by names are the same but for serial numbers. -/
theorem Twins.unnumbered_eq (twins : Twins s t) {one two : Nat} {c d : ResolvedClass}
    (found : s.run.classes.find? one = some c) (foundToo : t.run.classes.find? two = some d)
    (same : s.classAccount c = t.classAccount d) : c.unnumbered = d.unnumbered := by
  obtain ⟨named, speaks, methods⟩ := twins.one.speaks found
  obtain ⟨namedToo, speaksToo, methodsToo⟩ := twins.two.speaks foundToo
  rw [twins.registry] at namedToo speaksToo methodsToo
  exact unnumbered_record_eq_of_account twins.one.orderly.registry named namedToo speaks speaksToo
    methods methodsToo same

/-- After work that belongs to resolving, twins are twins again if registries and ledgers agree. -/
theorem Twins.resolves (twins : Twins s t) {u v : Session} (one : Resolves ⟨false, true⟩ s u)
    (two : Resolves ⟨false, true⟩ t v) (registry : v.registry = u.registry)
    (ledger : v.ledger = u.ledger) : Twins u v := by
  have beside := beside_of_resolves one
  have besideToo := beside_of_resolves two
  refine ⟨beside.toSurrounds.symm.trans (twins.toSurrounds.trans besideToo.toSurrounds), registry,
    ledger, ?_, ?_, twins.one.resolves one, twins.two.resolves two⟩
  · rw [beside.bridges, besideToo.bridges]
    exact twins.targets
  · rw [beside.bridges, besideToo.bridges]
    exact twins.sources

/-- An outcome without the numbers that tell makings apart. -/
def plain (entry : ClassDescriptor × Except Fault ResolvedClass) :
    ClassDescriptor × Except Fault ResolvedClass :=
  (entry.1, entry.2.map ResolvedClass.unnumbered)

theorem enter_plain (applications : List ClassDescriptor) (s : Session)
    (entry : ClassDescriptor × Except Fault ResolvedClass) :
    enter applications s (plain entry) = enter applications s entry := by
  obtain ⟨c, fault | record⟩ := entry <;> rfl

theorem foldl_enter_plain (applications : List ClassDescriptor)
    (entries : List (ClassDescriptor × Except Fault ResolvedClass)) (s : Session) :
    (entries.map plain).foldl (enter applications) s = entries.foldl (enter applications) s := by
  rw [foldl_map]
  congr 1
  funext s entry
  exact enter_plain applications s entry

/-- If the classes can be resolved in one order and nothing is interned, so they can in any other order
and in a twin session. -/
theorem Twins.registry_resolveAll (twins : Twins s t) {order other : List ClassDescriptor}
    (perm : other.Perm order) (distinct : order.Nodup)
    (held : ∀ c ∈ order, c ∈ s.registry.classes)
    (still : ((resolveAll reader order).run s).2.registry = s.registry) :
    ((resolveAll reader other).run t).2.registry = t.registry := by
  have wf := twins.one.orderly.registry
  have apart := apart_of_nodup wf distinct held
  have apartToo := apart_of_nodup wf (perm.nodup_iff.2 distinct) fun c member =>
    held c (perm.mem_iff.1 member)
  have complete := (registry_resolveAll_iff wf apart).1 still
  apply (registry_resolveAll_iff twins.two.orderly.registry apartToo).2
  intro c member
  exact (complete c (perm.mem_iff.1 member)).congr twins.registry (twins.knowsClass c)

/-- What the same classes came to in twin sessions, where nothing was interned. -/
theorem Twins.gathered (twins : Twins s t) {u v : Session}
    {entries others : List (ClassDescriptor × Except Fault ResolvedClass)}
    (one : Gathered ⟨false, true⟩ reader s u entries)
    (two : Gathered ⟨false, true⟩ reader t v others) (registry : v.registry = u.registry) :
    Twins u v ∧ entries.map plain = others.map plain := by
  have named : t.namedClasses = s.namedClasses := by
    unfold namedClasses
    rw [twins.registry]
  have after : Twins u v := by
    apply twins.resolves one.resolves two.resolves registry
    rw [one.ledger, two.ledger, named, twins.ledger]
  have accounts := two.accounts
  rw [named, twins.ledger] at accounts
  refine ⟨after, ?_⟩
  apply map_eq_of_map_eq (one.accounts.trans accounts.symm)
  rintro ⟨c, outcome⟩ member ⟨d, outcomeToo⟩ memberToo same
  obtain ⟨rfl, equal⟩ := Prod.mk.inj same
  cases outcome with
  | error fault =>
    cases outcomeToo with
    | error faultToo => cases equal; rfl
    | ok recordToo => cases equal
  | ok record =>
    cases outcomeToo with
    | error faultToo => cases equal
    | ok recordToo =>
      have found := one.remembered c record member
      have foundToo := two.remembered c recordToo memberToo
      have records := after.unnumbered_eq found foundToo (Except.ok.inj equal)
      exact congrArg (fun r => (c, Except.ok r)) records

/-! ## Declaring application classes -/

theorem Twins.foldl_enter (twins : Twins s t) (applications : List ClassDescriptor)
    (entries : List (ClassDescriptor × Except Fault ResolvedClass)) :
    Twins (entries.foldl (Session.enter applications) s)
      (entries.foldl (Session.enter applications) t) := by
  induction entries generalizing s t with
  | nil => exact twins
  | cons entry rest ih => exact ih (twins.enter applications entry)

theorem Twins.enterAll (twins : Twins s t) (applications : List ClassDescriptor)
    {entries others : List (ClassDescriptor × Except Fault ResolvedClass)}
    (same : entries.map plain = others.map plain) :
    Twins (s.enterAll applications entries) (t.enterAll applications others) := by
  have created : Twins s.createHierarchy t.createHierarchy :=
    twins.modifyDatabases fun d => { d with hierarchy := some (d.hierarchy.getD .empty) }
  have entered := created.foldl_enter applications (entries.map plain)
  rw [foldl_enter_plain, same, foldl_enter_plain] at entered
  unfold Session.enterAll
  dsimp only
  rw [entered.config]
  split
  · exact entered.addLog _ _
  · exact entered

/-- A declaration in twin sessions, where each has its own schedule. -/
theorem Twins.declareApplications (twins : Twins s t) (reader : ClassReader)
    (schedule scheduleToo : Schedule) (applications : List ClassDescriptor)
    (still : ((Session.declareApplications reader schedule applications).run s).2.registry =
      s.registry) :
    Twins ((Session.declareApplications reader schedule applications).run s).2
      ((Session.declareApplications reader scheduleToo applications).run t).2 := by
  have wf := twins.one.orderly.registry
  have perm := s.perm_resolutionOrder schedule
  have permToo := t.perm_resolutionOrder scheduleToo
  have named : t.namedClasses = s.namedClasses := by
    unfold namedClasses
    rw [twins.registry]
  have resolved : ((resolveAll reader (s.resolutionOrder schedule)).run s).2.registry =
      s.registry := by
    have within := refl_of Registry.Extends s.registry
    nth_rewrite 1 [← still] at within
    exact registry_resolveAll_onto wf within s.paths
  have resolvedToo : ((resolveAll reader (t.resolutionOrder scheduleToo)).run t).2.registry =
      t.registry := by
    apply twins.registry_resolveAll (permToo.trans (named ▸ perm.symm))
      (nodup_resolutionOrder wf schedule) _ resolved
    exact fun c member => mem_of_mem_filter (perm.mem_iff.1 member)
  have ahead := internAhead_of_complete resolved
  have aheadToo := internAhead_of_complete resolvedToo
  obtain ⟨after, same⟩ := twins.gathered
    (gathered_resolveKnown twins.one.tidy twins.one.orderly reader schedule)
    (gathered_resolveKnown twins.two.tidy twins.two.orderly reader scheduleToo) <| by
      rw [resolveKnown_run, resolveKnown_run, ahead, aheadToo]
      exact resolvedToo.trans (twins.registry.trans resolved.symm)
  exact after.enterAll applications same

end

end Session

end JvmFacts
