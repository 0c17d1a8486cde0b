import JvmFacts.Proofs.Session.Builds
import JvmFacts.Proofs.Session.Repetition

/-!
What a session does, told by what it builds: single methods, whole classes, or nothing. Whatever it
does short of a reset, the table keeps the methods that it has, databases that are loaded stay so, and
a class that was resolved could be resolved again with nothing new to intern.
-/

set_option autoImplicit false

namespace JvmFacts

open List

/-- Something that was done in a run. -/
inductive Deed where
  | built (draft : MethodDraft)
  | resolved (parsed : ParsedClass) (record : ResolvedClass)
  | cleared

/-- The drafts that a deed builds. -/
def Deed.drafts : Deed → List MethodDraft
  | built draft => [draft]
  | resolved parsed _ => parsed.methods
  | cleared => []

namespace Session

/-! ## Which deeds are done -/

def deedsOfBuild (d : MethodDraft) (s : Session) : List Deed :=
  match ((buildMethod d).run.run s).1 with
  | .ok _ => [.built d]
  | .error _ => []

def deedsOfResolve (c : ClassDescriptor) (parsed : ParsedClass) (s : Session) : List Deed :=
  match ((resolve c parsed).run.run s).1 with
  | .ok record => [.resolved parsed record]
  | .error _ => []

/-- A class that is known already is not resolved again. -/
def deedsOfRecord (reader : ClassReader) (c : ClassDescriptor) (s : Session) : List Deed :=
  if s.knowsClass c then []
  else
    match reader c with
    | .ok parsed => deedsOfResolve c parsed s
    | .error _ => []

def deedsOfLookup (reader : ClassReader) (name : String) (s : Session) : List Deed :=
  if name.isEmpty || !Name.isClass name then []
  else
    match (interning (Registry.internClass (Name.slashed name))).run.run s with
    | (.ok c, t) => deedsOfRecord reader c t
    | (.error _, _) => []

/-- The classes of a chain one after the other, up to one whose depth is known or that fails. -/
def deedsOfDepth (reader : ClassReader) : (steps : Nat) → ClassDescriptor → Session → List Deed
  | 0, _, _ => []
  | steps + 1, c, s =>
    if s.knowsDepth c then []
    else
      deedsOfRecord reader c s ++
        match (classRecord reader c).run.run s with
        | (.ok record, t) =>
          match record.superclass with
          | some parent => deedsOfDepth reader steps parent t
          | none => []
        | (.error _, _) => []

def deedsOfClasses (reader : ClassReader) : List ClassDescriptor → Session → List Deed
  | [], _ => []
  | c :: rest, s =>
    deedsOfRecord reader c s ++
      deedsOfClasses reader rest ((classRecord reader c).run.run s).2

end Session

/-! ## What they leave in place -/

/-- The record of a prepared class, once its methods are made. -/
def PreparedClass.withMethods (p : PreparedClass) (serial : Nat) (methods : List Method) :
    ResolvedClass where
  serial
  descriptor := p.descriptor
  superclass := p.superclass
  interfaces := p.interfaces
  flags := p.flags
  sourceFile := p.sourceFile
  fields := p.fields
  methods

namespace Databases

/-- The nullness database of this kind is there and loaded. -/
def hasNullness (d : Databases) : NullnessSource → Bool
  | .declared => d.declared.any (·.isLoaded)
  | .qualified => d.qualified.any (·.isLoaded)

/-- The check-return table is there and loaded. -/
def hasCheckReturn (d : Databases) : Bool :=
  d.checkReturn.any (·.isLoaded)

/-- What was loaded is still there, and still loaded. -/
structure Keeps (d e : Databases) : Prop where
  checkReturn : d.hasCheckReturn = true → e.hasCheckReturn = true
  nullness : ∀ source, d.hasNullness source = true → e.hasNullness source = true

instance : IsPreorder Databases Keeps where
  refl _ := ⟨id, fun _ => id⟩
  trans _ _ _ one two :=
    ⟨fun held => two.checkReturn (one.checkReturn held),
      fun source held => two.nullness source (one.nullness source held)⟩

/-- Other databases do not matter. -/
theorem Keeps.of_same {d e : Databases} (checkReturn : e.checkReturn = d.checkReturn)
    (declared : e.declared = d.declared) (qualified : e.qualified = d.qualified) : d.Keeps e where
  checkReturn := by
    unfold hasCheckReturn
    rw [checkReturn]
    exact id
  nullness := by
    intro source
    unfold hasNullness
    rw [declared, qualified]
    exact id

end Databases

namespace Session

/-- Preparing the class once more interns nothing, however far the registry grows, and gives what the
record tells; and the methods of the record are those that the table has. -/
structure Recurs (parsed : ParsedClass) (record : ResolvedClass) (p : PreparedClass) (s : Session) :
    Prop where
  again : ∀ r, s.registry.Extends r →
    (parsed.prepare record.descriptor).run.run r = (.ok p, r)
  contents : record = p.withMethods record.serial record.methods
  methods : Forall₂ (fun q m => s.method? q.body.descriptor = some m) p.methods record.methods

/-- From the one session to the other this was done and nothing else. Whether loaded tables stay so
hangs on what the host does to them. -/
structure Does (free : Freedom) (recording : Prop) (deeds : List Deed) (s t : Session) : Prop where
  registry : s.registry.Extends t.registry
  methods : ∀ descriptor m, s.method? descriptor = some m → t.method? descriptor = some m
  config : t.config = s.config
  runNumber : t.runNumber = s.runNumber
  databases : recording → s.run.databases.Keeps t.run.databases
  classes : ∀ id record, t.run.classes.find? id = some record →
    s.run.classes.find? id = some record ∨ ∃ parsed, Deed.resolved parsed record ∈ deeds
  resolved : ∀ parsed record, Deed.resolved parsed record ∈ deeds →
    free.MayName t.registry record.descriptor ∧ ∃ p, Recurs parsed record p t

section

variable {free : Freedom} {recording : Prop} {s t u : Session} {deeds more : List Deed}

theorem Recurs.later {parsed : ParsedClass} {record : ResolvedClass} {p : PreparedClass}
    (recurs : Recurs parsed record p s) (registry : s.registry.Extends t.registry)
    (methods : ∀ descriptor m, s.method? descriptor = some m → t.method? descriptor = some m) :
    Recurs parsed record p t where
  again := fun r further => recurs.again r (trans_of Registry.Extends registry further)
  contents := recurs.contents
  methods := recurs.methods.imp fun _ _ held => methods _ _ held

theorem Does.trans (first : Does free recording deeds s t) (second : Does free recording more t u) :
    Does free recording (deeds ++ more) s u where
  registry := trans_of Registry.Extends first.registry second.registry
  methods := fun descriptor m held => second.methods _ _ (first.methods descriptor m held)
  config := second.config.trans first.config
  runNumber := second.runNumber.trans first.runNumber
  databases := fun tame => trans_of Databases.Keeps (first.databases tame) (second.databases tame)
  classes := by
    intro id record found
    rcases second.classes id record found with held | ⟨parsed, late⟩
    · rcases first.classes id record held with before | ⟨parsed, early⟩
      · exact Or.inl before
      · exact Or.inr ⟨parsed, mem_append_left _ early⟩
    · exact Or.inr ⟨parsed, mem_append_right _ late⟩
  resolved := by
    intro parsed record member
    rcases mem_append.1 member with early | late
    · obtain ⟨named, p, recurs⟩ := first.resolved parsed record early
      exact ⟨named.grows second.registry.toGrowsSoundly, p, recurs.later second.registry second.methods⟩
    · exact second.resolved parsed record late

/-- Nothing is built, and records are at most forgotten. -/
theorem Does.idle (registry : s.registry.Extends t.registry)
    (methods : ∀ descriptor m, s.method? descriptor = some m → t.method? descriptor = some m)
    (config : t.config = s.config) (runNumber : t.runNumber = s.runNumber)
    (databases : recording → s.run.databases.Keeps t.run.databases)
    (classes : t.run.classes = s.run.classes ∨ t.run.classes = []) :
    Does free recording [] s t where
  registry := registry
  methods := methods
  config := config
  runNumber := runNumber
  databases := databases
  classes := by
    intro id record found
    rcases classes with same | nothing
    · rw [same] at found
      exact Or.inl found
    · rw [nothing] at found
      cases found
  resolved := fun _ _ none => absurd none not_mem_nil

/-- The work touches nothing of what deeds are about. -/
theorem Does.aside (registry : t.registry = s.registry) (methods : t.run.methods = s.run.methods)
    (config : t.config = s.config) (runNumber : t.runNumber = s.runNumber)
    (databases : t.run.databases = s.run.databases)
    (classes : t.run.classes = s.run.classes ∨ t.run.classes = []) :
    Does free recording [] s t := by
  apply Does.idle _ _ config runNumber _ classes
  · rw [registry]
    exact refl_of Registry.Extends s.registry
  · unfold method?
    rw [methods]
    exact fun _ _ held => held
  · intro _
    rw [databases]
    exact refl_of Databases.Keeps s.run.databases

theorem Does.refl (s : Session) : Does free recording [] s s :=
  .aside rfl rfl rfl rfl rfl (Or.inl rfl)

theorem Does.idle_right (first : Does free recording deeds s t) (rest : Does free recording [] t u) :
    Does free recording deeds s u := by
  rw [← append_nil deeds]
  exact first.trans rest

theorem Does.idle_left (first : Does free recording [] s t) (rest : Does free recording deeds t u) :
    Does free recording deeds s u :=
  first.trans rest

/-- Deeds that resolve no class leave no more behind. -/
theorem Does.unresolved (idle : Does free recording [] s t)
    (none : ∀ parsed record, Deed.resolved parsed record ∉ deeds) :
    Does free recording deeds s t :=
  { idle with
    classes := fun id record found => (idle.classes id record found).imp_right fun ⟨_, member⟩ =>
      absurd member not_mem_nil
    resolved := fun parsed record member => absurd member (none parsed record) }

/-- A class that was resolved is remembered. -/
theorem Does.remember (does : Does free recording deeds s t) {record : ResolvedClass}
    (resolved : ∃ parsed, Deed.resolved parsed record ∈ deeds) (c : ClassDescriptor) :
    Does free recording deeds s (t.rememberClass c record) where
  registry := does.registry
  methods := does.methods
  config := does.config
  runNumber := does.runNumber
  databases := does.databases
  classes := by
    intro id other found
    have inserted := (Table.find?_insert c.id id record t.run.classes).symm.trans found
    split at inserted
    · obtain rfl := Option.some.inj inserted
      exact Or.inr resolved
    · exact does.classes id other inserted
  resolved := by
    intro parsed other member
    obtain ⟨named, p, recurs⟩ := does.resolved parsed other member
    exact ⟨named, p, recurs.later (refl_of Registry.Extends t.registry) fun _ _ held => held⟩

/-- What was interned is all that is new. -/
theorem Does.intern {r : Registry} (grows : s.registry.Extends r) :
    Does free recording [] s { s with registry := r } :=
  .idle grows (fun _ _ held => held) rfl rfl (fun _ => refl_of Databases.Keeps s.run.databases)
    (Or.inl rfl)

theorem does_interning {α : Type} {work : Interning α}
    (grows : s.registry.Extends (work.run.run s.registry).2) :
    Does free recording [] s ((interning work).run.run s).2 :=
  .intern grows

/-! ## Methods -/

theorem does_makeMethod (p : PreparedMethod) : Does free recording [] s (s.makeMethod p).2 :=
  .aside rfl rfl rfl rfl rfl (Or.inl rfl)

theorem does_keepMethod (m : Method) : Does free recording [] s (s.keepMethod m).2 := by
  have held : ∀ descriptor n, s.method? descriptor = some n →
      (s.keepMethod m).2.method? descriptor = some n := by
    intro descriptor n before
    rw [method?_keepMethod, before, Option.some_or]
  obtain ⟨methods, kept⟩ := keepMethod_frame m s
  rw [kept] at held ⊢
  exact .idle (refl_of Registry.Extends s.registry) held rfl rfl
    (fun _ => refl_of Databases.Keeps s.run.databases) (Or.inl rfl)

theorem does_makeAll (prepared : List PreparedMethod) :
    Does free recording [] s (makeAll prepared s).2 := by
  induction prepared generalizing s with
  | nil => exact .refl s
  | cons p rest ih =>
    have made : Does free recording [] s (s.makeMethod p).2 := does_makeMethod p
    have kept : Does free recording [] (s.makeMethod p).2 (s.makeAndKeep p).2 :=
      does_keepMethod (s.makeMethod p).1
    rw [makeAll_cons]
    exact (made.trans kept).trans ih

theorem deedsOfBuild_of_ok {d : MethodDraft} {m : Method}
    (made : ((buildMethod d).run.run s).1 = .ok m) : deedsOfBuild d s = [.built d] := by
  unfold deedsOfBuild
  rw [made]

theorem does_buildMethod (wf : s.registry.WellFormed) (d : MethodDraft) :
    Does free recording (deedsOfBuild d s) s ((buildMethod d).run.run s).2 := by
  have prepared : Registry.Repeats s.registry s.registry d.prepare := d.repeats_prepare wf
  have grows := prepared.grows
  unfold deedsOfBuild buildMethod
  rw [run_interning_modifyGet]
  rcases ended : d.prepare.run.run s.registry with ⟨fault | p, r⟩ <;> rw [ended] at grows
  · exact .intern grows
  · have interned : Does free recording [] s { s with registry := r } := .intern grows
    apply (interned.trans (does_makeMethod p)).unresolved
    intro parsed record member
    cases mem_singleton.1 member

/-! ## Classes -/

theorem deedsOfResolve_of_ok {c : ClassDescriptor} {parsed : ParsedClass} {record : ResolvedClass}
    (given : ((resolve c parsed).run.run s).1 = .ok record) :
    deedsOfResolve c parsed s = [.resolved parsed record] := by
  unfold deedsOfResolve
  rw [given]

theorem does_resolve (wf : s.registry.WellFormed) {c : ClassDescriptor}
    (named : free.MayName s.registry c) (parsed : ParsedClass) :
    Does free recording (deedsOfResolve c parsed s) s ((resolve c parsed).run.run s).2 := by
  have repeats : ∀ last, Registry.Repeats last s.registry (parsed.prepare c) := fun last =>
    ParsedClass.repeats_prepare wf c parsed
  have descriptor := (ParsedClass.yields_prepare wf c parsed).post
  have grows := (repeats s.registry).grows
  have again := fun last => (repeats last).again
  unfold deedsOfResolve resolve
  rw [run_interning_modifyGet]
  rcases ended : (parsed.prepare c).run.run s.registry with ⟨fault | p, r⟩ <;>
    rw [ended] at grows again descriptor
  · exact .intern grows
  · obtain rfl : p.descriptor = c := (descriptor p rfl).descriptor
    obtain ⟨registry, -⟩ := makeAll_spec p.methods { s with registry := r }
    have interned : Does free recording [] s { s with registry := r } := .intern grows
    have counted : ∀ t : Session,
        Does free recording [] t { t with classesMade := t.classesMade + 1 } :=
      fun t => .aside rfl rfl rfl rfl rfl (Or.inl rfl)
    have made := (interned.trans (does_makeAll p.methods)).trans (counted _)
    refine { made with classes := ?_, resolved := ?_ }
    · intro id record found
      rcases made.classes id record found with before | ⟨parsed, none⟩
      · exact Or.inl before
      · cases none
    · intro other record member
      obtain ⟨rfl, rfl⟩ := Deed.resolved.inj (mem_singleton.1 member)
      refine ⟨named.grows made.registry.toGrowsSoundly, p, ?_⟩
      constructor
      · intro last within
        apply again last
        have same : (makeClass p { s with registry := r }).2.registry = r := registry
        rw [same] at within
        exact within
      · rfl
      · exact method?_of_makeAll p.methods { s with registry := r }

theorem does_classRecord (wf : s.registry.WellFormed) {c : ClassDescriptor}
    (named : free.MayName s.registry c) (reader : ClassReader) :
    Does free recording (deedsOfRecord reader c s) s ((classRecord reader c).run.run s).2 := by
  unfold deedsOfRecord knowsClass Table.contains
  cases found : s.run.classes.find? c.id with
  | some known =>
    rw [classRecord_of_known found]
    exact .refl s
  | none =>
    rw [classRecord_of_unknown found]
    unfold readClass
    cases reader c with
    | error fault => exact .refl s
    | ok parsed =>
      have resolved : Does free recording (deedsOfResolve c parsed s) s _ :=
        does_resolve wf named parsed
      change Does free recording (deedsOfResolve c parsed s) s _
      rcases ended : (resolve c parsed).run.run s with ⟨fault | record, t⟩ <;> rw [ended] at resolved
      · exact resolved
      · have told := deedsOfResolve_of_ok (congrArg Prod.fst ended)
        rw [told] at resolved ⊢
        exact resolved.remember ⟨parsed, mem_singleton_self _⟩ c

theorem does_lookup (wf : s.registry.WellFormed) (reader : ClassReader) (name : String) :
    Does free recording (deedsOfLookup reader name s) s ((lookup reader name).run.run s).2 := by
  unfold deedsOfLookup
  rcases lookup_cases reader name with ⟨invalid, fault, turned⟩ | ⟨valid, wrap, sought⟩
  · have refused : (name.isEmpty || !Name.isClass name) = true := by
      rw [invalid, Bool.not_false, Bool.or_true]
    rw [if_pos refused, turned]
    exact .refl s
  · have fine : ¬ (name.isEmpty || !Name.isClass name) = true := by
      rw [valid, Bool.not_true, Bool.or_false]
      exact mt String.isEmpty_iff.1 (Name.ne_empty_of_isClass valid)
    have repeats : Registry.Repeats s.registry s.registry
        (Registry.internClass (Name.slashed name)) :=
      Registry.repeats_internClass wf (Name.slashed name)
    have interned : Does free recording [] s
        ((interning (Registry.internClass (Name.slashed name))).run.run s).2 :=
      does_interning repeats.grows
    have made :=
      (yields_interning (Registry.yields_internClass s.registry (Name.slashed name))).post
    rw [if_neg fine, sought, Work.run_adapt, Work.run_bind]
    rcases ended : (interning (Registry.internClass (Name.slashed name))).run.run s
      with ⟨fault | c, t⟩ <;> rw [ended] at interned made
    · exact interned
    · have named : free.MayName t.registry c := Or.inr (made c rfl).1
      exact interned.idle_left (does_classRecord (interned.registry.wellFormed wf) named reader)

theorem does_rememberDepth {work : Working Nat}
    (does : Does free recording deeds s (work.run.run s).2) (change : Fault → Fault)
    (c : ClassDescriptor) :
    Does free recording deeds s ((ExceptT.adapt change work >>= fun depth =>
      modifyGet (Session.rememberDepth c depth) : Working Nat).run.run s).2 := by
  rw [Work.run_bind, Work.run_adapt]
  rcases ended : work.run.run s with ⟨fault | depth, t⟩ <;> rw [ended] at does
  · exact does
  · obtain ⟨depths, remembered⟩ := t.rememberDepth_frame c depth
    change Does free recording deeds s (t.rememberDepth c depth).2
    rw [remembered]
    exact does.idle_right (.aside rfl rfl rfl rfl rfl (Or.inl rfl))

theorem does_depthWithin (tidy : Tidy free s) (reader : ClassReader) (steps : Nat)
    {c : ClassDescriptor} (named : free.MayName s.registry c) :
    Does free recording (deedsOfDepth reader steps c s) s
      ((depthWithin reader steps c).run.run s).2 := by
  induction steps generalizing s c with
  | zero => exact .refl s
  | succ steps ih =>
    have first : Does free recording (deedsOfRecord reader c s) s _ :=
      does_classRecord tidy.registry named reader
    have resolves := (yields_classRecord tidy named reader).steps
    have superclass := (yields_classRecord tidy named reader).post
    unfold depthWithin
    rw [Work.run_get_bind]
    unfold deedsOfDepth knowsDepth Table.contains
    cases s.run.depths.find? c.id with
    | some known => exact .refl s
    | none =>
      apply does_rememberDepth
      rw [Work.run_bind]
      change Does free recording (deedsOfRecord reader c s ++ _) s _
      generalize deedsOfRecord reader c s = deeds at first
      rcases ended : (classRecord reader c).run.run s with ⟨fault | record, t⟩ <;>
        rw [ended] at first resolves superclass
      · dsimp only
        rw [append_nil]
        exact first
      · dsimp only
        cases above : record.superclass with
        | none =>
          dsimp only
          rw [append_nil]
          exact first
        | some parent =>
          have held : parent ∈ t.registry.classes := superclass record rfl parent above
          dsimp only
          rw [← map_eq_pure_bind, Work.run_map]
          exact first.trans (ih (tidy.resolves resolves) (Or.inr held))

theorem does_resolveAll (tidy : Tidy free s) (reader : ClassReader) (classes : List ClassDescriptor)
    (named : ∀ c ∈ classes, free.MayName s.registry c) :
    Does free recording (deedsOfClasses reader classes s) s ((resolveAll reader classes).run s).2 := by
  induction classes generalizing s with
  | nil => exact .refl s
  | cons c rest ih =>
    have here := named c (mem_cons_self ..)
    have first : Does free recording (deedsOfRecord reader c s) s _ :=
      does_classRecord tidy.registry here reader
    have resolved := (yields_classRecord tidy here reader).steps
    have further := ih (tidy.resolves resolved) fun d member =>
      (named d (mem_cons_of_mem _ member)).grows first.registry.toGrowsSoundly
    exact first.trans further

end

end Session

end JvmFacts
