import JvmFacts.Proofs.Session.Past.Databases

/-!
What a host does in a run when it names everything: each operation gets its handles anew, from the
names of classes and members, so a script of operations can be run again in another run.
-/

set_option autoImplicit false

namespace JvmFacts

/-- An operation of a run by names. A method is had from the table of the run. -/
inductive RunStep where
  | classDescriptor (name : String)
  | lookup (name : String)
  | declare (names : List String)
  | update (pass : Nat)
  | bridge (source target : MemberReference)
  | kind (name : String)
  | isSubtype (lower upper : String)
  | relatives (name : String)
  | applications
  | facts (m : MemberReference)
  | nullness (m : MemberReference) (slot : Slot)

/-- What a run knows of a method. -/
structure MethodTraits where
  alwaysThrows : Bool
  isUnsupported : Bool
  isIdentity : Bool
  forwardsTo : Option MethodDescriptor
  accesses : Option FieldDescriptor
  bridgesTo : Option MethodDescriptor
  bridgedFrom : Option MethodDescriptor
  deriving DecidableEq, Repr

inductive RunAnswer where
  | done
  | noMethod
  | descriptor (c : ClassDescriptor)
  | record (c : ResolvedClass)
  | kind (kind : Option VertexKind)
  | verdict (holds : Bool)
  | relatives (direct supertypes subtypes : List ClassDescriptor)
  | applications (classes : List ClassDescriptor)
  | traits (traits : MethodTraits)
  | nullness (answer : Option Nullness)

/-- The method without the number that tells makings apart. -/
def Method.unnumbered (m : Method) : Method :=
  { m with serial := 0 }

/-- The record without the numbers that tell makings apart. -/
def ResolvedClass.unnumbered (c : ResolvedClass) : ResolvedClass :=
  { c with serial := 0, methods := c.methods.map Method.unnumbered }

namespace Session

def traitsOf (s : Session) (m : MethodDescriptor) : MethodTraits where
  alwaysThrows := s.run.facts.alwaysThrows m.id
  isUnsupported := s.run.facts.isUnsupported m.id
  isIdentity := s.run.facts.isIdentity m.id
  forwardsTo := s.run.facts.forwardsTo? m.id
  accesses := s.run.facts.accesses? m.id
  bridgesTo := (s.run.bridges.target? m).map (·.descriptor)
  bridgedFrom := (s.run.bridges.source? m).map (·.descriptor)

/-- Asks the nullness database that the switches choose, which is created for that. -/
def nullnessNow (m : Method) (slot : Slot) (s : Session) : Option Nullness × Session :=
  let source := s.config.nullnessSource
  (s.createNullness source).nullnessOf source s.runNumber m slot

end Session

namespace RunStep

open Session

/-- The method of a member reference, if the run has made it. -/
def methodNamed (m : MemberReference) : Working (Option Method) := do
  let descriptor ← interning (m.intern .method)
  pure ((← get).method? descriptor)

/-- A question about classes to the hierarchy, which is created for that. -/
def onHierarchy {α : Type} (classes : Interning α) (ask : Hierarchy → α → RunAnswer) :
    Working RunAnswer := do
  let named ← interning classes
  modify createHierarchy
  pure (ask (← get).hierarchy named)

def bothClasses (one two : String) : Interning (ClassDescriptor × ClassDescriptor) := do
  let first ← Registry.internClass one
  let second ← Registry.internClass two
  pure (first, second)

/-- What a step does. The schedule is for the classes that a declaration resolves. -/
def work (reader : ClassReader) (schedule : Schedule) : RunStep → Working RunAnswer
  | classDescriptor name => .descriptor <$> interning (Registry.internClass name)
  | lookup name => (.record ·.unnumbered) <$> Session.lookup reader name
  | declare names => do
    let declared ← interning (names.mapM Registry.internClass)
    modify fun s => ((declareApplications reader schedule declared).run s).2
    pure .done
  | update pass => do
    modify (updateDatabases · pass)
    pure .done
  | bridge source target => do
    let one ← methodNamed source
    let two ← methodNamed target
    match one, two with
    | some one, some two =>
      modify (Session.setBridge · one two)
      pure .done
    | _, _ => pure .noMethod
  | kind name => onHierarchy (Registry.internClass name) fun h c => .kind (h.kind? c)
  | isSubtype lower upper =>
    onHierarchy (bothClasses lower upper) fun h pair => .verdict (h.isSubtype pair.1 pair.2)
  | relatives name =>
    onHierarchy (Registry.internClass name) fun h c =>
      .relatives (h.directSupertypes c) (h.supertypes c) (h.subtypes c)
  | applications => onHierarchy (pure ()) fun h _ => .applications h.applicationClasses
  | facts m => do
    let descriptor ← interning (m.intern .method)
    pure (.traits ((← get).traitsOf descriptor))
  | nullness m slot => do
    match ← methodNamed m with
    | none => pure .noMethod
    | some found => .nullness <$> modifyGet (nullnessNow found slot)

/-! ## Steps are made of changes -/

section

variable {free : Freedom} {known : List Method} {s : Session} (tidy : Tidy free s)

include tidy

theorem yields_methodNamed (m : MemberReference) :
    Work.Yields (Changes free known) s (methodNamed m) fun t found =>
      ∀ n ∈ found, n ∈ t.run.methods.values := by
  have interned : Work.Yields (Changes free known) s (interning (m.intern .method)) _ :=
    (yields_interning (Registry.yields_internMember .method m.owner m.name m.signature m.isStatic
      tidy.registry)).lift fun _ _ => changes_of_makes
  apply interned.bind
  intro descriptor t _ _
  apply Work.Yields.get_bind
  exact Work.Yields.pure fun n found => Table.mem_values_of_find? found

omit tidy in
theorem yields_onHierarchy {α : Type} {classes : Interning α} {post : Registry → α → Prop}
    (yields : Work.Yields Registry.GrowsSoundly s.registry classes post)
    (ask : Hierarchy → α → RunAnswer) :
    Work.Yields (Changes free known) s (onHierarchy classes ask) fun _ _ => True := by
  have interned : Work.Yields (Changes free known) s (interning classes) _ :=
    (yields_interning yields).lift fun _ _ => changes_of_makes
  apply interned.bind
  intro named t _ _
  apply Work.Yields.bind (Work.Yields.modify (.single .createHierarchy))
  intro _ u _ _
  apply Work.Yields.get_bind
  exact Work.Yields.pure trivial

omit tidy in
theorem yields_bothClasses (r : Registry) (one two : String) :
    Work.Yields Registry.GrowsSoundly r (bothClasses one two) fun _ _ => True := by
  apply (Registry.yields_internClass r one).bind
  intro first t _ _
  apply (Registry.yields_internClass t two).bind
  intro second u _ _
  exact Work.Yields.pure trivial

omit tidy in
theorem changes_nullnessNow (stray : free.stray = true) (m : Method) (slot : Slot) :
    Changes free known s (s.nullnessNow m slot).2 := by
  have created : Changes free known s (s.createNullness s.config.nullnessSource) :=
    changes_createNullness s.config.nullnessSource
  have asked : ∀ source, source = s.config.nullnessSource → Changes free known s
      ((s.createNullness source).nullnessOf source s.runNumber m slot).2 := by
    intro source chosen
    rw [← chosen] at created
    cases source with
    | declared => exact created
    | qualified =>
      exact created.tail (.askQualified (Or.inl stray) fun _ => createNullness_isSome rfl)
  exact asked _ rfl

theorem yields_work (reader : ClassReader) (schedule : Schedule) (stray : free.stray = true)
    (step : RunStep) :
    Work.Yields (Changes free known) s (step.work reader schedule) fun _ _ => True := by
  cases step with
  | classDescriptor name =>
    have interned : Work.Yields (Changes free known) s (interning (Registry.internClass name)) _ :=
      (yields_interning (Registry.yields_internClass s.registry name)).lift
        fun _ _ => changes_of_makes
    exact .map _ (interned.mono fun _ _ _ _ => trivial)
  | lookup name =>
    have found : Work.Yields (Changes free known) s (Session.lookup reader name) _ :=
      (yields_lookup tidy reader name).lift fun _ _ => changes_of_resolves
    exact .map _ (found.mono fun _ _ _ _ => trivial)
  | declare names =>
    have each : ∀ name ∈ names, ∀ r, s.registry.GrowsSoundly r →
        Work.Yields Registry.GrowsSoundly r (Registry.internClass name) fun _ _ => True :=
      fun name _ r _ => (Registry.yields_internClass r name).mono fun _ _ _ _ => trivial
    have interned : Work.Yields (Changes free known) s
        (interning (names.mapM Registry.internClass)) _ :=
      (yields_interning (Work.Yields.mapM (fun _ _ => trivial) names each)).lift
        fun _ _ => changes_of_makes
    apply interned.bind
    intro declared t changes _
    apply Work.Yields.bind (Work.Yields.modify
      (changes_declareApplications (tidy.changes changes) reader schedule declared))
    intro _ u _ _
    exact Work.Yields.pure trivial
  | update pass =>
    apply Work.Yields.bind (Work.Yields.modify (changes_updateDatabases tidy pass))
    intro _ t _ _
    exact Work.Yields.pure trivial
  | bridge source target =>
    apply (yields_methodNamed tidy source).bind
    intro one t changes _
    apply (yields_methodNamed (tidy.changes changes) target).bind
    intro two u _ _
    cases one with
    | none => exact Work.Yields.pure trivial
    | some one =>
      cases two with
      | none => exact Work.Yields.pure trivial
      | some two =>
        apply Work.Yields.bind (Work.Yields.modify (.single .setBridges))
        intro _ v _ _
        exact Work.Yields.pure trivial
  | kind name =>
    unfold work
    exact yields_onHierarchy (Registry.yields_internClass s.registry name) _
  | isSubtype lower upper =>
    unfold work
    exact yields_onHierarchy (yields_bothClasses s.registry lower upper) _
  | relatives name =>
    unfold work
    exact yields_onHierarchy (Registry.yields_internClass s.registry name) _
  | applications =>
    have nothing : Work.Yields Registry.GrowsSoundly s.registry (pure () : Interning Unit)
        fun _ _ => True :=
      Work.Yields.pure trivial
    unfold work
    exact yields_onHierarchy nothing _
  | facts m =>
    have interned : Work.Yields (Changes free known) s (interning (m.intern .method)) _ :=
      (yields_interning (Registry.yields_internMember .method m.owner m.name m.signature m.isStatic
        tidy.registry)).lift fun _ _ => changes_of_makes
    apply interned.bind
    intro descriptor t _ _
    apply Work.Yields.get_bind
    exact Work.Yields.pure trivial
  | nullness m slot =>
    apply (yields_methodNamed tidy m).bind
    intro found t _ _
    cases found with
    | none => exact Work.Yields.pure trivial
    | some found =>
      exact .map _ (Work.Yields.modifyGet (changes_nullnessNow stray found slot) trivial)

end

/-! ## Steps in a session with a past -/

section

variable {p : Past}

theorem unnumbered_record (c : ResolvedClass) : (p.record c).unnumbered = c.unnumbered := by
  unfold ResolvedClass.unnumbered Past.record
  simp only [List.map_map]
  rfl

theorem traitsOf_before {s t : Session} (before : p.Before s t) (m : MethodDescriptor) :
    t.traitsOf m = s.traitsOf m := by
  have targets : t.run.bridges.target? m = (s.run.bridges.target? m).map p.method := by
    rw [before.run]
    exact Table.find?_mapValues p.method m.id s.run.bridges.targets
  have sources : t.run.bridges.source? m = (s.run.bridges.source? m).map p.method := by
    rw [before.run]
    exact Table.find?_mapValues p.method m.id s.run.bridges.sources
  unfold traitsOf
  rw [before.facts, targets, sources, Option.map_map, Option.map_map]
  rfl

theorem agrees_methodNamed (m : MemberReference) :
    p.Agrees (Option.map p.method) (methodNamed m) (methodNamed m) := by
  unfold methodNamed
  apply (Past.agrees_interning (m.intern .method)).bind
  intro descriptor s t before
  exact ⟨congrArg Except.ok (before.findMethod descriptor), before⟩

theorem agrees_onHierarchy {α : Type} (classes : Interning α) (ask : Hierarchy → α → RunAnswer) :
    p.Agrees id (onHierarchy classes ask) (onHierarchy classes ask) := by
  unfold onHierarchy
  apply (Past.agrees_interning classes).bind
  intro named s t before
  have created := before.createHierarchy
  exact ⟨congrArg (fun h => Except.ok (ask h named)) created.hierarchy, created⟩

theorem matches_nullnessNow {s t : Session} (before : p.Before s t) {m : Method}
    (genuine : Genuine [m] s) (slot : Slot) :
    p.Matches id (s.nullnessNow m slot) (t.nullnessNow (p.method m) slot) := by
  have created := before.createNullness s.config.nullnessSource
  have current := s.runNumber_createNullness s.config.nullnessSource
  have changes : Changes ⟨true, true⟩ [m] s (s.createNullness s.config.nullnessSource) :=
    changes_createNullness s.config.nullnessSource
  have made := (genuine_of_changes genuine changes).older m (Or.inl (List.mem_singleton_self m))
  unfold nullnessNow
  rw [before.config, before.runNumber]
  exact created.nullnessOf (Nat.le_of_eq current.symm) s.config.nullnessSource made slot

/-- A step does in a session with a past what it does in one without. -/
theorem matches_work {free : Freedom} {s t : Session} (tidy : Tidy free s) (genuine : Genuine [] s)
    (before : p.Before s t) (reader : ClassReader) (schedule : Schedule) (step : RunStep) :
    p.Matches (Except.map id) ((step.work reader schedule).run.run s)
      ((step.work reader schedule).run.run t) := by
  have agrees : ∀ work : Working RunAnswer, p.Agrees id work work →
      p.Matches (Except.map id) (work.run.run s) (work.run.run t) :=
    fun work agrees => agrees s t before
  cases step with
  | classDescriptor name =>
    apply agrees
    exact (Past.agrees_interning (Registry.internClass name)).bind fun c => Past.Agrees.pure id _
  | lookup name =>
    apply agrees
    apply (Past.agrees_lookup reader name).bind
    intro c
    have same := unnumbered_record (p := p) c
    dsimp only [Function.comp_apply]
    rw [same]
    exact Past.Agrees.pure id _
  | declare names =>
    apply agrees
    apply (Past.agrees_interning (names.mapM Registry.internClass)).bind
    intro declared s t before
    exact ⟨rfl, before.declareApplications reader schedule declared⟩
  | update pass => exact ⟨rfl, before.updateDatabases tidy genuine pass⟩
  | bridge source target =>
    apply agrees
    apply (agrees_methodNamed source).bind
    intro one
    apply (agrees_methodNamed target).bind
    intro two
    cases one with
    | none => exact Past.Agrees.pure id _
    | some one =>
      cases two with
      | none => exact Past.Agrees.pure id _
      | some two => exact fun s t before => ⟨rfl, before.setBridge one two⟩
  | kind name =>
    unfold work
    exact agrees _ (agrees_onHierarchy _ _)
  | isSubtype lower upper =>
    unfold work
    exact agrees _ (agrees_onHierarchy _ _)
  | relatives name =>
    unfold work
    exact agrees _ (agrees_onHierarchy _ _)
  | applications =>
    unfold work
    exact agrees _ (agrees_onHierarchy _ _)
  | facts m =>
    apply agrees
    apply (Past.agrees_interning (m.intern .method)).bind
    intro descriptor s t before
    exact ⟨congrArg (fun traits => Except.ok (RunAnswer.traits traits))
      (traitsOf_before before descriptor), before⟩
  | nullness m slot =>
    obtain ⟨fits, still⟩ := agrees_methodNamed m s t before
    have yields : Work.Yields (Changes free []) s (methodNamed m) _ := yields_methodNamed tidy m
    have changes := yields.steps
    have held := yields.post
    unfold work
    rw [Work.run_bind, Work.run_bind]
    rcases ended : (methodNamed m).run.run s with ⟨fault | found, u⟩ <;>
      rcases endedLater : (methodNamed m).run.run t with ⟨faultLater | also, v⟩ <;>
      rw [ended, endedLater] at fits still <;> cases fits
    · exact ⟨rfl, still⟩
    · rw [ended] at changes held
      cases found with
      | none => exact ⟨rfl, still⟩
      | some found =>
        have handed : Handed [] u found := Or.inr (held (some found) rfl found rfl)
        have genuine : Genuine [found] u := by
          apply (genuine_of_changes genuine changes).mono _ (Nat.le_refl _)
            (refl_of Registry.GrowsSoundly _)
          intro n listed
          rcases listed with member | member
          · exact List.mem_singleton.1 member ▸ handed
          · exact Or.inr member
        obtain ⟨answer, after⟩ := matches_nullnessNow still genuine slot
        exact ⟨congrArg (fun answer => Except.ok (RunAnswer.nullness answer)) answer, after⟩

end

end RunStep

end JvmFacts
