import JvmFacts.Proofs.Session.CallDeeds
import JvmFacts.Proofs.Session.Memo

/-!
Loading the built-in promises happens once per run. After the first pass of a run no further one
changes anything, whatever else was done in between.
-/

set_option autoImplicit false

namespace JvmFacts

namespace Session

/-- The tables that a pass loads are there and loaded. -/
structure Supplied (s : Session) : Prop where
  checkReturn : s.run.databases.hasCheckReturn = true
  nullness : s.run.databases.hasNullness s.config.nullnessSource = true

section

variable {free : Freedom} {s t : Session} {deeds : List Deed}

theorem Supplied.does {recording : Prop} (supplied : Supplied s) (records : recording)
    (does : Does free recording deeds s t) : Supplied t where
  checkReturn := (does.databases records).checkReturn supplied.checkReturn
  nullness := by
    rw [does.config]
    exact (does.databases records).nullness _ supplied.nullness

/-! ## Loading again -/

theorem modifyDatabases_of_same {change : Databases → Databases}
    (same : change s.run.databases = s.run.databases) : s.modifyDatabases change = s := by
  unfold modifyDatabases
  rw [modifyDatabasesOf_self, same]

theorem exists_of_any {α : Type} {holds : α → Bool} {item : Option α} (held : item.any holds = true) :
    ∃ a, item = some a ∧ holds a = true := by
  cases item with
  | none => cases held
  | some a => exact ⟨a, rfl, held⟩

theorem takeIn_nothing {τ : Type} {keep : τ → Session → Session} {table : τ}
    (kept : keep table s = s) : s.takeIn keep ⟨table, s.registry, []⟩ = s := by
  have taken : s.takeIn keep ⟨table, s.registry, []⟩ = (keep table s).addLog [] := rfl
  rw [taken, kept, addLog, List.append_nil]

/-- A check-return table that is loaded is neither made nor loaded again. -/
theorem loadCheckReturn_of_loaded (loaded : s.run.databases.hasCheckReturn = true) :
    s.createCheckReturn.loadCheckReturn = s := by
  obtain ⟨table, present, isLoaded⟩ := exists_of_any loaded
  have created : s.createCheckReturn = s := by
    apply modifyDatabases_of_same
    rw [present, Option.getD_some, ← present]
  have asked : s.checkReturn = table := by
    unfold checkReturn
    rw [present, Option.getD_some]
  have load : table.load s.registry = ⟨table, s.registry, []⟩ := if_pos isLoaded
  rw [created, loadCheckReturn_eq, asked, load]
  apply takeIn_nothing
  apply modifyDatabases_of_same
  rw [present, Option.map_some, ← present]

theorem loadDeclared_of_loaded (loaded : s.run.databases.hasNullness .declared = true) :
    s.createDeclared.loadDeclared s.runNumber = s := by
  obtain ⟨table, present, isLoaded⟩ := exists_of_any loaded
  have created : s.createDeclared = s := by
    apply modifyDatabases_of_same
    rw [present, Option.getD_some, ← present]
  have asked : s.declaredOf s.runNumber = table := by
    unfold declaredOf databasesOf
    rw [if_pos rfl, present, Option.getD_some]
  have load : table.load s.registry = ⟨table, s.registry, []⟩ := if_pos isLoaded
  rw [created, loadDeclared_eq, asked, load]
  apply takeIn_nothing
  apply modifyDatabases_of_same
  rw [← present]

theorem loadQualified_of_loaded (loaded : s.run.databases.hasNullness .qualified = true) :
    s.createQualified.loadQualified s.runNumber = s := by
  obtain ⟨q, present, isLoaded⟩ := exists_of_any loaded
  have created : s.createQualified = s := by
    unfold createQualified
    rw [present]
  have asked : (s.qualifiedOf s.runNumber).isLoaded = true := by
    rw [qualifiedOf_self present]
    exact isLoaded
  rw [created]
  unfold loadQualified
  exact if_pos asked

theorem loadNullness_of_loaded {source : NullnessSource}
    (loaded : s.run.databases.hasNullness source = true) :
    (s.createNullness source).loadNullness source s.runNumber = s := by
  cases source with
  | declared => exact loadDeclared_of_loaded loaded
  | qualified => exact loadQualified_of_loaded loaded

theorem Supplied.updateDatabases (supplied : Supplied s) (pass : Nat) : s.updateDatabases pass = s := by
  unfold Session.updateDatabases
  split
  · rfl
  · rw [loadCheckReturn_of_loaded supplied.checkReturn]
    exact loadNullness_of_loaded supplied.nullness

/-! ## Loading for the first time -/

theorem databases_modifyDatabases (s : Session) (change : Databases → Databases) :
    (s.modifyDatabases change).run.databases = change s.run.databases := by
  unfold modifyDatabases
  rw [modifyDatabasesOf_self]

/-- The entry that a host puts in is the one that the table has. -/
theorem find?_setCheckReturn (s : Session) (c : ClassDescriptor) (value : CheckReturn) :
    (s.createCheckReturn.setCheckReturn (·.setClass c value)).checkReturn.classes.find? c.id =
      some value := by
  unfold checkReturn setCheckReturn createCheckReturn
  rw [databases_modifyDatabases, databases_modifyDatabases]
  exact (Table.find?_insert ..).trans (if_pos rfl)

theorem hasCheckReturn_loadCheckReturn (s : Session) :
    s.createCheckReturn.loadCheckReturn.run.databases.hasCheckReturn = true := by
  have created : s.createCheckReturn.run.databases.checkReturn =
      some (s.run.databases.checkReturn.getD .empty) :=
    congrArg Databases.checkReturn (s.databases_modifyDatabases _)
  generalize s.createCheckReturn = t at created
  have taken : t.loadCheckReturn.run.databases.checkReturn =
      t.run.databases.checkReturn.map fun _ => (t.checkReturn.load t.registry).table :=
    congrArg Databases.checkReturn (databases_modifyDatabases { t with registry := _ } _)
  unfold Databases.hasCheckReturn
  rw [taken, created]
  exact CheckReturnTable.isLoaded_load t.checkReturn t.registry

theorem hasNullness_loadDeclared (s : Session) :
    (s.loadDeclared s.runNumber).run.databases.hasNullness .declared = true := by
  have taken : (s.loadDeclared s.runNumber).run.databases.declared =
      some ((s.declaredOf s.runNumber).load s.registry).table :=
    congrArg Databases.declared (databases_modifyDatabases { s with registry := _ } _)
  unfold Databases.hasNullness
  rw [taken]
  exact DeclaredNullness.isLoaded_load (s.declaredOf s.runNumber) s.registry

theorem hasNullness_loadQualified (wf : s.registry.WellFormed)
    (present : s.run.databases.qualified.isSome) :
    (s.loadQualified s.runNumber).run.databases.hasNullness .qualified = true := by
  obtain ⟨q, held⟩ := Option.isSome_iff_exists.1 present
  by_cases loaded : (s.qualifiedOf s.runNumber).isLoaded = true
  · have before : s.run.databases.hasNullness .qualified = true := by
      rw [qualifiedOf_self held] at loaded
      unfold Databases.hasNullness
      rw [held]
      exact loaded
    unfold loadQualified
    rw [if_pos loaded]
    exact before
  · rw [loadQualified_of_unloaded loaded]
    generalize marked : s.setQualified s.runNumber
      { s.qualifiedOf s.runNumber with isLoaded := true } = t
    have first : Does ⟨true, true⟩ True [] s t := marked ▸ does_setQualified fun _ => rfl
    have now : t.run.databases.hasNullness .qualified = true := by
      rw [← marked, setQualified, modifyDatabasesOf_self]
      rfl
    have repeats : Registry.Repeats t.registry t.registry
        (Registry.internClass Nullness.checkForNullClass) :=
      Registry.repeats_internClass (first.registry.wellFormed wf) _
    have interned : Does ⟨true, true⟩ True [] t _ := does_interning repeats.grows
    exact ((interned.trans (does_markEquals _)).databases trivial).nullness .qualified now

theorem hasNullness_loadNullness (wf : s.registry.WellFormed) (source : NullnessSource) :
    ((s.createNullness source).loadNullness source s.runNumber).run.databases.hasNullness source =
      true := by
  have created : Does ⟨true, true⟩ True [] s (s.createNullness source) := does_createNullness source
  have wf' := created.registry.wellFormed wf
  rw [← created.runNumber]
  cases source with
  | declared => exact hasNullness_loadDeclared _
  | qualified => exact hasNullness_loadQualified wf' createQualified_isSome

/-- The first pass leaves everything loaded, if it loads at all. -/
theorem supplied_updateDatabases (wf : s.registry.WellFormed) (loads : s.config.loadBuiltIns = true) :
    (s.updateDatabases 0).Supplied := by
  have busy : ¬ (0 ≠ 0 || !s.config.loadBuiltIns) = true := by
    rw [loads]
    decide
  have created : Does ⟨true, true⟩ True [] s s.createCheckReturn := does_createCheckReturn
  have loaded := created.trans (does_loadCheckReturn (created.registry.wellFormed wf))
  have first := s.hasCheckReturn_loadCheckReturn
  unfold updateDatabases
  rw [if_neg busy]
  generalize s.createCheckReturn.loadCheckReturn = t at loaded first
  have wf' := loaded.registry.wellFormed wf
  have listening : Does ⟨true, true⟩ True [] t (t.createNullness t.config.nullnessSource) :=
    does_createNullness _
  have rest := listening.trans
    (does_loadNullness (listening.registry.wellFormed wf') t.config.nullnessSource t.runNumber)
  constructor
  · exact (rest.databases trivial).checkReturn first
  · dsimp only
    rw [rest.config]
    exact hasNullness_loadNullness wf' t.config.nullnessSource

end

end Session

namespace Host

/-- Where a host can get without a reset, as long as it only adds entries to tables. -/
inductive Onward (free : Freedom) (h : Host) : Host → Prop
  | here : Onward free h h
  | after {k : Host} {call : Call} (before : Onward free h k) (allowed : call.Allowed free k)
    (stays : call ≠ .reset) (records : call.Records) : Onward free h (k.after call)

theorem Onward.reached {free : Freedom} {h k : Host} (onward : h.Onward free k)
    (reached : h.Reached free) : k.Reached free := by
  induction onward with
  | here => exact reached
  | after _ allowed _ _ ih => exact .after ih allowed

theorem Onward.supplied {free : Freedom} {h k : Host} (onward : h.Onward free k)
    (reached : h.Reached free) (supplied : h.session.Supplied) : k.session.Supplied := by
  induction onward with
  | here => exact supplied
  | @after k call before allowed stays records ih =>
    have tidy := (before.reached reached).freely.tidy
    exact ih.does records
      (Call.does tidy (Call.allowed_freely allowed) (call.resolvesOwn_freely k) stays)

/-- Once the promises of a run are loaded, no pass changes anything, whatever was called for in
between; and a pass that is not the first, or that is to load nothing, never does. -/
theorem Reached.updateDatabases_once {free : Freedom} {h : Host} (reached : h.Reached free) :
    (∀ pass, pass ≠ 0 ∨ h.session.config.loadBuiltIns = false →
      h.session.updateDatabases pass = h.session) ∧
    (h.session.config.loadBuiltIns = true →
      ∀ k, (h.after (.updateDatabases 0)).Onward free k →
        ∀ pass, k.session.updateDatabases pass = k.session) := by
  constructor
  · intro pass idle
    have nothing : (pass ≠ 0 || !h.session.config.loadBuiltIns) = true := by
      rcases idle with later | off
      · simp only [later, ne_eq, not_false_eq_true, decide_true, Bool.true_or]
      · rw [off, Bool.not_false, Bool.or_true]
    exact if_pos nothing
  · intro loads k onward pass
    have first : (h.after (.updateDatabases 0)).Reached free := .after reached trivial
    have supplied : (h.after (.updateDatabases 0)).session.Supplied :=
      Session.supplied_updateDatabases reached.tidy.registry loads
    exact (onward.supplied first supplied).updateDatabases pass

def repoClass : ParsedClass where
  name := "a/Repo"
  superclass := none
  methods :=
    [{ className := "a/Repo", name := "equals", signature := "(Ljava/lang/Object;)Z"
       flags := .ofList [] }]

def repoReader : ClassReader := fun c =>
  if c.name = repoClass.name then .ok repoClass else .error (.missingClass c.name)

def newcomer : Host :=
  start .usual { token := 0 } .fixed (.collect [])

def moved : Host :=
  (newcomer.after (.updateDatabases 0)).after (.lookup repoReader "a.Repo")

/-- A host that resolved a class after its promises were loaded, and put an entry over a built-in
one. -/
def furnished : Host :=
  moved.after (.setCheckReturn (·.setClass ⟨0, 1, "java/lang/String"⟩ .ignore))

theorem updateDatabases_furnished : newcomer.Reached ⟨false, false⟩ ∧
    (newcomer.after (.updateDatabases 0)).Onward ⟨false, false⟩ furnished ∧
    furnished.session.checkReturn.classes.find? 1 = some .ignore ∧
    furnished.session.updateDatabases 0 = furnished.session := by
  have started : newcomer.Reached ⟨false, false⟩ := .start (Registry.wellFormed_start 0)
  have loads : newcomer.session.config.loadBuiltIns = true := rfl
  have onward : (newcomer.after (.updateDatabases 0)).Onward ⟨false, false⟩ furnished :=
    .after (.after .here trivial Call.noConfusion trivial) trivial Call.noConfusion
      (Or.inr ⟨_, _, rfl⟩)
  have entry : furnished.session.checkReturn.classes.find? 1 = some .ignore := by
    unfold furnished
    generalize moved = h
    exact h.session.find?_setCheckReturn ⟨0, 1, "java/lang/String"⟩ .ignore
  exact ⟨started, onward, entry, started.updateDatabases_once.2 loads furnished onward 0⟩

end Host

end JvmFacts
