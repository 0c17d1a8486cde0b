import JvmFacts.Proofs.Registry.Sorting
import JvmFacts.Proofs.Session.Filing

/-!
The methods of a run in order. The table has each descriptor once, and descriptors of one registry never
say the same, so all methods come out by what their descriptors say, whatever order they were interned,
registered or read in.
-/

set_option autoImplicit false

namespace JvmFacts

/-- What the descriptor of a method says. -/
def Method.content (m : Method) : MemberContent :=
  m.descriptor.content

namespace Session

/-! ## The table of methods -/

section

variable {free : Freedom} {known : List Method} {s t : Session}

theorem methods_keepMethod (m : Method) (s : Session) :
    (s.keepMethod m).2.run.methods = s.run.methods ∨
      s.method? m.descriptor = none ∧
        (s.keepMethod m).2.run.methods = s.run.methods.insert m.descriptor m := by
  unfold keepMethod
  split
  · exact Or.inl rfl
  · rename_i absent
    exact Or.inr ⟨absent, rfl⟩

/-- A step leaves the table alone, or it adds a method under a new descriptor, or it clears the table. -/
theorem Change.methods_cases (change : Change free known s t) : t.run.methods = s.run.methods ∨
    (∃ m, s.method? m.descriptor = none ∧ t.run.methods = s.run.methods.insert m.descriptor m) ∨
      t.run.methods = [] := by
  have databases : ∀ run change, (s.modifyDatabasesOf run change).run.methods = s.run.methods := by
    intro run change
    obtain ⟨databases, retired, modified⟩ := modifyDatabasesOf_frame s run change
    rw [modified]
  cases change with
  | resolving step =>
    cases step with
    | making step =>
      cases step with
      | @makeAndKeep p within =>
        exact (methods_keepMethod (s.makeMethod p).1 (s.makeMethod p).2).imp_right
          fun kept => Or.inl ⟨_, kept⟩
      | _ => exact Or.inl rfl
    | remember fits kept => exact Or.inl rfl
  | rememberDepth =>
    unfold Session.rememberDepth
    split <;> exact Or.inl rfl
  | @keepMethod m handed =>
    exact (methods_keepMethod m s).imp_right fun kept => Or.inl ⟨m, kept⟩
  | annotate handed => exact Or.inl (methods_annotate _ _ _ _)
  | @notify m =>
    obtain ⟨recorders, notified⟩ := s.exists_notify m
    rw [notified]
    exact Or.inl rfl
  | report =>
    unfold Session.report
    split <;> exact Or.inl rfl
  | createHierarchy => exact Or.inl (databases _ _)
  | @addToHierarchy run c kind =>
    rcases addToHierarchy_frame s run c kind with same | ⟨grown, added⟩
    · rw [same]
      exact Or.inl rfl
    · rw [added]
      exact Or.inl (databases _ _)
  | promise hierarchy qualified => exact Or.inl (databases _ _)
  | createQualified =>
    obtain ⟨listeners, qualified, created⟩ := s.createQualified_frame
    rw [created]
    exact Or.inl rfl
  | askQualified may present => exact Or.inl (databases _ _)
  | markLoaded present => exact Or.inl (databases _ _)
  | reset => exact Or.inr (Or.inr rfl)
  | _ => exact Or.inl rfl

theorem nodup_keys_of_changes (distinct : s.run.methods.keys.Nodup)
    (changes : Changes free known s t) : t.run.methods.keys.Nodup := by
  induction changes with
  | refl => exact distinct
  | tail _ change ih =>
    rcases change.methods_cases with same | ⟨m, -, added⟩ | nothing
    · rw [same]
      exact ih
    · rw [added]
      exact Table.nodup_keys_insert ih
    · rw [nothing]
      exact List.nodup_nil

theorem Filed.descriptors_eq (filed : Filed s) (distinct : s.run.methods.keys.Nodup) :
    s.run.methods.values.map (fun m => m.descriptor) = s.run.methods.keys := by
  unfold Table.values Table.keys
  rw [List.map_map]
  apply List.map_congr_left
  intro entry member
  exact filed.keyed entry.1 entry.2 (Table.find?_of_mem distinct member)

theorem Filed.mem_values_iff (filed : Filed s) (distinct : s.run.methods.keys.Nodup) {m : Method} :
    m ∈ s.run.methods.values ↔ s.method? m.descriptor = some m := by
  constructor
  · intro member
    obtain ⟨⟨descriptor, n⟩, entry, rfl⟩ := List.mem_map.1 member
    have found := Table.find?_of_mem distinct entry
    obtain rfl := filed.keyed descriptor n found
    exact found
  · exact Table.mem_values_of_find?

/-- No two methods of the table say the same. -/
theorem Orderly.nodup_contents (orderly : Orderly s) (distinct : s.run.methods.keys.Nodup) :
    (s.run.methods.values.map Method.content).Nodup := by
  have descriptors : (s.run.methods.values.map fun m => m.descriptor).Nodup := by
    rw [orderly.filed.descriptors_eq distinct]
    exact distinct
  apply List.Nodup.map_on _ (List.Nodup.of_map _ descriptors)
  intro m one n two same
  have registered := fun k held => orderly.genuine.registered k (Or.inr held)
  have equal : m.descriptor = n.descriptor :=
    orderly.registry.member_eq_of_content (registered m one) (registered n two) same
  exact List.inj_on_of_nodup_map descriptors one two equal

end

/-! ## Sorting methods -/

/-- The methods in ascending order of their descriptors, wherever they were read. -/
def inOrder (ms : List Method) : List Method :=
  ms.mergeSort fun a b => (compare a.descriptor b.descriptor).isLE

section

variable {ms ns : List Method}

theorem perm_inOrder (ms : List Method) : (inOrder ms).Perm ms :=
  List.mergeSort_perm ms _

theorem map_inOrder (ms : List Method) :
    (inOrder ms).map (fun m => m.descriptor) = sortAscending (ms.map fun m => m.descriptor) :=
  List.map_mergeSort fun _ _ _ _ => rfl

theorem contents_inOrder (ms : List Method) : (inOrder ms).map Method.content =
    (sortAscending (ms.map fun m => m.descriptor)).map MemberDescriptor.content := by
  rw [← map_inOrder, List.map_map]
  rfl

/-- Methods that say the same, in whatever order, are listed alike. -/
theorem contents_inOrder_eq (same : (ms.map Method.content).Perm (ns.map Method.content)) :
    (inOrder ms).map Method.content = (inOrder ns).map Method.content := by
  rw [contents_inOrder, contents_inOrder]
  apply map_sortAscending_eq fun a b => MemberDescriptor.content_le
  rw [List.map_map, List.map_map]
  exact same

theorem strict_inOrder (apart : (ms.map Method.content).Nodup) :
    (inOrder ms).Pairwise fun a b => a.content < b.content := by
  have descriptors : ((ms.map fun m => m.descriptor).map MemberDescriptor.content).Nodup := by
    rw [List.map_map]
    exact apart
  have strict := strict_sortAscending (fun a b => MemberDescriptor.content_le) descriptors
  rw [← map_inOrder, List.pairwise_map] at strict
  exact strict

theorem inOrder_eq_of_perm (apart : (ms.map Method.content).Nodup) (same : ns.Perm ms) :
    inOrder ns = inOrder ms := by
  have others : (ns.map Method.content).Nodup := (same.map _).nodup_iff.2 apart
  apply List.Perm.eq_of_pairwise _ (strict_inOrder others) (strict_inOrder apart)
  · exact (perm_inOrder ns).trans (same.trans (perm_inOrder ms).symm)
  · exact fun a b _ _ up down => absurd (lt_trans up down) (lt_irrefl _)

end

end Session

namespace Host

/-! ## Registering -/

/-- The host registers these methods one after the other. -/
def registerAll (h : Host) (ms : List Method) : Host :=
  ms.foldl (fun h m => h.after (.register m)) h

section

variable {free : Freedom} {h : Host} {ms ns : List Method}

/-- The first method that was registered for a descriptor stays. -/
theorem method?_registerAll (h : Host) (ms : List Method) (descriptor : MethodDescriptor) :
    (h.registerAll ms).session.method? descriptor =
      (h.session.method? descriptor).or (ms.find? fun m => m.descriptor = descriptor) := by
  induction ms generalizing h with
  | nil => exact (Option.or_none).symm
  | cons m rest ih =>
    refine (ih (h.after (.register m))).trans ?_
    change ((h.session.keepMethod m).2.method? descriptor).or _ = _
    rw [Session.method?_keepMethod, Option.or_assoc, List.find?_cons]
    by_cases same : m.descriptor = descriptor
    · simp [same]
    · simp [same]

theorem Reached.registerAll (reached : h.Reached free) (given : ms ⊆ h.methods) :
    (h.registerAll ms).Reached free := by
  induction ms generalizing h with
  | nil => exact reached
  | cons m rest ih =>
    obtain ⟨first, others⟩ := List.cons_subset.1 given
    have allowed : (Call.register m).Allowed free h := first
    apply ih (.after reached allowed)
    intro n member
    exact List.mem_append_left _ (List.mem_append_left _ (others member))

theorem Reached.nodup_keys (reached : h.Reached free) : h.session.run.methods.keys.Nodup := by
  induction reached with
  | start wf => exact List.nodup_nil
  | after before allowed ih =>
    exact Session.nodup_keys_of_changes ih (Call.changes before.tidy allowed)

theorem Reached.nodup_contents (reached : h.Reached free) :
    (h.session.run.methods.values.map Method.content).Nodup :=
  reached.orderly.nodup_contents reached.nodup_keys

theorem Reached.mem_values_iff (reached : h.Reached free) {m : Method} :
    m ∈ h.session.run.methods.values ↔ h.session.method? m.descriptor = some m :=
  reached.filed.mem_values_iff reached.nodup_keys

theorem Reached.mem_contents_registerAll (reached : h.Reached free) (given : ms ⊆ h.methods)
    (c : MemberContent) : c ∈ (h.registerAll ms).session.run.methods.values.map Method.content ↔
      c ∈ (h.session.run.methods.values ++ ms).map Method.content := by
  have after := reached.registerAll given
  simp only [List.mem_map]
  constructor
  · rintro ⟨m, held, rfl⟩
    refine ⟨m, List.mem_append.2 ?_, rfl⟩
    rw [after.mem_values_iff, method?_registerAll, Option.or_eq_some_iff] at held
    rcases held with before | ⟨-, found⟩
    · exact Or.inl (reached.mem_values_iff.2 before)
    · exact Or.inr (List.mem_of_find?_eq_some found)
  · rintro ⟨m, held, rfl⟩
    have some : ∃ n, (h.registerAll ms).session.method? m.descriptor = some n := by
      rw [method?_registerAll, ← Option.isSome_iff_exists, Option.isSome_or, Bool.or_eq_true]
      rcases List.mem_append.1 held with before | member
      · rw [reached.mem_values_iff.1 before]
        exact Or.inl rfl
      · exact Or.inr (List.find?_isSome.2 ⟨m, member, decide_eq_true rfl⟩)
    obtain ⟨n, found⟩ := some
    -- another method may have been there first, but it is for the same descriptor
    refine ⟨n, Table.mem_values_of_find? found, ?_⟩
    exact congrArg MemberDescriptor.content (after.filed.keyed _ n found)

/-- Methods of different descriptors can be registered in any order. -/
theorem Reached.perm_values_registerAll (reached : h.Reached free) (given : ms ⊆ h.methods)
    (same : ∀ m, m ∈ ms ↔ m ∈ ns)
    (apart : ∀ m ∈ ms, ∀ n ∈ ms, m.descriptor = n.descriptor → m = n) :
    (h.registerAll ms).session.run.methods.values.Perm
      (h.registerAll ns).session.run.methods.values := by
  have one := reached.registerAll given
  have two := reached.registerAll fun m member => given ((same m).2 member)
  have nodup : ∀ {k : Host}, k.Reached free → k.session.run.methods.values.Nodup :=
    fun held => List.Nodup.of_map _ held.nodup_contents
  rw [List.perm_ext_iff_of_nodup (nodup one) (nodup two)]
  intro m
  rw [one.mem_values_iff, two.mem_values_iff, method?_registerAll, method?_registerAll]
  have first : (ms.find? fun n => n.descriptor = m.descriptor) =
      ns.find? fun n => n.descriptor = m.descriptor := by
    apply find?_eq_of_unique same
    intro a one b two left right
    exact apart a one b two ((of_decide_eq_true left).trans (of_decide_eq_true right).symm)
  rw [first]

end

/-- Registries that were asked for the same things list descriptors that say the same, in the same
order, and in one registry the order never ties two descriptors. So all methods of a run come in strictly
ascending order of what they say, however they were interned, registered and read. -/
theorem listings_by_content :
    (∀ (i j : Nat) (one two : List Registry.Operation),
      (∀ key, key ∈ Registry.asked one ↔ key ∈ Registry.asked two) →
      ∃ r s, Registry.operateAll one { token := i } = r ∧
        Registry.operateAll two { token := j } = s ∧
        (sortAscending r.classes).map ClassDescriptor.name =
          (sortAscending s.classes).map ClassDescriptor.name ∧
        ∀ kind, (sortAscending (r.members kind)).map MemberDescriptor.content =
          (sortAscending (s.members kind)).map MemberDescriptor.content) ∧
    (∀ (token : Nat) (operations : List Registry.Operation),
      ∃ r, Registry.operateAll operations { token } = r ∧
      (∀ a ∈ r.classes, ∀ b ∈ r.classes, compare a b = .eq → a = b) ∧
      ∀ kind, ∀ a ∈ r.members kind, ∀ b ∈ r.members kind, compare a b = .eq → a = b) ∧
    (∀ (free : Freedom) (h : Host), h.Reached free →
      (h.session.allMethods.Pairwise fun a b => a.content < b.content) ∧
      (∀ ms, ms.Perm h.session.run.methods.values → Session.inOrder ms = h.session.allMethods) ∧
      ∀ ms ns, ms ⊆ h.methods → (∀ m, m ∈ ms ↔ m ∈ ns) →
        (∀ m ∈ ms, ∀ n ∈ ms, m.descriptor = n.descriptor → m = n) →
        (h.registerAll ms).session.allMethods = (h.registerAll ns).session.allMethods) ∧
    ∀ (free : Freedom) (h k : Host), h.Reached free → k.Reached free →
      ∀ ms ns, ms ⊆ h.methods → ns ⊆ k.methods →
        (∀ c, c ∈ (h.session.run.methods.values ++ ms).map Method.content ↔
          c ∈ (k.session.run.methods.values ++ ns).map Method.content) →
        (h.registerAll ms).session.allMethods.map Method.content =
          (k.registerAll ns).session.allMethods.map Method.content := by
  refine ⟨?_, ?_, ?_, ?_⟩
  · intro i j one two same
    have keys := Registry.perm_keys_operateAll i j same
    exact ⟨_, _, rfl, rfl, Registry.sorted_names_eq keys, Registry.sorted_contents_eq keys⟩
  · intro token operations
    have wf := Registry.wellFormed_operateAll token operations
    refine ⟨_, rfl, ?_, ?_⟩
    · intro a one b two tie
      exact wf.class_eq_of_name one two (ClassDescriptor.compare_eq_iff.1 tie).1
    · intro kind a one b two tie
      exact wf.member_eq_of_content one two (MemberDescriptor.content_eq tie)
  · intro free h reached
    refine ⟨Session.strict_inOrder reached.nodup_contents, ?_, ?_⟩
    · exact fun ms read => Session.inOrder_eq_of_perm reached.nodup_contents read
    · intro ms ns given same apart
      have perm := reached.perm_values_registerAll given same apart
      have after := reached.registerAll fun m member => given ((same m).2 member)
      exact Session.inOrder_eq_of_perm after.nodup_contents perm
  · intro free h k reached other ms ns given more same
    apply Session.contents_inOrder_eq
    have one := (reached.registerAll given).nodup_contents
    have two := (other.registerAll more).nodup_contents
    rw [List.perm_ext_iff_of_nodup one two]
    intro c
    rw [reached.mem_contents_registerAll given, other.mem_contents_registerAll more]
    exact same c

/-- A host over a registry of its own that built a method of each name. -/
def builder (token : Nat) (names : List String) : Host :=
  names.foldl (fun h name => h.after (.build
    { className := "a/B", name, signature := "()V", flags := .ofList [] }))
    (start .minimal { token } .fixed (.collect []))

theorem reached_builder (token : Nat) (names : List String) :
    (builder token names).Reached ⟨false, false⟩ := by
  apply List.foldlRecOn
  · exact .start (Registry.wellFormed_start token)
  · exact fun h reached name _ => .after reached trivial

/-- A method of a class, another class, and a request that is turned down. -/
def threeRequests : List Registry.Operation :=
  [.request (.ofMember .method "b.C" "run" "()V" false), .request (.ofClass "a/B"),
    .request (.ofClass "a/")]

theorem listings_twoOrders :
    (∃ r s, Registry.operateAll threeRequests { token := 0 } = r ∧
      Registry.operateAll threeRequests.reverse { token := 1 } = s ∧
      r.classes.map ClassDescriptor.name = ["b/C", "a/B"] ∧
      s.classes.map ClassDescriptor.name = ["a/B", "b/C"] ∧
      (sortAscending r.classes).map ClassDescriptor.name =
        (sortAscending s.classes).map ClassDescriptor.name) ∧
    (builder 0 ["stop", "run"]).methods.map (·.descriptor.id) = [2, 3] ∧
    (builder 1 ["run", "stop"]).methods.map (·.descriptor.id) = [2, 3] ∧
    ((builder 0 ["stop", "run"]).registerAll (builder 0 ["stop", "run"]).methods
        ).session.allMethods.map Method.content =
      ((builder 1 ["run", "stop"]).registerAll (builder 1 ["run", "stop"]).methods
        ).session.allMethods.map Method.content := by
  obtain ⟨sorts, -, -, alike⟩ := listings_by_content
  have same : ∀ key, key ∈ Registry.asked threeRequests ↔
      key ∈ Registry.asked threeRequests.reverse := by
    intro key
    rw [Registry.asked, Registry.asked, List.filterMap_reverse, List.mem_reverse]
  have said : (((builder 0 ["stop", "run"]).session.run.methods.values ++
        (builder 0 ["stop", "run"]).methods).map Method.content).Perm
      (((builder 1 ["run", "stop"]).session.run.methods.values ++
        (builder 1 ["run", "stop"]).methods).map Method.content) := by
    decide +kernel
  refine ⟨?_, by decide +kernel, by decide +kernel, ?_⟩
  · obtain ⟨r, s, rfl, rfl, names, -⟩ := sorts 0 1 threeRequests threeRequests.reverse same
    exact ⟨_, _, rfl, rfl, by decide +kernel, by decide +kernel, names⟩
  · exact alike _ _ _ (reached_builder 0 _) (reached_builder 1 _) _ _ (List.Subset.refl _)
      (List.Subset.refl _) fun c => said.mem_iff

end Host

end JvmFacts
