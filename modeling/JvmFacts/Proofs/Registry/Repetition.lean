import JvmFacts.Proofs.Registry.Preparation

/-!
Doing work again on a registry that has grown since. All that the work interned is there, so it gives
the same again and leaves the registry as it is.
-/

set_option autoImplicit false

namespace JvmFacts

namespace Registry

/-- The registry grew, and its table of texts did. -/
structure Extends (r after : Registry) : Prop extends GrowsSoundly r after where
  strings : r.strings ⊆ after.strings

instance : IsPreorder Registry Extends where
  refl r := ⟨refl_of GrowsSoundly r, List.Subset.refl _⟩
  trans _ _ _ one two :=
    ⟨trans_of GrowsSoundly one.toGrowsSoundly two.toGrowsSoundly,
      List.Subset.trans one.strings two.strings⟩

/-- The work only adds to the registry, and if all that is there afterwards is in a last registry, then
on that one it gives the same and changes nothing. -/
structure Repeats {α : Type} (last r : Registry) (work : Interning α) : Prop where
  grows : r.Extends (work.run.run r).2
  again : (work.run.run r).2.Extends last → work.run.run last = ((work.run.run r).1, last)

section

variable {α β : Type} {last r : Registry}

theorem Repeats.pure (a : α) : Repeats last r (pure a) where
  grows := refl_of Extends r
  again := fun _ => rfl

theorem Repeats.throw (fault : Fault) : Repeats last r (throw fault : Interning α) where
  grows := refl_of Extends r
  again := fun _ => rfl

theorem Repeats.bind {first : Interning α} {next : α → Interning β} (one : Repeats last r first)
    (two : ∀ a t, r.Extends t → first.run.run r = (.ok a, t) → Repeats last t (next a)) :
    Repeats last r (first >>= next) := by
  have further := one.grows
  have same := one.again
  have run := Work.run_bind first next r
  have runLast := Work.run_bind first next last
  rcases ended : first.run.run r with ⟨fault | a, t⟩ <;> rw [ended] at further same run
  · constructor
    · rw [run]
      exact further
    · intro within
      rw [run] at within ⊢
      rw [runLast, same within]
  · have rest := two a t further ended
    constructor
    · rw [run]
      exact trans_of Extends further rest.grows
    · intro within
      rw [run] at within ⊢
      rw [runLast, same (trans_of Extends rest.grows within)]
      exact rest.again within

theorem Repeats.map (change : α → β) {work : Interning α} (repeats : Repeats last r work) :
    Repeats last r (change <$> work) := by
  rw [map_eq_pure_bind]
  exact repeats.bind fun a t _ _ => Repeats.pure (change a)

theorem Repeats.mapM {work : β → Interning α} (items : List β)
    (each : ∀ b t, r.Extends t → Repeats last t (work b)) : Repeats last r (items.mapM work) := by
  induction items generalizing r with
  | nil =>
    rw [List.mapM_nil]
    exact Repeats.pure []
  | cons b rest ih =>
    rw [List.mapM_cons]
    apply (each b r (refl_of Extends r)).bind
    intro a t further _
    apply (ih fun c u more => each c u (trans_of Extends further more)).bind
    intro as u _ _
    exact Repeats.pure (a :: as)

theorem Repeats.mapM_option {work : β → Interning α} (item : Option β)
    (each : ∀ b, Repeats last r (work b)) : Repeats last r (item.mapM work) := by
  cases item with
  | none => exact Repeats.pure none
  | some b => exact (each b).map some

/-! ## Texts -/

theorem extends_addString (r : Registry) (value : String) : r.Extends (r.addString value) where
  toGrowsSoundly := r.grows_addString value
  strings := by
    unfold addString
    split
    · exact List.Subset.refl _
    · exact List.subset_append_left ..

theorem mem_strings_addString (r : Registry) (value : String) :
    value ∈ (r.addString value).strings := by
  unfold addString
  split
  · rename_i held
    exact List.contains_iff_mem.1 held
  · exact List.mem_append_right _ (List.mem_singleton_self _)

theorem addString_of_mem {value : String} (held : value ∈ r.strings) : r.addString value = r :=
  if_pos (List.contains_iff_mem.2 held)

theorem repeats_canonical (last r : Registry) (value : String) :
    Repeats last r (canonical value) where
  grows := r.extends_addString value
  again := by
    intro within
    have held : value ∈ last.strings := within.strings (r.mem_strings_addString value)
    have same : last.addString value = last := addString_of_mem held
    exact congrArg (Prod.mk (Except.ok value)) same

/-! ## Classes -/

theorem extends_addClass (r : Registry) (name : String) : r.Extends (r.addClass name).2 where
  toGrowsSoundly := r.grows_addClass name
  strings := by
    cases found : r.findClass? name with
    | some c =>
      rw [addClass_of_find found]
      exact List.Subset.refl _
    | none =>
      rw [addClass_of_absent found]
      exact (r.extends_addString name).strings

theorem repeats_internClass (wf : r.WellFormed) (name : String) :
    Repeats last r (internClass name) := by
  cases checked : checkClass name with
  | error why =>
    have run := internClass_run_of_error (r := r) checked
    constructor
    · rw [run]
      exact refl_of Extends r
    · intro _
      rw [run, internClass_run_of_error checked]
  | ok accepted =>
    have run := internClass_run_of_ok (r := r) checked
    have grows := r.extends_addClass (Name.slashed name)
    obtain ⟨held, named⟩ := r.mem_addClass (Name.slashed name)
    constructor
    · rw [run]
      exact grows
    · intro within
      rw [run] at within ⊢
      have known := findClass?_of_mem (within.wellFormed (grows.wellFormed wf))
        (within.mem_classes held)
      rw [named] at known
      rw [internClass_run_of_ok checked, addClass_of_find known]

/-! ## Members -/

theorem strings_pushMember (r : Registry) {kind : MemberKind} (m : MemberDescriptor kind) :
    (r.pushMember m).strings = r.strings := by
  cases kind <;> rfl

variable {kind : MemberKind}

theorem findMember?_of_mem (wf : r.WellFormed) {m : MemberDescriptor kind}
    (held : m ∈ r.members kind) :
    r.findMember? m.owner m.name m.signature m.isStatic = some m := by
  have owned : ∀ n ∈ r.members kind, n.owner ∈ r.classes := by
    intro n member
    have owner := wf.owners (.ofMember kind n) (holds_ofMember.2 member)
    rwa [Descriptor.owner_ofMember] at owner
  cases found : @findMember? r kind m.owner m.name m.signature m.isStatic with
  | none =>
    have differs := List.find?_eq_none.1 found m held
    simp only [beq_self_eq_true, Bool.and_self, not_true_eq_false] at differs
  | some n =>
    obtain ⟨also, owner, named, typed, static⟩ := of_findMember? wf (owned m held) found
    have key : (Descriptor.ofMember kind n).key = (Descriptor.ofMember kind m).key := by
      rw [Descriptor.key_ofMember, Descriptor.key_ofMember, owner, named, typed, static]
    have same := wf.canonical _ _ (holds_ofMember.2 also) (holds_ofMember.2 held) key
    have equal : n = m := by
      cases kind
      · exact Descriptor.ofMethod.inj same
      · exact Descriptor.ofField.inj same
    rw [equal]

section

variable (kind) {c : ClassDescriptor} (name signature : String) (isStatic : Bool)

theorem extends_withTexts (r : Registry) : r.Extends (r.withTexts name signature) :=
  trans_of Extends (r.extends_addString name) ((r.addString name).extends_addString signature)

theorem withTexts_of_mem (named : name ∈ r.strings) (typed : signature ∈ r.strings) :
    r.withTexts name signature = r := by
  unfold withTexts
  rw [addString_of_mem named, addString_of_mem typed]

theorem strings_addMember (r : Registry) (c : ClassDescriptor) :
    (addMember kind r c name signature isStatic).2.strings = (r.withTexts name signature).strings := by
  rw [addMember_eq]
  split
  · rfl
  · exact strings_pushMember _ _

/-- What is made for a member, or found for it, belongs to the class that it was asked for. -/
theorem owner_addMember (wf : r.WellFormed) (owned : c ∈ r.classes) :
    (addMember kind r c name signature isStatic).1.owner = c := by
  have grows := r.extends_withTexts name signature
  rw [addMember_eq]
  split
  · rename_i m found
    exact (of_findMember? (grows.wellFormed wf) (grows.mem_classes owned) found).2.1
  · rfl

theorem repeats_addMember (accepts : kind.Accepts name signature) (wf : r.WellFormed)
    (owned : c ∈ r.classes) :
    Repeats last r (modifyGet (addMember kind · c name signature isStatic)) := by
  obtain ⟨grows, held, key⟩ := addMember_spec kind name signature isStatic accepts wf owned
  have strings := strings_addMember kind name signature isStatic r c
  have owner := owner_addMember kind name signature isStatic wf owned
  constructor
  · refine ⟨grows, ?_⟩
    change r.strings ⊆ (addMember kind r c name signature isStatic).2.strings
    rw [strings]
    exact (r.extends_withTexts name signature).strings
  · intro within
    have present : (r.withTexts name signature).strings ⊆ last.strings := by
      rw [← strings]
      exact within.strings
    have typed : signature ∈ last.strings := present (mem_strings_addString _ signature)
    have named : name ∈ last.strings :=
      present ((extends_addString _ signature).strings (r.mem_strings_addString name))
    have known := findMember?_of_mem (within.wellFormed (grows.wellFormed wf))
      (within.mem_members held)
    rw [Descriptor.key_ofMember] at key
    obtain ⟨-, -, sameName, sameSignature, sameStatic⟩ := DescriptorKey.ofMember.inj key
    rw [owner, sameName, sameSignature, sameStatic] at known
    have added : addMember kind last c name signature isStatic =
        ((addMember kind r c name signature isStatic).1, last) := by
      rw [addMember_eq last, withTexts_of_mem name signature named typed, known]
    exact congrArg (Prod.map Except.ok id) added

theorem repeats_internMember (wf : r.WellFormed) (owner : String) :
    Repeats last r (internMember kind owner name signature isStatic) := by
  unfold internMember
  cases checked : checkMember kind name signature with
  | error why => exact Repeats.throw _
  | ok accepted =>
    apply (repeats_internClass wf owner).bind
    intro c t grows interned
    have made := (yields_internClass r owner).post
    rw [interned] at made
    exact repeats_addMember kind name signature isStatic (checkMember_eq_ok_iff.1 checked)
      (grows.wellFormed wf) (made c rfl).1

end

end

/-! ## Requests -/

theorem Request.repeats_work {r : Registry} (last : Registry) (wf : r.WellFormed)
    (request : Request) : Repeats last r request.work := by
  have member : ∀ kind owner name signature isStatic,
      Repeats last r (internMember kind owner name signature isStatic) :=
    fun kind owner name signature isStatic =>
      repeats_internMember kind name signature isStatic wf owner
  cases request with
  | ofClass name => exact (repeats_internClass wf name).map _
  | ofSignature signature => exact (repeats_internClass wf _).map _
  | ofMember kind owner name signature isStatic =>
    cases kind with
    | method => exact (member .method owner name signature isStatic).map _
    | field => exact (member .field owner name signature isStatic).map _
  | ofKind kind owner name signature isStatic =>
    cases kind with
    | ofClass => exact (repeats_internClass wf owner).map _
    | ofMember kind =>
      cases kind with
      | method => exact (member .method owner name signature isStatic).map _
      | field => exact (member .field owner name signature isStatic).map _

theorem extends_serve {r : Registry} (wf : r.WellFormed) (q : Request) : r.Extends (r.serve q) :=
  (q.repeats_work r wf).grows

theorem extends_serveWithin (last : Registry) (requests : List Request) {r : Registry}
    (wf : r.WellFormed) : r.Extends (last.serveWithin requests r) := by
  induction requests generalizing r with
  | nil => exact refl_of Extends r
  | cons q rest ih =>
    unfold serveWithin
    rw [List.foldl_cons]
    split
    · have first := extends_serve wf q
      exact trans_of Extends first (ih (first.wellFormed wf))
    · exact ih wf

/-- Nothing is served of what the registry has nothing to add for. -/
theorem serveWithin_self (last : Registry) (requests : List Request) :
    last.serveWithin requests last = last := by
  induction requests with
  | nil => rfl
  | cons q rest ih =>
    unfold serveWithin
    rw [List.foldl_cons]
    split
    · rename_i same
      rw [same]
      exact ih
    · exact ih

end Registry

open Registry

/-! ## Methods and classes -/

section

variable {last r : Registry} (wf : r.WellFormed)

include wf

theorem MemberReference.repeats_intern (kind : MemberKind) (reference : MemberReference) :
    Repeats last r (reference.intern kind) :=
  repeats_internMember kind _ _ _ wf _

theorem MemberReference.repeats_internAll? (kind : MemberKind)
    (reference : Option MemberReference) : Repeats last r (internAll? kind reference) := by
  cases reference with
  | none => exact Repeats.pure none
  | some reference => exact (reference.repeats_intern wf kind).map some

theorem MethodDraft.repeats_prepare (d : MethodDraft) : Repeats last r d.prepare := by
  unfold prepare
  apply (repeats_internMember .method d.name d.signature d.isStatic wf d.className).bind
  intro descriptor r₁ grows₁ _
  have wf₁ := grows₁.wellFormed wf
  apply (MemberReference.repeats_internAll? wf₁ .method d.forwardsTo).bind
  intro forwardsTo r₂ grows₂ _
  have wf₂ := grows₂.wellFormed wf₁
  apply (MemberReference.repeats_internAll? wf₂ .field d.accesses).bind
  intro accesses r₃ _ _
  apply (Repeats.mapM d.exceptions fun text t _ => repeats_canonical last t text).bind
  intro exceptions r₄ _ _
  apply (Repeats.mapM_option d.sourceSignature (repeats_canonical last r₄)).bind
  intro sourceSignature r₅ _ _
  exact Repeats.pure _

theorem ParsedClass.repeats_prepareMethod (c : ClassDescriptor) (d : MethodDraft) :
    Repeats last r (prepareMethod c d) := by
  unfold prepareMethod
  by_cases foreign : Name.slashed d.className ≠ c.name
  · simp only [if_pos foreign]
    exact Repeats.throw _
  · simp only [if_neg foreign]
    exact d.repeats_prepare wf

theorem ParsedClass.repeats_prepare (c : ClassDescriptor) (parsed : ParsedClass) :
    Repeats last r (parsed.prepare c) := by
  unfold prepare
  by_cases other : Name.slashed parsed.name ≠ c.name
  · simp only [if_pos other]
    exact Repeats.throw _
  · simp only [if_neg other]
    apply (Repeats.mapM_option parsed.superclass (repeats_internClass wf)).bind
    intro superclass r₁ grows₁ _
    have wf₁ := grows₁.wellFormed wf
    apply (Repeats.mapM parsed.interfaces fun name t grows =>
      repeats_internClass (grows.wellFormed wf₁) name).bind
    intro interfaces r₂ grows₂ _
    have wf₂ := grows₂.wellFormed wf₁
    apply (Repeats.mapM parsed.fields fun f t grows =>
      repeats_internMember .field f.name f.signature f.isStatic (grows.wellFormed wf₂) c.name).bind
    intro fields r₃ grows₃ _
    have wf₃ := grows₃.wellFormed wf₂
    apply (Repeats.mapM parsed.methods fun d t grows =>
      repeats_prepareMethod (grows.wellFormed wf₃) c d).bind
    intro methods r₄ _ _
    apply (Repeats.mapM_option parsed.sourceFile (repeats_canonical last r₄)).bind
    intro sourceFile r₅ _ _
    exact Repeats.pure _

end

/-! ## Built-in entries -/

namespace Loading

variable {τ δ : Type} {last : Registry} {l : Loading τ}

def onto (l : Loading τ) (registry : Registry) : Loading τ :=
  { l with registry }

/-- Loading only adds to the registry, and on a last registry that holds all that is there afterwards
it loads the same. -/
structure Repeats (last : Registry) (l : Loading τ) (step : Loading τ → Loading τ) : Prop where
  grows : l.registry.Extends (step l).registry
  again : (step l).registry.Extends last → step (l.onto last) = (step l).onto last

theorem Repeats.andThen {first next : Loading τ → Loading τ} (one : Repeats last l first)
    (two : Repeats last (first l) next) : Repeats last l fun l => next (first l) where
  grows := trans_of Extends one.grows two.grows
  again := by
    intro within
    rw [one.again (trans_of Extends two.grows within)]
    exact two.again within

theorem repeats_take {kind entry : String} {intern : Interning δ} {record : δ → τ → τ}
    (repeats : Registry.Repeats last l.registry intern) :
    Repeats last l (take kind entry intern record) := by
  have further := repeats.grows
  have same := repeats.again
  have lastRegistry : (l.onto last).registry = last := rfl
  constructor
  · unfold take
    rcases ended : intern.run.run l.registry with ⟨fault | d, t⟩ <;> rw [ended] at further <;>
      exact further
  · unfold take
    rw [lastRegistry]
    rcases ended : intern.run.run l.registry with ⟨fault | d, t⟩ <;> rw [ended] at same <;>
      intro within <;> rw [same within] <;> rfl

theorem repeats_foldl {ι : Type} {step : Loading τ → ι → Loading τ}
    (each : ∀ (l : Loading τ) entry, l.registry.WellFormed → Repeats last l (step · entry))
    (entries : List ι) (wf : l.registry.WellFormed) :
    Repeats last l fun l => entries.foldl step l := by
  induction entries generalizing l with
  | nil => exact ⟨refl_of Extends l.registry, fun _ => rfl⟩
  | cons entry rest ih =>
    have first := each l entry wf
    exact first.andThen (ih (first.grows.wellFormed wf))

end Loading

namespace CheckReturnTable

/-- Loads these entries, whatever the table holds. -/
def loadFrom (methods : List (KnownMethod × CheckReturn)) (classes : List (String × CheckReturn))
    (l : Loading CheckReturnTable) : Loading CheckReturnTable :=
  let both := classes.foldl takeClass (methods.foldl takeMethod l)
  { both with log := both.log ++ [summary both.table] }

theorem load_of_unloaded {t : CheckReturnTable} (unloaded : ¬ t.isLoaded = true) (r : Registry) :
    t.load r = loadFrom CheckReturn.knownMethods CheckReturn.knownClasses
      ⟨{ t with isLoaded := true }, r, []⟩ :=
  if_neg unloaded

theorem repeats_loadFrom (last : Registry) (methods : List (KnownMethod × CheckReturn))
    (classes : List (String × CheckReturn)) {l : Loading CheckReturnTable}
    (wf : l.registry.WellFormed) : Loading.Repeats last l (loadFrom methods classes) := by
  have method : ∀ (l : Loading CheckReturnTable) entry, l.registry.WellFormed →
      Loading.Repeats last l (takeMethod · entry) := by
    intro l entry wf
    unfold takeMethod Loading.takeMethod
    exact Loading.repeats_take (repeats_internMember .method _ _ _ wf _)
  have class_ : ∀ (l : Loading CheckReturnTable) entry, l.registry.WellFormed →
      Loading.Repeats last l (takeClass · entry) := by
    intro l entry wf
    unfold takeClass Loading.takeClass
    exact Loading.repeats_take (repeats_internClass wf _)
  have logs : ∀ l : Loading CheckReturnTable,
      Loading.Repeats last l fun l => { l with log := l.log ++ [summary l.table] } :=
    fun l => ⟨refl_of Extends l.registry, fun _ => rfl⟩
  have first := Loading.repeats_foldl method methods wf
  have both := first.andThen (Loading.repeats_foldl class_ classes (first.grows.wellFormed wf))
  exact both.andThen (logs _)

theorem repeats_load (last : Registry) {r : Registry} (wf : r.WellFormed) (t : CheckReturnTable) :
    r.Extends (t.load r).registry ∧
      ((t.load r).registry.Extends last → t.load last = (t.load r).onto last) := by
  by_cases loaded : t.isLoaded = true
  · have same : ∀ r, t.load r = ⟨t, r, []⟩ := fun _ => if_pos loaded
    rw [same, same]
    exact ⟨refl_of Extends r, fun _ => rfl⟩
  · have all := repeats_loadFrom last CheckReturn.knownMethods CheckReturn.knownClasses
      (l := ⟨{ t with isLoaded := true }, r, []⟩) wf
    rw [load_of_unloaded loaded, load_of_unloaded loaded]
    exact ⟨all.grows, all.again⟩

end CheckReturnTable

namespace DeclaredNullness

/-- Loads these entries, whatever the table holds. -/
def loadFrom (entries : List (KnownMethod × Slot × Nullness)) (l : Loading DeclaredNullness) :
    Loading DeclaredNullness :=
  entries.foldl takeKnown l

theorem load_of_unloaded {t : DeclaredNullness} (unloaded : ¬ t.isLoaded = true) (r : Registry) :
    t.load r = loadFrom known ⟨{ t with isLoaded := true }, r, []⟩ :=
  if_neg unloaded

theorem repeats_loadFrom (last : Registry) (entries : List (KnownMethod × Slot × Nullness))
    {l : Loading DeclaredNullness} (wf : l.registry.WellFormed) :
    Loading.Repeats last l (loadFrom entries) := by
  have each : ∀ (l : Loading DeclaredNullness) entry, l.registry.WellFormed →
      Loading.Repeats last l (takeKnown · entry) := by
    intro l entry wf
    unfold takeKnown Loading.takeMethod
    exact Loading.repeats_take (repeats_internMember .method _ _ _ wf _)
  exact Loading.repeats_foldl each entries wf

theorem repeats_load (last : Registry) {r : Registry} (wf : r.WellFormed) (t : DeclaredNullness) :
    r.Extends (t.load r).registry ∧
      ((t.load r).registry.Extends last → t.load last = (t.load r).onto last) := by
  by_cases loaded : t.isLoaded = true
  · have same : ∀ r, t.load r = ⟨t, r, []⟩ := fun _ => if_pos loaded
    rw [same, same]
    exact ⟨refl_of Extends r, fun _ => rfl⟩
  · have all := repeats_loadFrom last known (l := ⟨{ t with isLoaded := true }, r, []⟩) wf
    rw [load_of_unloaded loaded, load_of_unloaded loaded]
    exact ⟨all.grows, all.again⟩

end DeclaredNullness

end JvmFacts
