import JvmFacts.Proofs.Method.Signatures
import JvmFacts.Proofs.Registry.Inventory
import JvmFacts.Proofs.Session.Handles

/-!
The signatures of the methods that there are. A registry takes in no member without looking at its
signature, and nothing that a session does gets around the registry, so a method that anyone has, be it
built, read with its class or found in the table, has a signature that can be read.
-/

set_option autoImplicit false

namespace JvmFacts

namespace Session

section

variable {free : Freedom} {known : List Method} {s t : Session}

theorem sound_registry_of_changes (changes : Changes free known s t) (sound : s.registry.Sound) :
    t.registry.Sound :=
  (grows_of_changes changes).sound sound

/-- What a session of a sound registry handed out. -/
theorem Genuine.exists_reads (genuine : Genuine known s) (sound : s.registry.Sound) {m : Method}
    (handed : Handed known s m) : ∃ read, m.toMethodBody.Reads read :=
  MethodBody.exists_reads (sound .method m.descriptor (genuine.registered m handed))

/-- A method that is built has a signature that was looked at, whatever the registry holds already. -/
theorem exists_reads_of_build {d : MethodDraft} {m : Method}
    (built : (buildMethod d).run.run s = (.ok m, t)) : ∃ read, m.toMethodBody.Reads read := by
  have gives := (d.gives_accepted s.registry).mono fun _ p _ accepts => p.body.exists_reads accepts
  exact body_of_buildMethod (fun body => ∃ read, body.Reads read) gives built

end

end Session

/-- What a host can reach over a registry that began empty and that others asked things of before. -/
inductive Host.Begun (free : Freedom) : Host → Prop
  | start {config : Config} {token : Nat} {operations : List Registry.Operation} {paths : Paths}
    {reporter : Reporter} :
    Begun free (start config (Registry.operateAll operations { token }) paths reporter)
  | after {h : Host} {call : Call} (begun : Begun free h) (allowed : call.Allowed free h) :
    Begun free (h.after call)

section

variable {free : Freedom} {h : Host}

theorem Host.Begun.reached (begun : h.Begun free) : h.Reached free := by
  induction begun with
  | start => exact .start (Registry.wellFormed_operateAll _ _)
  | after _ allowed ih => exact .after ih allowed

theorem Host.Begun.sound (begun : h.Begun free) : h.session.registry.Sound := by
  induction begun with
  | @start config token operations paths reporter =>
    have grows := (Registry.grows_operateAll (Registry.wellFormed_start token) operations).1
    exact grows.sound (Registry.sound_start token)
  | after before allowed ih =>
    exact Session.sound_registry_of_changes (Call.changes before.reached.tidy allowed) ih

end

/-- A signature that a registry accepts can be read, and it ends like one without a result just when it
is read as one. A method that is built has such a signature, in any session, and so does each method
that a host ever has or finds in the table. -/
theorem signatures_read :
    (∀ r owner name signature isStatic m after,
      (Registry.internMethod owner name signature isStatic).run.run r = (.ok m, after) →
        m.signature = signature ∧ ∃ read, Spells signature read) ∧
    (∀ s d m t, (Session.buildMethod d).run.run s = (.ok m, t) →
      ∃ read, m.toMethodBody.Reads read) ∧
    ∀ free (h : Host), h.Begun free → ∀ m, Session.Handed h.methods h.session m →
      ∃ read, m.toMethodBody.Reads read := by
  refine ⟨?_, ?_, ?_⟩
  · intro r owner name signature isStatic m after granted
    have gives := Registry.gives_internMember r .method name signature isStatic owner
    obtain ⟨-, typed, accepts⟩ := gives.of_ok granted
    exact ⟨typed, exists_spells accepts.2⟩
  · intro s d m t built
    exact Session.exists_reads_of_build built
  · intro free h begun m handed
    exact begun.reached.genuine.exists_reads begun.sound handed

/-- A method that takes an instance of a class `V` and gives one back. -/
def lettered : MethodDraft where
  className := "a/B"
  name := "m"
  signature := "(JLV;)LV;"
  flags := .ofList []

def letteredMethod : Method where
  descriptor := ⟨2, ⟨0, 1, "a/B"⟩, "m", "(JLV;)LV;", false⟩
  flags := .ofList []
  sourceSignature := none
  exceptions := []
  syntheticParameters := 0
  callCount := 0
  usesConcurrency := false
  hasBackBranch := false
  isStub := false
  serial := 0

def letteredStart : Host :=
  .start .usual (Registry.operateAll [] { token := 0 }) .fixed (.collect [])

/-- The method is interned, built and had by the host, and read the same each time. -/
theorem signatures_read_lettered :
    ((Registry.internMethod "a/B" "m" "(JLV;)LV;" false).run.run { token := 0 }).1 =
        .ok letteredMethod.descriptor ∧
      ((Session.buildMethod lettered).run.run letteredStart.session).1 = .ok letteredMethod ∧
      (letteredStart.after (.build lettered)).Begun ⟨false, false⟩ ∧
      letteredMethod ∈ (letteredStart.after (.build lettered)).methods ∧
      (∃ read, Spells letteredMethod.descriptor.signature read) ∧
      (∃ read, letteredMethod.toMethodBody.Reads read) ∧
      (∀ m ∈ (letteredStart.after (.build lettered)).methods, ∃ read, m.toMethodBody.Reads read) ∧
      letteredMethod.parameterCount = 2 ∧ letteredMethod.returnsReference = true ∧
      CheckReturnTable.returnsVoid letteredMethod.toMethodBody = false := by
  obtain ⟨interned, built, had⟩ := signatures_read
  have granted : ((Registry.internMethod "a/B" "m" "(JLV;)LV;" false).run.run { token := 0 }).1 =
      .ok letteredMethod.descriptor :=
    Work.eq_ok_of_toOption (by decide +kernel)
  have made : ((Session.buildMethod lettered).run.run letteredStart.session).1 =
      .ok letteredMethod :=
    Work.eq_ok_of_toOption (by decide +kernel)
  have begun : (letteredStart.after (.build lettered)).Begun ⟨false, false⟩ :=
    .after .start trivial
  have member : letteredMethod ∈ (letteredStart.after (.build lettered)).methods := by
    decide +kernel
  have spelled := (interned _ _ _ _ _ _ _ (Prod.ext granted rfl)).2
  have read := built _ _ _ _ (Prod.ext made rfl)
  refine ⟨granted, made, begun, member, spelled, read, ?_, ?_, ?_, ?_⟩
  · exact fun m listed => had _ _ begun m (Or.inl listed)
  · decide +kernel
  · decide +kernel
  · decide +kernel

end JvmFacts
