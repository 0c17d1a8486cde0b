import JvmFacts.Proofs.Names
import JvmFacts.Proofs.Registry.Interning

/-!
A registry over any number of requests, those that are turned down among them: two requests get the
same descriptor when they ask for the same thing and at no other time.
-/

set_option autoImplicit false

namespace JvmFacts

namespace Registry

/-- A text ends in a semicolon and has something before it. -/
theorem endsNamed_iff {rest : List Char} :
    rest.getLast? = some ';' ∧ rest ≠ [';'] ↔ ∃ inner, inner ≠ [] ∧ rest = inner ++ [';'] := by
  constructor
  · rintro ⟨ends, more⟩
    obtain ⟨inner, parts⟩ := List.getLast?_eq_some_iff.1 ends
    refine ⟨inner, ?_, parts⟩
    rintro rfl
    exact more parts
  · rintro ⟨inner, named, rfl⟩
    refine ⟨List.getLast?_concat, ?_⟩
    intro single
    exact named (List.append_left_eq_self.1 single)

theorem nameInSignature?_eq_some {signature name : String} :
    nameInSignature? signature = some name ↔ name ≠ "" ∧ signature = "L" ++ name ++ ";" := by
  have spelled : ∀ inner : List Char,
      signature.toList = 'L' :: (inner ++ [';']) ↔ signature = "L" ++ String.ofList inner ++ ";" := by
    intro inner
    have around : ("L" ++ String.ofList inner ++ ";").toList = 'L' :: (inner ++ [';']) := by
      rw [String.toList_append, String.toList_append, @String.toList_ofList inner]
      rfl
    rw [← around, String.toList_inj]
  constructor
  · intro found
    unfold nameInSignature? at found
    split at found
    · rename_i rest text
      split at found
      · rename_i form
        obtain ⟨inner, named, rfl⟩ := endsNamed_iff.1 form
        rw [List.dropLast_concat] at found
        obtain rfl := Option.some.inj found
        refine ⟨?_, (spelled inner).1 text⟩
        intro empty
        apply named
        rw [← @String.toList_ofList inner, empty]
        rfl
      · cases found
    · cases found
  · rintro ⟨named, spelling⟩
    have inner : name.toList ≠ [] := by
      intro nothing
      exact named (String.toList_eq_nil_iff.1 nothing)
    have text : signature.toList = 'L' :: (name.toList ++ [';']) := by
      rw [spelled, String.ofList_toList]
      exact spelling
    unfold nameInSignature?
    rw [text]
    simp only [if_pos (endsNamed_iff.2 ⟨name.toList, inner, rfl⟩), List.dropLast_concat,
      String.ofList_toList]

theorem nameInSignature?_of_isArray {text : String} (array : Name.isArray text = true) :
    nameInSignature? text = none := by
  unfold nameInSignature?
  split
  · rename_i rest written
    unfold Name.isArray at array
    rw [written] at array
    cases array
  · rfl

namespace Request

/-- What a request asks for. -/
def key : Request → DescriptorKey
  | ofClass name => .ofClass (Name.slashed name)
  | ofSignature signature =>
    .ofClass (Name.slashed ((nameInSignature? signature).getD signature))
  | ofMember kind owner name signature isStatic =>
    .ofMember kind (Name.slashed owner) name signature isStatic
  | ofKind .ofClass owner _ _ _ => .ofClass (Name.slashed owner)
  | ofKind (.ofMember kind) owner name signature isStatic =>
    .ofMember kind (Name.slashed owner) name signature isStatic

/-- A signature asks for the class that it names. -/
theorem key_ofSignature {name : String} (named : name ≠ "") :
    (ofSignature ("L" ++ name ++ ";")).key = (ofClass name).key := by
  simp only [key, nameInSignature?_eq_some.2 ⟨named, rfl⟩, Option.getD_some]

theorem key_dotted {name : String} (named : Name.isArray name = false) :
    (ofClass (Name.dotted name)).key = (ofClass name).key := by
  simp only [key, Name.slashed_dotted named]

section

variable (r : Registry)

theorem yields_class (name : String) :
    Work.Yields GrowsSoundly r (Descriptor.ofClass <$> internClass name) fun after d =>
      after.Holds d ∧ d.key = .ofClass (Name.slashed name) := by
  apply Work.Yields.map
  apply (yields_internClass r name).mono
  intro after c _ made
  exact ⟨made.1, congrArg DescriptorKey.ofClass made.2⟩

variable {r} (wf : r.WellFormed)

include wf

theorem yields_method (owner name signature : String) (isStatic : Bool) :
    Work.Yields GrowsSoundly r (Descriptor.ofMethod <$> internMethod owner name signature isStatic)
      fun after d => after.Holds d ∧
        d.key = .ofMember .method (Name.slashed owner) name signature isStatic :=
  Work.Yields.map _ (yields_internMember .method owner name signature isStatic wf)

theorem yields_field (owner name signature : String) (isStatic : Bool) :
    Work.Yields GrowsSoundly r (Descriptor.ofField <$> internField owner name signature isStatic)
      fun after d => after.Holds d ∧
        d.key = .ofMember .field (Name.slashed owner) name signature isStatic :=
  Work.Yields.map _ (yields_internMember .field owner name signature isStatic wf)

/-- A request that is granted gets a descriptor of the registry with the key that it asks for. -/
theorem yields_work (q : Request) :
    Work.Yields GrowsSoundly r q.work fun after d => after.Holds d ∧ d.key = q.key := by
  cases q with
  | ofClass name => exact yields_class r name
  | ofSignature signature => exact yields_class r _
  | ofMember kind owner name signature isStatic =>
    cases kind with
    | method => exact yields_method wf owner name signature isStatic
    | field => exact yields_field wf owner name signature isStatic
  | ofKind kind owner name signature isStatic =>
    rcases kind with _ | (_ | _)
    · exact yields_class r owner
    · exact yields_method wf owner name signature isStatic
    · exact yields_field wf owner name signature isStatic

end

end Request

/-- Every request with its outcome, in order. -/
def serveAll : List Request → Registry → List (Request × Except Fault Descriptor) × Registry
  | [], r => ([], r)
  | q :: rest, r =>
    let (outcome, r) := q.work.run.run r
    let (more, r) := serveAll rest r
    ((q, outcome) :: more, r)

theorem serveAll_spec (requests : List Request) {r : Registry} (wf : r.WellFormed) :
    r.GrowsSoundly (serveAll requests r).2 ∧ (serveAll requests r).1.map Prod.fst = requests ∧
      ∀ q d, (q, .ok d) ∈ (serveAll requests r).1 →
        (serveAll requests r).2.Holds d ∧ d.key = q.key := by
  induction requests generalizing r with
  | nil => exact ⟨refl_of GrowsSoundly r, rfl, fun q d member => absurd member List.not_mem_nil⟩
  | cons q rest ih =>
    have one := Request.yields_work wf q
    obtain ⟨grows, asked, granted⟩ := ih (one.steps.wellFormed wf)
    refine ⟨trans_of GrowsSoundly one.steps grows, congrArg (q :: ·) asked, ?_⟩
    intro p d member
    rcases List.mem_cons.1 member with first | later
    · obtain ⟨rfl, outcome⟩ := Prod.mk.inj first
      obtain ⟨held, key⟩ := one.post d outcome.symm
      exact ⟨grows.holds held, key⟩
    · exact granted p d later

theorem serveAll_canonical (token : Nat) (requests : List Request) :
    ∃ history r, serveAll requests { token } = (history, r) ∧
      history.map Prod.fst = requests ∧
      (∀ q d p e, (q, .ok d) ∈ history → (p, .ok e) ∈ history → (d = e ↔ q.key = p.key)) ∧
      (∀ q d, (q, .ok d) ∈ history → r.Holds d ∧ r.Holds (.ofClass d.owner)) ∧
      ∀ d e, r.Holds d → r.Holds e → d ≠ e → d.id ≠ e.id := by
  obtain ⟨grows, asked, granted⟩ := serveAll_spec requests (wellFormed_start token)
  have wf := grows.wellFormed (wellFormed_start token)
  refine ⟨_, _, rfl, asked, ?_, ?_, ?_⟩
  · intro q d p e first second
    obtain ⟨one, oneKey⟩ := granted q d first
    obtain ⟨two, twoKey⟩ := granted p e second
    rw [← oneKey, ← twoKey]
    constructor
    · exact congrArg Descriptor.key
    · exact wf.canonical d e one two
  · intro q d member
    have held := (granted q d member).1
    exact ⟨held, wf.owners d held⟩
  · intro d e one two apart same
    exact apart (wf.apart d e one two same)

example : (serveAll [.ofClass "a.B", .ofMember .field "a/B" "x" "I" true, .ofClass "a.B/",
    .ofSignature "La/B;"] { token := 0 }).1.map (fun entry => entry.2.toOption.map Descriptor.id) =
      [some 1, some 2, none, some 1] := by
  decide +kernel

end Registry

end JvmFacts
