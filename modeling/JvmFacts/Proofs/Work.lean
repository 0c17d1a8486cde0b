import Mathlib.Order.Defs.Unbundled
import JvmFacts.Fault
import JvmFacts.Proofs.Lists

/-!
Work that passes a state on and may fail. What was done before a failure stays done, so the state it
ends in is of interest either way.
-/

set_option autoImplicit false

namespace JvmFacts

abbrev Work (σ α : Type) := ExceptT Fault (StateM σ) α

namespace Work

section

variable {σ α β : Type}

theorem run_bind (first : Work σ α) (next : α → Work σ β) (s : σ) :
    (first >>= next).run.run s =
      match first.run.run s with
      | (.ok a, t) => (next a).run.run t
      | (.error fault, t) => (.error fault, t) := by
  change StateT.run (ExceptT.run (ExceptT.bind first next)) s = _
  unfold ExceptT.bind
  change (match first.run.run s with | (a, t) => StateT.run (ExceptT.bindCont next a) t) = _
  rcases first.run.run s with ⟨outcome | outcome, t⟩ <;> rfl

theorem run_map (change : α → β) (work : Work σ α) (s : σ) :
    (change <$> work).run.run s = ((work.run.run s).1.map change, (work.run.run s).2) := by
  rw [map_eq_pure_bind, run_bind]
  rcases work.run.run s with ⟨outcome | outcome, t⟩ <;> rfl

/-- Work may look at the state that it starts in. -/
theorem run_get_bind (next : σ → Work σ α) (s : σ) :
    (get >>= next : Work σ α).run.run s = (next s).run.run s :=
  rfl

theorem run_adapt (change : Fault → Fault) (work : Work σ α) (s : σ) :
    (ExceptT.adapt change work).run.run s =
      ((work.run.run s).1.mapError change, (work.run.run s).2) :=
  rfl

end

/-! ## Where work ends -/

/-- Work that starts in this state ends a number of steps further, and what it gives fits the state
that it ends in. -/
structure Yields {σ α : Type} (steps : σ → σ → Prop) (s : σ) (work : Work σ α)
    (post : σ → α → Prop) : Prop where
  steps : steps s (work.run.run s).2
  post : ∀ a, (work.run.run s).1 = .ok a → post (work.run.run s).2 a

section

variable {σ α β : Type} {steps : σ → σ → Prop} {s : σ} {post : σ → α → Prop}

theorem Yields.modifyGet {change : σ → α × σ} (step : steps s (change s).2)
    (fits : post (change s).2 (change s).1) : Yields steps s (modifyGet change) post where
  steps := step
  post := by
    intro a given
    obtain rfl : (change s).1 = a := Except.ok.inj given
    exact fits

theorem Yields.lift {more : σ → σ → Prop} {work : Work σ α} (yields : Yields steps s work post)
    (lifts : ∀ a b, steps a b → more a b) : Yields more s work post where
  steps := lifts _ _ yields.steps
  post := yields.post

theorem Yields.get_bind {next : σ → Work σ α} (yields : Yields steps s (next s) post) :
    Yields steps s (get >>= next) post := by
  have run := run_get_bind next s
  constructor
  · rw [run]
    exact yields.steps
  · rw [run]
    exact yields.post

theorem Yields.modify {change : σ → σ} (step : steps s (change s)) :
    Yields steps s (modify change : Work σ PUnit) fun t _ => t = change s where
  steps := step
  post := fun _ _ => rfl

theorem Yields.adapt {work : Work σ α} (change : Fault → Fault) (yields : Yields steps s work post) :
    Yields steps s (ExceptT.adapt change work) post where
  steps := yields.steps
  post := by
    intro a given
    rw [run_adapt] at given
    apply yields.post a
    cases outcome : (work.run.run s).1 with
    | error fault =>
      rw [outcome] at given
      cases given
    | ok b =>
      rw [outcome] at given
      exact congrArg Except.ok (Except.ok.inj given)

theorem Yields.mono {work : Work σ α} {weaker : σ → α → Prop} (yields : Yields steps s work post)
    (implies : ∀ t a, steps s t → post t a → weaker t a) : Yields steps s work weaker where
  steps := yields.steps
  post := fun a given => implies _ a yields.steps (yields.post a given)

theorem Yields.map (change : α → β) {work : Work σ α} {after : σ → β → Prop}
    (yields : Yields steps s work fun t a => after t (change a)) :
    Yields steps s (change <$> work) after := by
  constructor
  · rw [run_map]
    exact yields.steps
  · intro b given
    rw [run_map] at given ⊢
    cases outcome : (work.run.run s).1 with
    | error fault =>
      rw [outcome] at given
      cases given
    | ok a =>
      rw [outcome] at given
      obtain rfl : change a = b := Except.ok.inj given
      exact yields.post a outcome

variable [IsPreorder σ steps]

theorem Yields.pure {a : α} (fits : post s a) :
    Yields steps s (pure a) post where
  steps := refl_of steps s
  post := by
    intro b given
    obtain rfl : a = b := Except.ok.inj given
    exact fits

theorem Yields.throw (fault : Fault) :
    Yields steps s (throw fault : Work σ α) post where
  steps := refl_of steps s
  post := by
    intro a given
    cases given

theorem Yields.bind {first : Work σ α}
    {next : α → Work σ β} {after : σ → β → Prop} (one : Yields steps s first post)
    (two : ∀ a t, steps s t → post t a → Yields steps t (next a) after) :
    Yields steps s (first >>= next) after := by
  have further := one.steps
  have fits := one.post
  have run := run_bind first next s
  rcases ended : first.run.run s with ⟨fault | a, t⟩
  · rw [ended] at further run
    constructor
    · rw [run]
      exact further
    · intro b given
      rw [run] at given
      cases given
  · rw [ended] at further fits run
    have rest := two a t further (fits a rfl)
    constructor
    · rw [run]
      exact trans_of steps further rest.steps
    · intro b given
      rw [run] at given ⊢
      exact rest.post b given

/-- Item by item, where a later step takes back nothing of what earlier items gave. -/
theorem Yields.mapM_forall₂ (each : β → σ → α → Prop)
    (lasting : ∀ {b : β} {t u : σ} {a : α}, steps t u → each b t a → each b u a)
    {work : β → Work σ α} (items : List β)
    (yields : ∀ b ∈ items, ∀ t, steps s t → Yields steps t (work b) (each b)) :
    Yields steps s (items.mapM work) fun t as => List.Forall₂ (fun b a => each b t a) items as := by
  induction items generalizing s with
  | nil =>
    rw [List.mapM_nil]
    exact Yields.pure .nil
  | cons b rest ih =>
    rw [List.mapM_cons]
    apply Yields.bind (yields b (List.mem_cons_self ..) s (refl_of steps s))
    intro first t here held
    have others := ih (s := t) fun c member u there =>
      yields c (List.mem_cons_of_mem _ member) u (trans_of steps here there)
    apply Yields.bind others
    intro more u there kept
    exact Yields.pure (.cons (lasting there held) kept)

theorem Yields.mapM (lasting : ∀ {t u : σ} {a : α}, steps t u → post t a → post u a)
    {work : β → Work σ α} (items : List β)
    (each : ∀ b ∈ items, ∀ t, steps s t → Yields steps t (work b) post) :
    Yields steps s (items.mapM work) fun t as => ∀ a ∈ as, post t a := by
  have paired : Yields steps s (items.mapM work) fun t as =>
      List.Forall₂ (fun _ a => post t a) items as :=
    Yields.mapM_forall₂ (fun _ => post) (fun further held => lasting further held) items each
  apply paired.mono
  intro t as _ fits a member
  obtain ⟨b, -, held⟩ := exists_of_mem_right fits member
  exact held

theorem Yields.mapM_option (each : β → σ → α → Prop) {work : β → Work σ α} (item : Option β)
    (yields : ∀ b ∈ item, Yields steps s (work b) (each b)) :
    Yields steps s (item.mapM work) fun t a => Option.Rel (fun b a => each b t a) item a := by
  cases item with
  | none => exact Yields.pure .none
  | some b =>
    have single : (some b).mapM work = some <$> work b := rfl
    rw [single]
    apply Yields.map some
    apply (yields b rfl).mono
    intro t a _ fits
    exact .some fits

end

/-! ## What work gives -/

/-- Any state after any other. -/
def Anyhow {σ : Type} (_ _ : σ) : Prop :=
  True

instance {σ : Type} : IsPreorder σ Anyhow where
  refl _ := trivial
  trans _ _ _ _ _ := trivial

section

variable {σ α : Type} {s t : σ}

/-- What the work gives fits, wherever it ends. -/
abbrev Gives (s : σ) (work : Work σ α) (fits : α → Prop) : Prop :=
  Yields Anyhow s work fun _ => fits

theorem gives_anything (s : σ) (work : Work σ α) : Gives s work fun _ => True where
  steps := trivial
  post := fun _ _ => trivial

theorem Gives.of_ok {work : Work σ α} {fits : α → Prop} (gives : Gives s work fits) {a : α}
    (given : work.run.run s = (.ok a, t)) : fits a :=
  gives.post a (congrArg Prod.fst given)

end

/-! ## Faults -/

/-- Why work failed, if it did. -/
def faultOf {α : Type} : Except Fault α → Option Fault
  | .ok _ => none
  | .error fault => some fault

theorem eq_ok_of_toOption {α : Type} {outcome : Except Fault α} {a : α}
    (given : outcome.toOption = some a) : outcome = .ok a := by
  cases outcome with
  | error fault => cases given
  | ok b => exact congrArg Except.ok (Option.some.inj given)

/-- Whether the work fails, and how, does not depend on the state. -/
def FailsWith {σ α : Type} (work : Work σ α) (fault : Option Fault) : Prop :=
  ∀ s, faultOf (work.run.run s).1 = fault

section

variable {σ α β : Type}

theorem FailsWith.pure (a : α) : FailsWith (pure a : Work σ α) none := by
  intro s
  rfl

theorem FailsWith.throw (fault : Fault) : FailsWith (throw fault : Work σ α) (some fault) := by
  intro s
  rfl

theorem FailsWith.modifyGet (change : σ → α × σ) :
    FailsWith (modifyGet change : Work σ α) none := by
  intro s
  rfl

theorem FailsWith.bind {first : Work σ α} {next : α → Work σ β} {one two : Option Fault}
    (early : FailsWith first one) (late : ∀ a, FailsWith (next a) two) :
    FailsWith (first >>= next) (one.or two) := by
  intro s
  have before := early s
  rw [run_bind]
  rcases ended : first.run.run s with ⟨fault | a, t⟩ <;> rw [ended] at before
  · obtain rfl : some fault = one := before
    rfl
  · obtain rfl : none = one := before
    rw [Option.none_or]
    exact late a t

theorem FailsWith.followed {first : Work σ α} {next : α → Work σ β} {fault : Option Fault}
    (early : FailsWith first fault) (late : ∀ a, FailsWith (next a) none) :
    FailsWith (first >>= next) fault := by
  have both := early.bind late
  rw [Option.or_none] at both
  exact both

theorem FailsWith.preceded {first : Work σ α} {next : α → Work σ β} {fault : Option Fault}
    (early : FailsWith first none) (late : ∀ a, FailsWith (next a) fault) :
    FailsWith (first >>= next) fault := by
  have both := early.bind late
  rw [Option.none_or] at both
  exact both

theorem FailsWith.map (change : α → β) {work : Work σ α} {fault : Option Fault}
    (fails : FailsWith work fault) : FailsWith (change <$> work) fault := by
  intro s
  rw [run_map, ← fails s]
  cases (work.run.run s).1 <;> rfl

theorem FailsWith.mapM {work : β → Work σ α} {fault : β → Option Fault}
    (each : ∀ b, FailsWith (work b) (fault b)) (items : List β) :
    FailsWith (items.mapM work) (items.findSome? fault) := by
  induction items with
  | nil =>
    rw [List.mapM_nil]
    exact FailsWith.pure []
  | cons b rest ih =>
    have all := (each b).bind fun first => ih.followed fun more => FailsWith.pure (first :: more)
    rw [List.mapM_cons, List.findSome?_cons]
    cases found : fault b with
    | none =>
      rw [found] at all
      exact all
    | some why =>
      rw [found] at all
      exact all

theorem FailsWith.mapM_option {work : β → Work σ α} {fault : β → Option Fault}
    (each : ∀ b, FailsWith (work b) (fault b)) (item : Option β) :
    FailsWith (item.mapM work) (item.bind fault) := by
  cases item with
  | none => exact FailsWith.pure none
  | some b => exact (each b).map some

theorem FailsWith.mapM_never {work : β → Work σ α} (each : ∀ b, FailsWith (work b) none)
    (items : List β) : FailsWith (items.mapM work) none := by
  have all : FailsWith (items.mapM work) (items.findSome? fun _ => none) := FailsWith.mapM each items
  rw [List.findSome?_eq_none_iff.2 fun _ _ => rfl] at all
  exact all

theorem FailsWith.mapM_option_never {work : β → Work σ α} (each : ∀ b, FailsWith (work b) none)
    (item : Option β) : FailsWith (item.mapM work) none := by
  cases item with
  | none => exact FailsWith.pure none
  | some b => exact (each b).map some

end

end Work

end JvmFacts
