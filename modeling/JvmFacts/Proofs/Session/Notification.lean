import JvmFacts.Proofs.Table
import JvmFacts.Session.Databases

/-!
What telling listeners does: recorders write it down, and the memo of the current run forgets what it
held of the method. Nothing else changes.
-/

set_option autoImplicit false

namespace JvmFacts

namespace QualifiedNullness

theorem find?_forget (q : QualifiedNullness) (id : Nat) (key : Nat × Slot) :
    (q.forget id).memo.find? key = if key.1 = id then none else q.memo.find? key := by
  have kept := Table.find?_filter (fun key : Nat × Slot => key.1 != id) key q.memo
  unfold forget
  rw [kept]
  by_cases same : key.1 = id
  · simp only [same, bne_self_eq_false, Bool.false_eq_true, ↓reduceIte]
  · simp only [bne_iff_ne.2 same, same, ↓reduceIte]

theorem forget_forget (q : QualifiedNullness) (id : Nat) :
    (q.forget id).forget id = q.forget id := by
  unfold forget
  simp only [List.filter_filter, Bool.and_self]

end QualifiedNullness

namespace Session

/-- The session with another memo in the current run and with other recorders. -/
def withMemo (s : Session) (qualified : Option QualifiedNullness) (recorders : List Recorder) :
    Session :=
  { s with
    recorders
    run := { s.run with databases := { s.run.databases with qualified } } }

theorem tell_qualifiedNullness (s : Session) (m : Method) :
    tell m s .qualifiedNullness =
      s.withMemo (s.run.databases.qualified.map (·.forget m.descriptor.id)) s.recorders := by
  unfold tell modifyDatabasesOf
  rw [if_pos rfl]
  rfl

/-- The memo of the current run after these listeners were told of a method. -/
def memoTold (listeners : List Listener) (m : Method) (qualified : Option QualifiedNullness) :
    Option QualifiedNullness :=
  if .qualifiedNullness ∈ listeners then qualified.map (·.forget m.descriptor.id) else qualified

theorem exists_foldl_tell (m : Method) (listeners : List Listener) (s : Session) :
    ∃ recorders, listeners.foldl (tell m) s =
      s.withMemo (memoTold listeners m s.run.databases.qualified) recorders := by
  induction listeners generalizing s with
  | nil => exact ⟨s.recorders, rfl⟩
  | cons first rest ih =>
    obtain ⟨recorders, told⟩ := ih (tell m s first)
    refine ⟨recorders, ?_⟩
    rw [List.foldl_cons, told]
    cases first with
    | recorder index =>
      have same : memoTold (.recorder index :: rest) m s.run.databases.qualified =
          memoTold rest m s.run.databases.qualified := by
        unfold memoTold
        simp only [List.mem_cons, reduceCtorEq, false_or]
      rw [same]
      rfl
    | qualifiedNullness =>
      have here : memoTold (.qualifiedNullness :: rest) m s.run.databases.qualified =
          s.run.databases.qualified.map (·.forget m.descriptor.id) :=
        if_pos (List.mem_cons_self ..)
      have again : memoTold rest m (s.run.databases.qualified.map (·.forget m.descriptor.id)) =
          s.run.databases.qualified.map (·.forget m.descriptor.id) := by
        unfold memoTold
        simp only [Option.map_map, Function.comp_def, QualifiedNullness.forget_forget, ite_self]
      rw [tell_qualifiedNullness, here]
      change (s.withMemo (memoTold rest m
        (s.run.databases.qualified.map (·.forget m.descriptor.id))) recorders) = _
      rw [again]

theorem exists_notify (s : Session) (m : Method) :
    ∃ recorders, s.notify m =
      s.withMemo (memoTold s.run.listeners m s.run.databases.qualified) recorders :=
  exists_foldl_tell m s.run.listeners s

/-- The session in which a method carries one more annotation, before anyone is told. -/
def withAnnotation (s : Session) (m : Method) (slot : Slot) (a : Annotation) : Session :=
  { s with annotations := s.annotations.insert m.serial ((s.annotationsOf m).add slot a) }

theorem exists_annotate (s : Session) (m : Method) (slot : Slot) (a : Annotation) :
    ∃ recorders, s.annotate m slot a = (s.withAnnotation m slot a).withMemo
      (memoTold s.run.listeners m s.run.databases.qualified) recorders :=
  exists_notify (s.withAnnotation m slot a) m

theorem methods_annotate (s : Session) (m : Method) (slot : Slot) (a : Annotation) :
    (s.annotate m slot a).run.methods = s.run.methods := by
  obtain ⟨recorders, annotated⟩ := s.exists_annotate m slot a
  rw [annotated]
  rfl

theorem annotationsOf_annotate (s : Session) (m : Method) (slot : Slot) (a : Annotation) :
    (s.annotate m slot a).annotationsOf m = (s.annotationsOf m).add slot a := by
  obtain ⟨recorders, annotated⟩ := s.exists_annotate m slot a
  have written := Table.find?_insert m.serial m.serial ((s.annotationsOf m).add slot a) s.annotations
  rw [if_pos rfl] at written
  rw [annotated]
  exact congrArg (Option.getD · MethodAnnotations.empty) written

end Session

end JvmFacts
