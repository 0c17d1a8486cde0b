import JvmFacts.Proofs.Session.Past.Basic

/-!
Methods, listeners and bridges in a session with a past. Only the annotations of a method ask for
more than the two sessions being the same but for the past: the method has to be made since, so that
its serial number counts from the past on.
-/

set_option autoImplicit false

namespace JvmFacts.Past

variable {p : Past}

namespace Before

variable {s t : Session} (before : p.Before s t)

include before

/-! ## Methods -/

theorem makeMethod (x : PreparedMethod) :
    p.Matches p.method (s.makeMethod x) (t.makeMethod x) := by
  have methodsMade := before.methodsMade
  constructor
  · change ({ x.body with serial := t.methodsMade } : Method) =
      { x.body with serial := s.methodsMade + p.methods }
    rw [methodsMade]
  · refine { before with run := ?_, annotations := ?_, methodsMade := ?_ }
    · change { t.run with facts := t.run.facts.record x } = p.run _
      rw [before.run]
      rfl
    · intro n known
      have below : n < s.methodsMade + 1 := known
      have written := Table.find?_insert s.methodsMade n
        (⟨x.annotations, x.parameterAnnotations⟩ : MethodAnnotations) s.annotations
      have writtenLater := Table.find?_insert t.methodsMade (n + p.methods)
        (⟨x.annotations, x.parameterAnnotations⟩ : MethodAnnotations) t.annotations
      refine writtenLater.trans (Eq.trans ?_ written.symm)
      by_cases last : s.methodsMade = n
      · rw [if_pos last, if_pos (by omega)]
      · rw [if_neg last, if_neg (by omega), before.annotations n (by omega)]
    · change t.methodsMade + 1 = s.methodsMade + 1 + p.methods
      omega

theorem keepMethod (m : Method) :
    p.Matches p.method (s.keepMethod m) (t.keepMethod (p.method m)) := by
  have found := before.findMethod m.descriptor
  have same : (p.method m).descriptor = m.descriptor := rfl
  unfold Session.keepMethod
  rw [same, found]
  cases s.run.methods.find? m.descriptor with
  | some held => exact ⟨rfl, before⟩
  | none =>
    refine ⟨rfl, before.withRun ?_⟩
    rw [before.run]
    exact congrArg (fun methods => ({ p.run s.run with methods } : Run))
      (Table.insert_mapValues p.method m.descriptor m s.run.methods)

theorem makeAndKeep (x : PreparedMethod) :
    p.Matches p.method (s.makeAndKeep x) (t.makeAndKeep x) := by
  obtain ⟨made, still⟩ := before.makeMethod x
  unfold Session.makeAndKeep
  dsimp only
  rw [made]
  exact still.keepMethod _

theorem makeAll (prepared : List PreparedMethod) :
    p.Matches (List.map p.method) (Session.makeAll prepared s) (Session.makeAll prepared t) := by
  induction prepared generalizing s t with
  | nil => exact ⟨rfl, before⟩
  | cons x rest ih =>
    obtain ⟨made, still⟩ := before.makeAndKeep x
    obtain ⟨more, after⟩ := ih still
    refine ⟨?_, after⟩
    change (t.makeAndKeep x).1 :: _ = p.method (s.makeAndKeep x).1 :: _
    rw [made]
    exact congrArg _ more

theorem allMethods : t.allMethods = s.allMethods.map p.method := by
  unfold Session.allMethods
  rw [before.methods, Table.values_mapValues]
  symm
  apply List.map_mergeSort
  exact fun a _ b _ => rfl

theorem annotationsOf {m : Method} (made : m.serial < s.methodsMade) :
    t.annotationsOf (p.method m) = s.annotationsOf m :=
  congrArg (Option.getD · MethodAnnotations.empty) (before.annotations m.serial made)

/-! ## Listeners -/

theorem isLive (l : Listener) : t.isLive (p.listener l) = s.isLive l := by
  cases l with
  | qualifiedNullness => rfl
  | recorder index =>
    change (t.recorders[index + p.recorders]?).any Recorder.isLive = _
    rw [before.recorders index]
    rfl

theorem listen (l : Listener) : p.Before (s.listen l) (t.listen (p.listener l)) := by
  apply before.withRun
  have live : t.isLive ∘ p.listener = s.isLive := funext before.isLive
  have kept : (s.run.listeners.map p.listener).filter t.isLive ++ [p.listener l] =
      (s.run.listeners.filter s.isLive ++ [l]).map p.listener := by
    rw [List.filter_map, live, List.map_append, List.map_singleton]
  rw [before.run]
  exact congrArg (fun listeners => ({ p.run s.run with listeners } : Run)) kept

theorem addRecorder :
    p.Matches (· + p.recorders) s.addRecorder t.addRecorder := by
  have count := before.recorderCount
  have grown : p.Before { s with recorders := s.recorders ++ [{}] }
      { t with recorders := t.recorders ++ [{}] } := by
    refine { before with recorderCount := ?_, recorders := ?_ }
    · simp only [List.length_append, List.length_singleton]
      omega
    · intro index
      simp only [List.getElem?_append, count, before.recorders index]
      by_cases old : index < s.recorders.length
      · rw [if_pos old, if_pos (by omega)]
      · rw [if_neg old, if_neg (by omega)]
        congr 1
        omega
  have listening := grown.listen (.recorder s.recorders.length)
  refine ⟨count, ?_⟩
  unfold Session.addRecorder
  dsimp only
  rw [count]
  exact listening

theorem modifyRecorders (index : Nat) (change : Recorder → Recorder) :
    p.Before { s with recorders := s.recorders.modify index change }
      { t with recorders := t.recorders.modify (index + p.recorders) change } := by
  refine { before with recorderCount := ?_, recorders := ?_ }
  · simp only [List.length_modify]
    exact before.recorderCount
  · intro other
    simp only [List.getElem?_modify, before.recorders other, Nat.add_right_cancel_iff]

theorem dropRecorder (index : Nat) :
    p.Before (s.dropRecorder index) (t.dropRecorder (index + p.recorders)) :=
  before.modifyRecorders index _

theorem tell (m : Method) (l : Listener) :
    p.Before (Session.tell m s l) (Session.tell (p.method m) t (p.listener l)) := by
  cases l with
  | qualifiedNullness => exact before.modifyDatabases _
  | recorder index => exact before.modifyRecorders index _

theorem notify (m : Method) : p.Before (s.notify m) (t.notify (p.method m)) := by
  have told : ∀ (listeners : List Listener) (s t : Session), p.Before s t →
      p.Before (listeners.foldl (Session.tell m) s)
        ((listeners.map p.listener).foldl (Session.tell (p.method m)) t) := by
    intro listeners
    induction listeners with
    | nil => exact fun _ _ before => before
    | cons l rest ih => exact fun _ _ before => ih _ _ (before.tell m l)
  unfold Session.notify
  rw [before.listeners]
  exact told s.run.listeners s t before

theorem annotate {m : Method} (made : m.serial < s.methodsMade) (slot : Slot) (a : Annotation) :
    p.Before (s.annotate m slot a) (t.annotate (p.method m) slot a) := by
  have annotated : p.Before (s.withAnnotation m slot a) (t.withAnnotation (p.method m) slot a) := by
    refine { before with annotations := ?_ }
    intro n known
    have written := Table.find?_insert m.serial n ((s.annotationsOf m).add slot a) s.annotations
    have writtenLater := Table.find?_insert (p.method m).serial (n + p.methods)
      ((t.annotationsOf (p.method m)).add slot a) t.annotations
    refine writtenLater.trans (Eq.trans ?_ written.symm)
    have serial : (p.method m).serial = m.serial + p.methods := rfl
    rw [before.annotationsOf made, before.annotations n known, serial]
    by_cases hit : m.serial = n
    · rw [if_pos hit, if_pos (by rw [hit])]
    · rw [if_neg hit, if_neg (by omega)]
  exact annotated.notify m

/-! ## Runs -/

theorem clearFacts : p.Before s.clearFacts t.clearFacts := by
  apply before.withRun
  rw [before.run]
  rfl

theorem purgeClasses : p.Before s.purgeClasses t.purgeClasses := by
  apply before.withRun
  rw [before.run]
  rfl

theorem clearBridges : p.Before s.clearBridges t.clearBridges := by
  apply before.withRun
  rw [before.run]
  rfl

theorem setBridge (source target : Method) :
    p.Before (s.setBridge source target) (t.setBridge (p.method source) (p.method target)) := by
  have linked : (p.bridges s.run.bridges).set (p.method source) (p.method target) =
      p.bridges (s.run.bridges.set source target) :=
    congrArg₂ Bridges.mk
      (Table.insert_mapValues p.method source.descriptor.id target s.run.bridges.targets)
      (Table.insert_mapValues p.method target.descriptor.id source s.run.bridges.sources)
  apply before.withRun
  rw [before.run]
  exact congrArg (fun bridges => ({ p.run s.run with bridges } : Run)) linked
end Before

end JvmFacts.Past
