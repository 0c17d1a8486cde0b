import JvmFacts.Proofs.Session.Handles

/-!
A session and the same session with a past. Methods, classes, recorders and runs are counted over the
whole life of a session, so one that lived before counts on from where it stood. Apart from these
numbers it does what a session without past does.
-/

set_option autoImplicit false

namespace JvmFacts

/-- How many methods, classes, recorders, runs and events there were before. -/
structure Past where
  methods : Nat := 0
  classes : Nat := 0
  recorders : Nat := 0
  runs : Nat := 0
  events : Nat := 0

def Paths.keepsEntries : Paths → Bool
  | .fixed => false
  | .entries _ => true

namespace Past

variable (p : Past)

def method (m : Method) : Method :=
  { m with serial := m.serial + p.methods }

def record (c : ResolvedClass) : ResolvedClass :=
  { c with serial := c.serial + p.classes, methods := c.methods.map p.method }

def bridges (b : Bridges) : Bridges :=
  ⟨b.targets.mapValues p.method, b.sources.mapValues p.method⟩

def listener : Listener → Listener
  | .qualifiedNullness => .qualifiedNullness
  | .recorder index => .recorder (index + p.recorders)

/-- What a run gathers, as the session with the past numbers it. -/
def run (r : Run) : Run :=
  { r with
    listeners := r.listeners.map p.listener
    classes := r.classes.mapValues p.record
    methods := r.methods.mapValues p.method
    bridges := p.bridges r.bridges }

/-- The second reporter keeps what the first one keeps, after the events of the past, unless it only
logs. -/
def Reports (kept told : Reporter) : Prop :=
  ∀ all, told.events? = some all →
    p.events ≤ all.length ∧ kept.events? = some (all.drop p.events)

/-- The second session is the first one with this past before it. What the past left in its tables
does not count, nor what is in its log and which entries it keeps. -/
structure Before (s t : Session) : Prop where
  config : t.config = s.config
  registry : t.registry = s.registry
  paths : t.paths.keepsEntries = s.paths.keepsEntries
  reporter : p.Reports s.reporter t.reporter
  run : t.run = p.run s.run
  runNumber : t.runNumber = s.runNumber + p.runs
  retired : ∀ n < s.runNumber, t.retired.find? (n + p.runs) = s.retired.find? n
  annotations : ∀ n < s.methodsMade, t.annotations.find? (n + p.methods) = s.annotations.find? n
  methodsMade : t.methodsMade = s.methodsMade + p.methods
  classesMade : t.classesMade = s.classesMade + p.classes
  recorderCount : t.recorders.length = s.recorders.length + p.recorders
  recorders : ∀ index, t.recorders[index + p.recorders]? = s.recorders[index]?

/-- The second outcome is the first one as the session with the past numbers it, and the sessions
still are the same but for the past. -/
def Matches {α β : Type} (f : α → β) (one : α × Session) (two : β × Session) : Prop :=
  two.1 = f one.1 ∧ p.Before one.2 two.2

/-- Work does the same in a session with the past. -/
def Agrees {α β : Type} (f : α → β) (work : Working α) (later : Working β) : Prop :=
  ∀ s t, p.Before s t → p.Matches (Except.map f) (work.run.run s) (later.run.run t)

section

variable {p} {α β γ δ : Type} {f : α → β} {g : γ → δ}

theorem Agrees.pure (f : α → β) (a : α) : p.Agrees f (pure a) (pure (f a)) :=
  fun _ _ before => ⟨rfl, before⟩

theorem Agrees.throw (f : α → β) (fault : Fault) : p.Agrees f (throw fault) (throw fault) :=
  fun _ _ before => ⟨rfl, before⟩

theorem Agrees.bind {first : Working α} {later : Working β} {next : α → Working γ}
    {nextLater : β → Working δ} (one : p.Agrees f first later)
    (two : ∀ a, p.Agrees g (next a) (nextLater (f a))) :
    p.Agrees g (first >>= next) (later >>= nextLater) := by
  intro s t before
  obtain ⟨fits, still⟩ := one s t before
  rw [Work.run_bind, Work.run_bind]
  rcases ended : first.run.run s with ⟨fault | a, s'⟩ <;>
    rcases endedLater : later.run.run t with ⟨faultLater | b, t'⟩ <;>
    rw [ended, endedLater] at fits still <;> cases fits
  · exact ⟨rfl, still⟩
  · exact two a s' t' still

theorem Agrees.adapt (change : Fault → Fault) {work : Working α} {later : Working β}
    (agrees : p.Agrees f work later) :
    p.Agrees f (ExceptT.adapt change work) (ExceptT.adapt change later) := by
  intro s t before
  obtain ⟨fits, still⟩ := agrees s t before
  rw [Work.run_adapt, Work.run_adapt]
  refine ⟨?_, still⟩
  dsimp only
  rw [fits]
  cases (work.run.run s).1 <;> rfl

theorem Agrees.modifyGet {change : Session → α × Session} {changeLater : Session → β × Session}
    (each : ∀ s t, p.Before s t → p.Matches f (change s) (changeLater t)) :
    p.Agrees f (modifyGet change) (modifyGet changeLater) := by
  intro s t before
  obtain ⟨fits, still⟩ := each s t before
  exact ⟨congrArg Except.ok fits, still⟩

end

namespace Before

variable {p} {s t : Session} (before : p.Before s t)

include before

theorem withRegistry (r : Registry) :
    p.Before { s with registry := r } { t with registry := r } :=
  { before with registry := rfl }

theorem withRun {r later : Run} (same : later = p.run r) :
    p.Before { s with run := r } { t with run := later } :=
  { before with run := same }

theorem databases : t.run.databases = s.run.databases := by
  rw [before.run]
  rfl

theorem facts : t.run.facts = s.run.facts := by
  rw [before.run]
  rfl

theorem listeners : t.run.listeners = s.run.listeners.map p.listener := by
  rw [before.run]
  rfl

theorem methods : t.run.methods = s.run.methods.mapValues p.method := by
  rw [before.run]
  rfl

theorem findMethod (descriptor : MethodDescriptor) :
    t.run.methods.find? descriptor = (s.run.methods.find? descriptor).map p.method := by
  rw [before.methods, Table.find?_mapValues]

theorem findClass (id : Nat) :
    t.run.classes.find? id = (s.run.classes.find? id).map p.record := by
  rw [before.run]
  exact Table.find?_mapValues p.record id s.run.classes

theorem findDepth (id : Nat) : t.run.depths.find? id = s.run.depths.find? id := by
  rw [before.run]
  rfl

/-! ## What is told -/

theorem addLog (one two : List LogRecord) : p.Before (s.addLog one) (t.addLog two) :=
  { before with }

theorem report (r : Report) : p.Before (s.report r) (t.report r) := by
  have reports := before.reporter
  unfold Session.report
  cases told : t.reporter with
  | log =>
    have still : ∀ kept, p.Reports kept t.reporter := by
      intro kept all given
      rw [told] at given
      cases given
    cases s.reporter with
    | log => exact { before with reporter := still _ }
    | collect events => exact { before with reporter := still _ }
  | collect all =>
    obtain ⟨enough, kept⟩ := reports all (by rw [told]; rfl)
    cases held : s.reporter with
    | log =>
      rw [held] at kept
      cases kept
    | collect events =>
      rw [held] at kept
      obtain rfl : events = all.drop p.events := Option.some.inj kept
      refine { before with reporter := ?_ }
      intro more given
      obtain rfl : all ++ [r.toEvent] = more := Option.some.inj given
      refine ⟨?_, ?_⟩
      · rw [List.length_append]
        omega
      · rw [List.drop_append_of_le_length enough]
        rfl

/-! ## Databases -/

theorem databasesOf {n : Nat} (known : n ≤ s.runNumber) :
    t.databasesOf (n + p.runs) = s.databasesOf n := by
  unfold Session.databasesOf
  rw [before.runNumber]
  by_cases now : n = s.runNumber
  · rw [if_pos now, if_pos (by rw [now]), before.databases]
  · have past : n < s.runNumber := by omega
    rw [if_neg now, if_neg (by omega), before.retired n past]

theorem modifyDatabasesOf {n : Nat} (known : n ≤ s.runNumber) (change : Databases → Databases) :
    p.Before (s.modifyDatabasesOf n change) (t.modifyDatabasesOf (n + p.runs) change) := by
  have same := before.databasesOf known
  have runNumber := before.runNumber
  unfold Session.modifyDatabasesOf
  by_cases now : n = s.runNumber
  · rw [if_pos now, if_pos (by omega)]
    apply before.withRun
    rw [before.run]
    rfl
  · rw [if_neg now, if_neg (by omega)]
    refine { before with retired := ?_ }
    intro other past
    have written := Table.find?_insert n other (change (s.databasesOf n)) s.retired
    have writtenLater :=
      Table.find?_insert (n + p.runs) (other + p.runs) (change (t.databasesOf (n + p.runs))) t.retired
    refine writtenLater.trans (Eq.trans ?_ written.symm)
    rw [same, before.retired other past]
    by_cases hit : n = other
    · rw [if_pos hit, if_pos (by rw [hit])]
    · rw [if_neg hit, if_neg (by omega)]

theorem modifyDatabases (change : Databases → Databases) :
    p.Before (s.modifyDatabases change) (t.modifyDatabases change) := by
  unfold Session.modifyDatabases
  rw [before.runNumber]
  exact before.modifyDatabasesOf (Nat.le_refl _) change

theorem reset : p.Before s.reset t.reset := by
  refine { before with run := rfl, runNumber := ?_, retired := ?_ }
  · change t.runNumber + 1 = s.runNumber + 1 + p.runs
    rw [before.runNumber]
    omega
  · intro n past
    have written := Table.find?_insert s.runNumber n s.run.databases s.retired
    have writtenLater := Table.find?_insert t.runNumber (n + p.runs) t.run.databases t.retired
    refine writtenLater.trans (Eq.trans ?_ written.symm)
    rw [before.runNumber, before.databases]
    by_cases last : s.runNumber = n
    · rw [if_pos last, if_pos (by rw [last])]
    · have earlier : n < s.runNumber := by
        have below : n < s.runNumber + 1 := past
        omega
      rw [if_neg last, if_neg (by omega), before.retired n earlier]

end Before

end Past

end JvmFacts
