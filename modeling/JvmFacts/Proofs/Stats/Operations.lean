import JvmFacts.Proofs.Stats.Selection
import JvmFacts.Proofs.Stats.Totals

/-!
Packages as they come about: preset with some numbers or with none, and changed by whatever can be
done to a package. Their entries always stand in order, each under the name of its class.
-/

set_option autoImplicit false

namespace JvmFacts.PackageStats

/-- Anything that can be done to a package. -/
inductive Operation where
  | step (s : Step)
  | addStats (c : ClassStats) (growsPackage : Bool)
  | setClassCount (classCount : Nat)
  | retain (wanted : String → Bool)

def operate (p : PackageStats) : Operation → PackageStats
  | .step s => p.apply s
  | .addStats c growsPackage => p.addStats c growsPackage
  | .setClassCount classCount => p.setClassCount classCount
  | .retain wanted => p.retain wanted

def operateAll (p : PackageStats) (operations : List Operation) : PackageStats :=
  operations.foldl operate p

/-- Nothing wraps around when this is done. -/
def operationFits (p : PackageStats) : Operation → Bool
  | .step s => p.stepFits s
  | .addStats c growsPackage => p.statsFit c growsPackage
  | .setClassCount _ => true
  | .retain _ => true

/-- In a build that checks its sums. -/
def operateAll? (p : PackageStats) (operations : List Operation) : Option PackageStats :=
  runChecked operationFits operate p operations

/-- A package that can come about. -/
def Made (p : PackageStats) : Prop :=
  ∃ name classCount size operations, p = (preset name classCount size).operateAll operations

section

variable {p : PackageStats}

/-- An entry that is taken as it is goes under the name of its class. -/
theorem Keyed.put (keyed : p.Keyed) (c : ClassStats) : (p.put c).Keyed where
  ordered := keyed.ordered.insert c.name c
  named := by
    intro name d held
    have found := (NameTable.find?_insert c.name name c p.members).symm.trans held
    split at found
    · rename_i same
      obtain rfl := Option.some.inj found
      exact same
    · exact keyed.named name d found

theorem Keyed.addStats (keyed : p.Keyed) (c : ClassStats) (growsPackage : Bool) :
    (p.addStats c growsPackage).Keyed := by
  obtain ⟨size, classCount, dropped⟩ := p.dropPreset_frame
  have emptied : p.dropPreset.Keyed := by
    rw [dropped]
    exact ⟨keyed.ordered, keyed.named⟩
  have added := emptied.put c
  unfold PackageStats.addStats
  split
  · exact ⟨added.ordered, added.named⟩
  · exact added

theorem Keyed.apply (keyed : p.Keyed) (step : Step) : (p.apply step).Keyed := by
  cases step with
  | add a => exact keyed.add a
  | setSize size => exact ⟨keyed.ordered, keyed.named⟩
  | clearBugs => exact keyed.clearBugs
  | recompute => exact ⟨keyed.ordered, keyed.named⟩

theorem Keyed.operate (keyed : p.Keyed) (operation : Operation) : (p.operate operation).Keyed := by
  cases operation with
  | step s => exact keyed.apply s
  | addStats c growsPackage => exact keyed.addStats c growsPackage
  | setClassCount classCount => exact ⟨keyed.ordered, keyed.named⟩
  | retain wanted => exact keyed.retain wanted

theorem Keyed.operateAll (keyed : p.Keyed) (operations : List Operation) :
    (p.operateAll operations).Keyed := by
  induction operations generalizing p with
  | nil => exact keyed
  | cons operation rest ih => exact ih (keyed.operate operation)

theorem Keyed.name_eq (keyed : p.Keyed) {entry : String × ClassStats} (held : entry ∈ p.members) :
    entry.2.name = entry.1 :=
  keyed.named entry.1 entry.2 (NameTable.find?_of_mem keyed.ordered held)

theorem Keyed.mem_values (keyed : p.Keyed) (c : ClassStats) :
    c ∈ p.members.values ↔ p.member? c.name = some c := by
  constructor
  · intro held
    obtain ⟨entry, member, rfl⟩ := List.mem_map.1 held
    rw [keyed.name_eq member]
    exact NameTable.find?_of_mem keyed.ordered member
  · intro found
    exact List.mem_map.2 ⟨(c.name, c), NameTable.mem_of_find? found, rfl⟩

theorem Keyed.values_ascending (keyed : p.Keyed) :
    p.members.values.Pairwise fun a b => compare a.name b.name = .lt := by
  apply List.pairwise_map.2
  apply keyed.ordered.imp_of_mem
  intro a b first second below
  rw [keyed.name_eq first, keyed.name_eq second]
  exact below

theorem Made.keyed (made : p.Made) : p.Keyed := by
  obtain ⟨name, classCount, size, operations, rfl⟩ := made
  exact (keyed_preset name classCount size).operateAll operations

end

end JvmFacts.PackageStats
