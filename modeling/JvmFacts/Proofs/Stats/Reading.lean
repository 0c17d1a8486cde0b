import JvmFacts.Proofs.Stats.Operations
import JvmFacts.Proofs.Text.Tags
import JvmFacts.Stats.Report

/-!
The report on a package read back. It tells the numbers of the package and, in the order of their
names, all there is to know about the classes that have a size.
-/

set_option autoImplicit false

namespace JvmFacts

open Text.Xml

/-! ## Counts -/

def Priority.label (p : Priority) : String :=
  s!"priority_{p.number}"

theorem Priority.label_inj {p q : Priority} (same : p.label = q.label) : p = q := by
  revert same
  cases p <;> cases q <;> decide

/-- The names under which counts stand. -/
def priorityLabels : List String :=
  Priority.all.map Priority.label

/-- The names under which everything else stands. -/
def otherNames : List String :=
  ["package", "total_bugs", "total_types", "total_size", "class", "sourceFile", "interface", "size",
    "bugs"]

theorem otherNames_apart : ∀ name ∈ otherNames, name ∉ priorityLabels := by
  decide

theorem isWord_of_mem : ∀ name ∈ otherNames ++ priorityLabels, IsWord name := by
  decide

theorem Priority.label_mem (p : Priority) : p.label ∈ priorityLabels := by
  cases p <;> decide

def decimal (digits : String) : Nat :=
  Nat.ofDigitChars 10 digits.toList 0

@[simp] theorem decimal_repr (n : Nat) : decimal n.repr = n := by
  rw [decimal, Nat.toList_repr, Nat.ofDigitChars_ten_toDigits]

def number? (attributes : List Attribute) (name : String) : Option Nat :=
  (value? attributes name).map decimal

/-- A number that has a place in 32 bits. -/
def word? (attributes : List Attribute) (name : String) : Option UInt32 :=
  (number? attributes name).map UInt32.ofNat

namespace BugCounts

/-- A count that is not there is zero. -/
def read? (attributes : List Attribute) (total : String) : Option BugCounts :=
  let count (p : Priority) : UInt32 := (word? attributes p.label).getD 0
  (word? attributes total).map fun total =>
    ⟨total, count .one, count .two, count .three, count .four⟩

theorem name_of_mem {b : BugCounts} {a : Attribute} (member : a ∈ b.attributes) :
    a.name ∈ priorityLabels := by
  obtain ⟨p, -, rfl⟩ := List.mem_map.1 member
  exact p.label_mem

/-- Counts of zero are left out. -/
theorem value?_attributes (b : BugCounts) (p : Priority) :
    value? b.attributes p.label = if b.of p = 0 then none else some (toString (b.of p).toNat) := by
  -- an attribute under the label of a priority is the one made for this priority
  have only : ∀ a ∈ b.attributes, a.name = p.label →
      b.of p ≠ 0 ∧ a = numberAttribute p.label (b.of p).toNat := by
    intro a member named
    obtain ⟨q, counted, rfl⟩ := List.mem_map.1 member
    obtain rfl : q = p := Priority.label_inj named
    exact ⟨of_decide_eq_true (List.mem_filter.1 counted).2, rfl⟩
  split
  · rename_i zero
    apply value?_eq_none
    intro a member named
    exact (only a member named).1 zero
  · rename_i counted
    have listed : p ∈ Priority.all.reverse := by cases p <;> decide
    have member : numberAttribute p.label (b.of p).toNat ∈ b.attributes :=
      List.mem_map_of_mem (List.mem_filter.2 ⟨listed, decide_eq_true counted⟩)
    apply value?_eq_some member
    intro a other named
    rw [(only a other named).2]

section

variable {front : List Attribute} (b : BugCounts)

theorem isWord_of_mem_append (others : ∀ a ∈ front, a.name ∈ otherNames) :
    ∀ a ∈ front ++ b.attributes, IsWord a.name := by
  intro a member
  apply isWord_of_mem
  rcases List.mem_append.1 member with before | counted
  · exact List.mem_append_left _ (others a before)
  · exact List.mem_append_right _ (name_of_mem counted)

/-- What stands before the counts is found there. -/
theorem value?_front {name : String} (other : name ∈ otherNames) :
    value? (front ++ b.attributes) name = value? front name := by
  have missing : value? b.attributes name = none := by
    apply value?_eq_none
    rintro a member rfl
    exact otherNames_apart a.name other (name_of_mem member)
  rw [value?_append, missing, Option.or_none]

/-- Where no count stands before them, the counts are read as they were written. -/
theorem read?_append (others : ∀ a ∈ front, a.name ∈ otherNames) {total : String}
    (other : total ∈ otherNames) (totalled : word? front total = some b.total) :
    read? (front ++ b.attributes) total = some b := by
  have counted : ∀ p : Priority, (word? (front ++ b.attributes) p.label).getD 0 = b.of p := by
    intro p
    have before : value? front p.label = none := by
      apply value?_eq_none
      intro a member same
      exact otherNames_apart a.name (others a member) (same ▸ p.label_mem)
    rw [word?, number?, value?_append, before, Option.none_or, value?_attributes]
    split
    · rename_i zero
      exact zero.symm
    · exact (congrArg UInt32.ofNat (decimal_repr _)).trans UInt32.ofNat_toNat
  have total_read : word? (front ++ b.attributes) total = some b.total := by
    rw [word?, number?, b.value?_front other]
    exact totalled
  simp only [read?, total_read, counted, Option.map_some]
  rfl

end

end BugCounts

/-! ## Classes -/

namespace ClassStats

/-- The attributes before the counts. -/
def front (c : ClassStats) : List Attribute :=
  ⟨"class", c.name⟩ ::
    (c.sourceFile.toList.map (⟨"sourceFile", ·⟩) ++
      [⟨"interface", toString c.isInterface⟩, numberAttribute "size" c.size.toNat,
        numberAttribute "bugs" c.bugs.total.toNat])

theorem attributes_eq (c : ClassStats) : c.attributes = c.front ++ c.bugs.attributes := by
  simp only [attributes, front, List.cons_append, List.append_assoc, List.nil_append]

def tag (c : ClassStats) : Tag :=
  .empty "ClassStats" c.attributes

/-- What has no size is left out. -/
theorem flatMap_xml (classes : List ClassStats) :
    classes.flatMap xml = ((classes.filter fun c => c.size ≠ 0).map tag).flatMap Tag.render := by
  induction classes with
  | nil => rfl
  | cons c rest ih =>
    rw [List.flatMap_cons, List.filter_cons, ih, xml]
    by_cases zero : c.size = 0
    · simp only [zero, ↓reduceIte, ne_eq, not_true_eq_false, decide_false, List.nil_append,
        Bool.false_eq_true]
    · simp only [zero, ↓reduceIte, ne_eq, not_false_eq_true, decide_true, List.map_cons,
        List.flatMap_cons]
      rfl

/-- A class from its tag. -/
def read? (t : Tag) : Option ClassStats := do
  let name ← value? t.attributes "class"
  let interface ← value? t.attributes "interface"
  let size ← word? t.attributes "size"
  let bugs ← BugCounts.read? t.attributes "bugs"
  return ⟨name, value? t.attributes "sourceFile", interface = "true", bugs, size⟩

theorem name_front (c : ClassStats) : ∀ a ∈ c.front, a.name ∈ otherNames := by
  unfold front
  cases c.sourceFile <;> simp [numberAttribute, otherNames]

theorem read?_tag (c : ClassStats) : read? c.tag = some c := by
  have attributes : c.tag.attributes = c.front ++ c.bugs.attributes := c.attributes_eq
  have found : ∀ name ∈ otherNames, value? c.tag.attributes name = value? c.front name := by
    intro name other
    rw [attributes, c.bugs.value?_front other]
  have name : value? c.tag.attributes "class" = some c.name := found "class" (by decide)
  have sourceFile : value? c.tag.attributes "sourceFile" = c.sourceFile := by
    rw [found "sourceFile" (by decide), front]
    cases c.sourceFile <;> simp [numberAttribute]
  have interface : value? c.tag.attributes "interface" = some (toString c.isInterface) := by
    rw [found "interface" (by decide), front]
    cases c.sourceFile <;> simp
  have size : word? c.tag.attributes "size" = some c.size := by
    rw [word?, number?, found "size" (by decide), front]
    cases c.sourceFile <;> simp [numberAttribute]
  have bugs : BugCounts.read? c.tag.attributes "bugs" = some c.bugs := by
    rw [attributes]
    refine c.bugs.read?_append c.name_front (by decide) ?_
    rw [word?, number?, front]
    cases c.sourceFile <;> simp [numberAttribute]
  have flag : decide (toString c.isInterface = "true") = c.isInterface := by
    cases c.isInterface <;> decide
  simp only [read?, name, interface, size, bugs, sourceFile, Option.bind_eq_bind, Option.bind_some,
    Option.pure_def, flag]

theorem wellNamed_tag (c : ClassStats) : c.tag.WellNamed where
  name := by
    change IsWord "ClassStats"
    decide
  attributes := by
    rw [tag, Tag.attributes, attributes_eq]
    exact c.bugs.isWord_of_mem_append c.name_front

end ClassStats

/-! ## Packages -/

/-- What the report on a package tells. -/
structure PackageReport where
  name : String
  bugs : BugCounts
  typeCount : Nat
  size : UInt32
  classes : List ClassStats
  deriving DecidableEq, Repr

/-- A package, and the classes that have a size. -/
def PackageStats.report (p : PackageStats) : PackageReport where
  name := p.name
  bugs := p.bugs
  typeCount := p.typeCount
  size := p.size
  classes := p.members.values.filter fun c => c.size ≠ 0

namespace PackageReport

/-- Between the tags of the package stand those of its classes. -/
def ofTags? : List Tag → Option PackageReport
  | first :: rest => do
    let name ← value? first.attributes "package"
    let typeCount ← number? first.attributes "total_types"
    let size ← word? first.attributes "total_size"
    let bugs ← BugCounts.read? first.attributes "total_bugs"
    let classes ← rest.dropLast.mapM ClassStats.read?
    return { name, bugs, typeCount, size, classes }
  | [] => none

def read? (text : List Char) : Option PackageReport :=
  (readTags? text).bind ofTags?

end PackageReport

namespace PackageStats

/-- The attributes before the counts. -/
def front (p : PackageStats) : List Attribute :=
  [⟨"package", p.name⟩, numberAttribute "total_bugs" p.bugs.total.toNat,
    numberAttribute "total_types" p.typeCount, numberAttribute "total_size" p.size.toNat]

theorem name_front (p : PackageStats) : ∀ a ∈ p.front, a.name ∈ otherNames := by
  simp [front, numberAttribute, otherNames]

def tags (p : PackageStats) : List Tag :=
  .opening "PackageStats" p.attributes ::
    (p.report.classes.map ClassStats.tag ++ [.closing "PackageStats"])

theorem xml_eq_tags {p : PackageStats} (filled : p.size ≠ 0) :
    p.xml = p.tags.flatMap Tag.render := by
  have classes : p.members.values.flatMap ClassStats.xml =
      (p.report.classes.map ClassStats.tag).flatMap Tag.render :=
    ClassStats.flatMap_xml p.members.values
  rw [xml, if_neg filled, classes, tags, List.flatMap_cons, List.flatMap_append,
    List.flatMap_singleton]
  rfl

theorem ofTags?_tags (p : PackageStats) : PackageReport.ofTags? p.tags = some p.report := by
  have found : ∀ name ∈ otherNames, value? p.attributes name = value? p.front name := by
    intro name other
    exact p.bugs.value?_front other
  have name : value? p.attributes "package" = some p.name := found "package" (by decide)
  have typeCount : number? p.attributes "total_types" = some p.typeCount := by
    rw [number?, found "total_types" (by decide)]
    simp [numberAttribute, front]
  have size : word? p.attributes "total_size" = some p.size := by
    rw [word?, number?, found "total_size" (by decide)]
    simp [numberAttribute, front]
  have bugs : BugCounts.read? p.attributes "total_bugs" = some p.bugs := by
    apply p.bugs.read?_append p.name_front (by decide)
    simp [word?, number?, front, numberAttribute]
  have classes : (p.report.classes.map ClassStats.tag).mapM ClassStats.read? =
      some p.report.classes :=
    mapM_map_eq_some fun c _ => c.read?_tag
  simp only [PackageReport.ofTags?, tags, Tag.attributes, name, typeCount, size, bugs,
    List.dropLast_concat, classes, Option.bind_eq_bind, Option.bind_some, Option.pure_def]
  rfl

theorem wellNamed_tags (p : PackageStats) : ∀ t ∈ p.tags, t.WellNamed := by
  have word : IsWord "PackageStats" := by decide
  intro t member
  rcases List.mem_cons.1 member with rfl | further
  · exact ⟨word, p.bugs.isWord_of_mem_append p.name_front⟩
  · rcases List.mem_append.1 further with within | last
    · obtain ⟨c, -, rfl⟩ := List.mem_map.1 within
      exact c.wellNamed_tag
    · obtain rfl := List.mem_singleton.1 last
      exact ⟨word, by simp [Tag.attributes]⟩

/-- The report tells the package, and in ascending order of their names exactly those of its classes
that have a size. -/
theorem read?_xml {p : PackageStats} (made : p.Made) (filled : p.size ≠ 0) :
    PackageReport.read? p.xml = some p.report ∧
      (p.report.classes.Pairwise fun a b => compare a.name b.name = .lt) ∧
      ∀ c, c ∈ p.report.classes ↔ p.member? c.name = some c ∧ c.size ≠ 0 := by
  refine ⟨?_, ?_, ?_⟩
  · rw [PackageReport.read?, xml_eq_tags filled, readTags?_flatMap_render p.wellNamed_tags]
    exact p.ofTags?_tags
  · exact made.keyed.values_ascending.filter _
  · intro c
    rw [report, List.mem_filter, made.keyed.mem_values, decide_eq_true_eq]

/-- Names full of special characters, a class without a source file, and one without a size. -/
def awkward : PackageStats :=
  (new "a<b>&amp;").operateAll
    [.step (.add (.finding ⟨2, "q\"/>", some "</PackageStats>"⟩)),
      .step (.add (.ofClass "q\"/>" none true 12 true)),
      .addStats ⟨"'p' =\"", none, false, ⟨3, 0, 1, 0, 2⟩, 7⟩ true,
      .step (.add (.finding ⟨4, "r", none⟩))]

theorem read?_xml_awkward : awkward.Made ∧ awkward.size ≠ 0 ∧
    PackageReport.read? awkward.xml = some awkward.report ∧
    awkward.report.classes =
      [⟨"'p' =\"", none, false, ⟨3, 0, 1, 0, 2⟩, 7⟩,
        ⟨"q\"/>", some "</PackageStats>", true, .single .two, 12⟩] := by
  have made : awkward.Made := ⟨"a<b>&amp;", 0, 0, _, rfl⟩
  have filled : awkward.size ≠ 0 := by decide
  exact ⟨made, filled, (read?_xml made filled).1, by decide⟩

end PackageStats

end JvmFacts
