import JvmFacts.Stats.Package
import JvmFacts.Text.Xml

/-!
The XML report on a package. What has size zero is left out: a class with its counts, a package with
all of its classes. Counts of zero are left out too, and the higher priority numbers come first.
-/

set_option autoImplicit false

namespace JvmFacts

open Text.Xml (Attribute)

def numberAttribute (name : String) (n : Nat) : Attribute :=
  ⟨name, toString n⟩

def BugCounts.attributes (b : BugCounts) : List Attribute :=
  (Priority.all.reverse.filter fun p => b.of p ≠ 0).map fun p =>
    numberAttribute s!"priority_{p.number}" (b.of p).toNat

namespace ClassStats

def attributes (c : ClassStats) : List Attribute :=
  ⟨"class", c.name⟩ ::
    (c.sourceFile.toList.map (⟨"sourceFile", ·⟩) ++
      [⟨"interface", toString c.isInterface⟩, numberAttribute "size" c.size.toNat,
        numberAttribute "bugs" c.bugs.total.toNat] ++
      c.bugs.attributes)

def xml (c : ClassStats) : List Char :=
  if c.size = 0 then [] else Text.Xml.emptyTag "ClassStats" c.attributes

end ClassStats

namespace PackageStats

/-- The number of entries, or the preset number where there are none. -/
def typeCount (p : PackageStats) : Nat :=
  if p.members.isEmpty then p.classCount else p.members.length

def attributes (p : PackageStats) : List Attribute :=
  [⟨"package", p.name⟩, numberAttribute "total_bugs" p.bugs.total.toNat,
    numberAttribute "total_types" p.typeCount, numberAttribute "total_size" p.size.toNat] ++
    p.bugs.attributes

def xml (p : PackageStats) : List Char :=
  if p.size = 0 then []
  else
    Text.Xml.openTag "PackageStats" p.attributes ++
      (p.members.values.flatMap ClassStats.xml ++ Text.Xml.closeTag "PackageStats")

end PackageStats

end JvmFacts
