/-!
Access flags of methods and classes: words of thirty-two bits in which only the listed flags may
stand.
-/

set_option autoImplicit false

namespace JvmFacts

/-- A kind of flag: each flag is one bit and has a name. -/
class Flag (φ : Type) where
  all : List φ
  mask : φ → BitVec 32
  label : φ → String

/-- A word of flags of one kind. -/
structure FlagSet (φ : Type) where
  bits : BitVec 32
  deriving DecidableEq, Repr

namespace FlagSet

variable {φ : Type} [Flag φ]

/-- The word in which these flags stand. -/
def word (flags : List φ) : BitVec 32 :=
  flags.foldl (fun bits f => bits ||| Flag.mask f) 0

/-- The bits that belong to some flag. -/
def known (φ : Type) [Flag φ] : BitVec 32 :=
  word (Flag.all : List φ)

/-- Bits of no flag are dropped. -/
def ofBits (raw : BitVec 32) : FlagSet φ :=
  ⟨raw &&& known φ⟩

def ofList (flags : List φ) : FlagSet φ :=
  ⟨word flags⟩

def union (a b : FlagSet φ) : FlagSet φ :=
  ⟨a.bits ||| b.bits⟩

def has (s : FlagSet φ) (f : φ) : Bool :=
  s.bits &&& Flag.mask f == Flag.mask f

def toList (s : FlagSet φ) : List φ :=
  Flag.all.filter s.has

def labels (s : FlagSet φ) : List String :=
  s.toList.map Flag.label

/-- The names between bars, or a zero word when no flag stands. -/
def render (s : FlagSet φ) : String :=
  if s.toList.isEmpty then "0x0" else " | ".intercalate s.labels

end FlagSet

inductive MethodFlag where
  | accPublic | accPrivate | accProtected | accStatic | accFinal | accSynchronized | accBridge
  | accVarargs | accNative | accAbstract | accStrict | accSynthetic | deprecated
  deriving DecidableEq, Repr

namespace MethodFlag

def mask : MethodFlag → BitVec 32
  | accPublic => 0x0001#32
  | accPrivate => 0x0002#32
  | accProtected => 0x0004#32
  | accStatic => 0x0008#32
  | accFinal => 0x0010#32
  | accSynchronized => 0x0020#32
  | accBridge => 0x0040#32
  | accVarargs => 0x0080#32
  | accNative => 0x0100#32
  | accAbstract => 0x0400#32
  | accStrict => 0x0800#32
  | accSynthetic => 0x1000#32
  | deprecated => 0x20000#32

def label : MethodFlag → String
  | accPublic => "PUBLIC"
  | accPrivate => "PRIVATE"
  | accProtected => "PROTECTED"
  | accStatic => "STATIC"
  | accFinal => "FINAL"
  | accSynchronized => "SYNCHRONIZED"
  | accBridge => "BRIDGE"
  | accVarargs => "VARARGS"
  | accNative => "NATIVE"
  | accAbstract => "ABSTRACT"
  | accStrict => "STRICT"
  | accSynthetic => "SYNTHETIC"
  | deprecated => "DEPRECATED"

/-- The order in which flags are listed. The last one is no bit of a class file: it stands for the
attribute of that name. -/
instance : Flag MethodFlag where
  all := [accPublic, accPrivate, accProtected, accStatic, accFinal, accSynchronized, accBridge,
    accVarargs, accNative, accAbstract, accStrict, accSynthetic, deprecated]
  mask := mask
  label := label

end MethodFlag

abbrev MethodFlags := FlagSet MethodFlag

/-- The bits for public, private and protected. -/
def visibilityMask : BitVec 32 := 7#32

def MethodFlags.visibility (s : MethodFlags) : MethodFlags :=
  FlagSet.ofBits (s.bits &&& visibilityMask)

inductive ClassFlag where
  | accPublic | accFinal | accSuper | accInterface | accAbstract | accSynthetic | accAnnotation
  | accEnum | accModule
  deriving DecidableEq, Repr

namespace ClassFlag

def mask : ClassFlag → BitVec 32
  | accPublic => 0x0001#32
  | accFinal => 0x0010#32
  | accSuper => 0x0020#32
  | accInterface => 0x0200#32
  | accAbstract => 0x0400#32
  | accSynthetic => 0x1000#32
  | accAnnotation => 0x2000#32
  | accEnum => 0x4000#32
  | accModule => 0x8000#32

def label : ClassFlag → String
  | accPublic => "PUBLIC"
  | accFinal => "FINAL"
  | accSuper => "SUPER"
  | accInterface => "INTERFACE"
  | accAbstract => "ABSTRACT"
  | accSynthetic => "SYNTHETIC"
  | accAnnotation => "ANNOTATION"
  | accEnum => "ENUM"
  | accModule => "MODULE"

instance : Flag ClassFlag where
  all := [accPublic, accFinal, accSuper, accInterface, accAbstract, accSynthetic, accAnnotation,
    accEnum, accModule]
  mask := mask
  label := label

end ClassFlag

abbrev ClassFlags := FlagSet ClassFlag

/-- A class is public and calls its superclass in the modern way unless it is said otherwise. -/
def ClassFlags.usual : ClassFlags :=
  FlagSet.ofList [.accPublic, .accSuper]

namespace FlagSet

variable {φ : Type} [Flag φ]

@[simp] theorem bits_ofBits (raw : BitVec 32) : (ofBits raw : FlagSet φ).bits = raw &&& known φ :=
  rfl

/-- Reading a word that was read before changes nothing. -/
theorem ofBits_bits_ofBits (raw : BitVec 32) :
    ofBits (ofBits raw : FlagSet φ).bits = (ofBits raw : FlagSet φ) := by
  simp only [ofBits, BitVec.and_assoc, BitVec.and_self]

end FlagSet

end JvmFacts
