import Mathlib.Data.BitVec
import Mathlib.Data.Nat.Bits
import Mathlib.Data.List.Basic

/-!
# Resource identifiers (`network/resource_id.rs`)

A `ResourceId` packs three values into one word of 64 bits: the type of the
resource in bit 55, the adapter that created it in bits 48 to 54 and a base
value below that.  `raw_new` says which number this is; that the
three values can be read back, and that ids made from different values differ,
follows from it.

Debug assertions are kept: where the source would panic the model answers
`none`.
-/

namespace MessageIo

/-- Information about the type of resource. -/
inductive ResourceType where
  | local
  | remote
deriving DecidableEq, Repr

/-- Unique identifier of a network resource. -/
structure ResourceId where
  id : BitVec 64
deriving DecidableEq, Repr

/-- There are ids, and a numeral for one needs no proof of its own that there are. -/
instance neZero_word : NeZero (2 ^ 64 : Nat) := ⟨by decide⟩

namespace ResourceId

def resourceTypePos : Nat := 55
def adapterIdPos : Nat := 48
def baseValuePos : Nat := 0

/-- 7 bits -/
def adapterIdMask : BitVec 64 := 0x007F000000000000
/-- 6 bytes -/
def baseValueMask : BitVec 64 := 0x0000FFFFFFFFFFFF

def maxBaseValue : Nat := (baseValueMask >>> baseValuePos).toNat
def maxAdapterId : BitVec 8 := (adapterIdMask >>> adapterIdPos).truncate 8
def maxAdapters : Nat := maxAdapterId.toNat + 1

/-- The bit of the resource type. -/
def typeBit : ResourceType → BitVec 64
  | .local => 1#64 <<< resourceTypePos
  | .remote => 0

/-- The word that `new` builds. -/
def pack (adapterId : BitVec 8) (resourceType : ResourceType) (baseValue : BitVec 64) :
    BitVec 64 :=
  typeBit resourceType ||| adapterId.zeroExtend 64 <<< adapterIdPos |||
    baseValue <<< baseValuePos

/-- A new id, unless one of the two debug assertions fails. -/
def new (adapterId : BitVec 8) (resourceType : ResourceType) (baseValue : BitVec 64) :
    Option ResourceId :=
  if adapterId ≤ maxAdapterId then
    if baseValue.toNat ≤ maxBaseValue then
      some ⟨pack adapterId resourceType baseValue⟩
    else none
  else none

/-- Returns the internal representation of this id. -/
def raw (r : ResourceId) : Nat := r.id.toNat

/-- Returns the type of this resource. -/
def resourceType (r : ResourceId) : ResourceType :=
  if r.id &&& (1#64 <<< resourceTypePos) ≠ 0 then .local else .remote

def isLocal (r : ResourceId) : Bool := r.resourceType = .local

def isRemote (r : ResourceId) : Bool := r.resourceType = .remote

/-- Returns the associated adapter id. -/
def adapterId (r : ResourceId) : BitVec 8 := ((r.id &&& adapterIdMask) >>> adapterIdPos).truncate 8

/-- Returns the unique resource identifier inside the associated adapter. -/
def baseValue (r : ResourceId) : BitVec 64 := (r.id &&& baseValueMask) >>> baseValuePos

/-! ## What the word is -/

theorem maxBaseValue_eq : maxBaseValue = 2 ^ 48 - 1 := by decide

theorem maxAdapterId_eq : maxAdapterId = 127#8 := by decide

/-- The resource type as a number: one for local resources. -/
def typeNat : ResourceType → Nat
  | .local => 1
  | .remote => 0

theorem toNat_typeBit (t : ResourceType) : (typeBit t).toNat = 2 ^ 55 * typeNat t := by
  cases t <;> decide

theorem typeNat_lt (t : ResourceType) : typeNat t < 2 := by
  cases t <;> decide

/-- **The three fields of an id lie side by side.** -/
theorem toNat_pack {a : BitVec 8} {t : ResourceType} {b : BitVec 64}
    (ha : a.toNat < 128) (hb : b.toNat < 2 ^ 48) :
    (pack a t b).toNat = 2 ^ 55 * typeNat t + (2 ^ 48 * a.toNat + b.toNat) := by
  have ht := typeNat_lt t
  have hmid : (a.zeroExtend 64 <<< adapterIdPos).toNat = 2 ^ 48 * a.toNat := by
    have hwide : (a.zeroExtend 64).toNat = a.toNat :=
      BitVec.toNat_setWidth_of_le (by decide)
    rw [BitVec.toNat_shiftLeft, hwide, Nat.shiftLeft_eq, adapterIdPos]
    omega
  have hlow : (b <<< baseValuePos).toNat = b.toNat := by
    rw [baseValuePos, BitVec.shiftLeft_zero]
  have hsmall : 2 ^ 48 * a.toNat + b.toNat < 2 ^ 55 := by omega
  rw [pack, BitVec.or_assoc, BitVec.toNat_or, BitVec.toNat_or, hmid, hlow, toNat_typeBit,
    ← Nat.two_pow_add_eq_or_of_lt hb, ← Nat.two_pow_add_eq_or_of_lt hsmall]

theorem new_eq_some {a : BitVec 8} {t : ResourceType} {b : BitVec 64} {r : ResourceId}
    (h : new a t b = some r) :
    a.toNat < 128 ∧ b.toNat < 2 ^ 48 ∧ r.id = pack a t b := by
  rw [new] at h
  split at h
  · rename_i ha
    split at h
    · rename_i hb
      cases h
      rw [maxAdapterId_eq, BitVec.le_def] at ha
      rw [maxBaseValue_eq] at hb
      have : (127#8).toNat = 127 := rfl
      exact ⟨by omega, by omega, rfl⟩
    · cases h
  · cases h

theorem raw_new {a : BitVec 8} {t : ResourceType} {b : BitVec 64} {r : ResourceId}
    (h : new a t b = some r) :
    r.raw = 2 ^ 55 * typeNat t + (2 ^ 48 * a.toNat + b.toNat) := by
  obtain ⟨ha, hb, hr⟩ := new_eq_some h
  rw [raw, hr, toNat_pack ha hb]

/-! ## Reading the fields back -/

theorem toNat_and_mask (x : BitVec 64) (n i : Nat) (m : BitVec 64)
    (hm : (m >>> i).toNat = 2 ^ n - 1) :
    ((x &&& m) >>> i).toNat = x.toNat / 2 ^ i % 2 ^ n := by
  rw [BitVec.ushiftRight_and_distrib, BitVec.toNat_and, hm, Nat.and_two_pow_sub_one_eq_mod,
    BitVec.toNat_ushiftRight, Nat.shiftRight_eq_div_pow]

theorem toNat_adapterId (r : ResourceId) : r.adapterId.toNat = r.raw / 2 ^ 48 % 2 ^ 7 := by
  have h := toNat_and_mask r.id 7 adapterIdPos adapterIdMask (by decide)
  rw [adapterId, BitVec.truncate_eq_setWidth, BitVec.toNat_setWidth, h, Nat.mod_eq_of_lt (by omega)]
  rfl

theorem toNat_baseValue (r : ResourceId) : r.baseValue.toNat = r.raw % 2 ^ 48 := by
  have h := toNat_and_mask r.id 48 baseValuePos baseValueMask (by decide)
  rw [baseValue, h, baseValuePos, Nat.pow_zero, Nat.div_one]
  rfl

theorem resourceType_eq (r : ResourceId) :
    r.resourceType = if r.raw / 2 ^ 55 % 2 = 1 then .local else .remote := by
  have hbit : r.id.getLsbD 55 = decide (r.raw / 2 ^ 55 % 2 = 1) :=
    Nat.testBit_eq_decide_div_mod_eq
  rw [resourceType, show 1#64 <<< resourceTypePos = BitVec.twoPow 64 55 by decide,
    BitVec.and_twoPow, hbit]
  by_cases h : r.raw / 2 ^ 55 % 2 = 1
  · rw [decide_eq_true h, if_pos rfl, if_pos h, if_pos (by decide)]
  · rw [decide_eq_false h, if_neg Bool.false_ne_true, if_neg h, if_neg (by decide)]

theorem resourceType_new {a : BitVec 8} {t : ResourceType} {b : BitVec 64} {r : ResourceId}
    (h : new a t b = some r) : r.resourceType = t := by
  obtain ⟨ha, hb, -⟩ := new_eq_some h
  have ht := typeNat_lt t
  have htop : r.raw / 2 ^ 55 % 2 = typeNat t := by
    rw [raw_new h]
    omega
  rw [resourceType_eq, htop]
  cases t <;> rfl

theorem adapterId_new {a : BitVec 8} {t : ResourceType} {b : BitVec 64} {r : ResourceId}
    (h : new a t b = some r) : r.adapterId = a := by
  obtain ⟨ha, hb, -⟩ := new_eq_some h
  apply BitVec.eq_of_toNat_eq
  rw [toNat_adapterId, raw_new h]
  omega

theorem baseValue_new {a : BitVec 8} {t : ResourceType} {b : BitVec 64} {r : ResourceId}
    (h : new a t b = some r) : r.baseValue = b := by
  obtain ⟨ha, hb, -⟩ := new_eq_some h
  apply BitVec.eq_of_toNat_eq
  rw [toNat_baseValue, raw_new h]
  omega

end ResourceId

/-! ## The generator -/

/-- Used to create unique ids.  `last` is shared by all threads of the node and
only ever changed by one atomic addition.  It does not wrap here: that would take
`2 ^ 64` calls. -/
structure ResourceIdGenerator where
  last : Nat
  resourceType : ResourceType
deriving DecidableEq, Repr

namespace ResourceIdGenerator

def new (resourceType : ResourceType) : ResourceIdGenerator := ⟨1, resourceType⟩

/-- Generates a new id.  The counter has moved on even where the assertion on the
base value stops the caller. -/
def generate (g : ResourceIdGenerator) (adapterId : BitVec 8) :
    Option ResourceId × ResourceIdGenerator :=
  (if g.last < 2 ^ 64 then ResourceId.new adapterId g.resourceType (.ofNat 64 g.last) else none,
    { g with last := g.last + 1 })

@[simp] theorem generate_last (g : ResourceIdGenerator) (a : BitVec 8) :
    (g.generate a).2.last = g.last + 1 := rfl

@[simp] theorem generate_resourceType (g : ResourceIdGenerator) (a : BitVec 8) :
    (g.generate a).2.resourceType = g.resourceType := rfl

/-- A generated id decodes to what it was made from. -/
theorem generate_some {g : ResourceIdGenerator} {a : BitVec 8} {r : ResourceId}
    (h : (g.generate a).1 = some r) :
    r.resourceType = g.resourceType ∧ r.adapterId = a ∧ r.baseValue.toNat = g.last := by
  have hlt : g.last < 2 ^ 64 := by
    by_contra hge
    rw [generate, if_neg hge] at h
    cases h
  rw [generate, if_pos hlt] at h
  refine ⟨ResourceId.resourceType_new h, ResourceId.adapterId_new h, ?_⟩
  rw [ResourceId.baseValue_new h, BitVec.toNat_ofNat, Nat.mod_eq_of_lt hlt]

/-- An adapter gets its ids as long as the base values last. -/
theorem generate_ne_none {g : ResourceIdGenerator} (h : g.last ≤ ResourceId.maxBaseValue)
    (id : ResourceId) : (g.generate id.adapterId).1 ≠ none := by
  have hadapter : id.adapterId ≤ ResourceId.maxAdapterId := by
    rw [ResourceId.maxAdapterId_eq, BitVec.le_def, ResourceId.toNat_adapterId]
    exact Nat.le_of_lt_succ (Nat.mod_lt _ (by decide))
  have hlt : g.last < 2 ^ 64 := by
    rw [ResourceId.maxBaseValue_eq] at h
    omega
  rw [generate, if_pos hlt, ResourceId.new, if_pos hadapter, BitVec.toNat_ofNat,
    Nat.mod_eq_of_lt hlt, if_pos h]
  exact Option.some_ne_none _

end ResourceIdGenerator

end MessageIo
