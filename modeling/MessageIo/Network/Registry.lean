import MessageIo.Lib.Shared
import MessageIo.Network.Driver
import MessageIo.Network.Poll

/-!
# Shared registers (`network/registry.rs`)

A registry of the source shares its registers: `get` returns a reference that may outlive the
`deregister` of its id.  What is dropped with the last reference is the register, and only this
takes its source out of the poll.

`ResourceRegistry` of the drivers has none of this.  `view_step` says that the one stands for
the other, and `consistent` what the references come to: the poll watches the sources of the
registers that are referred to, and loses each of them once.
-/

namespace MessageIo

/-- `mio::Interest` -/
inductive Interest where
  | readable
  | readableWritable
deriving DecidableEq, Repr

/-- The sources that a poll watches, each with its token. -/
structure PollRegistry (Src : Type) where
  sources : Src → Option (Token × Interest)

namespace PollRegistry

variable {Src : Type} [DecidableEq Src]

/-- Watch a source.  The poll refuses one that it watches already, and may refuse others. -/
def add (g : PollRegistry Src) (id : ResourceId) (source : Src) (writeReadiness : Bool)
    (answer : IoResult Unit) : Except Halt (PollRegistry Src × ResourceId) := do
  let interest := if writeReadiness then Interest.readableWritable else .readable
  let answer : IoResult Unit := if (g.sources source).isSome then .error ⟨.other, none⟩ else answer
  unwrap answer
  return (⟨Function.update g.sources source (some (id.token, interest))⟩, id)

/-- Do not watch a source any more.  The poll refuses one that it does not watch. -/
def remove (g : PollRegistry Src) (source : Src) : Except Halt (PollRegistry Src) := do
  let answer : IoResult Unit :=
    if (g.sources source).isSome then .ok () else .error ⟨.notFound, none⟩
  unwrap answer
  return ⟨Function.update g.sources source none⟩

end PollRegistry

/-- A registry, and the references to its registers that are about. -/
structure SharedRegistry (S P Src : Type) where
  /-- References to the registers, by id. -/
  resources : ResourceId → Option Nat
  registers : Shared.Heap (Register S P)
  poll : PollRegistry Src
  /-- The references that `get` returned, as long as they are held. -/
  held : List Nat
  /-- The registers that were dropped. -/
  dropped : List Nat

/-- An operation on a registry, or the end of a reference. -/
inductive RegistryOp (S P : Type) where
  | register (id : ResourceId) (resource : S) (properties : P) (writeReadiness : Bool)
      (answer : IoResult Unit)
  | deregister (id : ResourceId)
  | get (id : ResourceId)
  | release (p : Nat)

namespace SharedRegistry

variable {S P Src : Type} [DecidableEq Src]

def new : SharedRegistry S P Src := ⟨fun _ ↦ none, .empty, ⟨fun _ ↦ none⟩, [], []⟩

/-- A reference is dropped; with the last one, `drop` of the register takes its source out of the
poll. -/
def dropReference (source : S → Src) (g : SharedRegistry S P Src) (p : Nat) :
    Except Halt (SharedRegistry S P Src) :=
  let (last, registers) := g.registers.drop p
  match last with
  | none => .ok { g with registers }
  | some r => do
      let poll ← g.poll.remove (source r.resource)
      return { g with registers, poll, dropped := p :: g.dropped }

/-- The entry of a map that was replaced or removed is dropped, if there was one. -/
def dropEntry (source : S → Src) (g : SharedRegistry S P Src) :
    Option Nat → Except Halt (SharedRegistry S P Src)
  | none => .ok g
  | some p => g.dropReference source p

/-- Add a resource into the registry. -/
def register (source : S → Src) (g : SharedRegistry S P Src) (id : ResourceId) (resource : S)
    (properties : P) (writeReadiness : Bool) (answer : IoResult Unit) :
    Except Halt (SharedRegistry S P Src) := do
  let (poll, id) ← g.poll.add id (source resource) writeReadiness answer
  let (p, registers) := g.registers.alloc ⟨resource, properties⟩
  let replaced := g.resources id
  let g := { g with poll, registers, resources := Function.update g.resources id (some p) }
  g.dropEntry source replaced

/-- Remove a register from the registry, and tell if there was one. -/
def deregister (source : S → Src) (g : SharedRegistry S P Src) (id : ResourceId) :
    Except Halt (SharedRegistry S P Src × Bool) := do
  let removed := g.resources id
  let g ← { g with resources := Function.update g.resources id none }.dropEntry source removed
  return (g, removed.isSome)

/-- Returned a shared reference of the register. -/
def get (g : SharedRegistry S P Src) (id : ResourceId) : SharedRegistry S P Src × Option Nat :=
  match g.resources id with
  | none => (g, none)
  | some p => ({ g with registers := g.registers.share p, held := p :: g.held }, some p)

/-- A reference that `get` returned is dropped. -/
def release (source : S → Src) (g : SharedRegistry S P Src) (p : Nat) :
    Except Halt (SharedRegistry S P Src) :=
  { g with held := g.held.erase p }.dropReference source p

def perform (source : S → Src) (g : SharedRegistry S P Src) :
    RegistryOp S P → Except Halt (SharedRegistry S P Src)
  | .register id resource properties writeReadiness answer =>
      g.register source id resource properties writeReadiness answer
  | .deregister id => (g.deregister source id).map Prod.fst
  | .get id => .ok (g.get id).1
  | .release p => g.release source p

/-- What can be asked for: a resource that is registered is owned by the caller, so that its source
is that of no register; and a reference that is released is held. -/
def Allowed (source : S → Src) (g : SharedRegistry S P Src) : RegistryOp S P → Prop
  | .register _ resource _ _ _ =>
      ∀ p < g.registers.next, ∀ r ∈ g.registers.get p, source r.resource ≠ source resource
  | .release p => p ∈ g.held
  | _ => True

instance (source : S → Src) (g : SharedRegistry S P Src) :
    (op : RegistryOp S P) → Decidable (g.Allowed source op)
  | .register _ resource _ _ _ =>
      inferInstanceAs (Decidable (∀ p < g.registers.next, ∀ r ∈ g.registers.get p,
        source r.resource ≠ source resource))
  | .release p => inferInstanceAs (Decidable (p ∈ g.held))
  | .deregister _ => inferInstanceAs (Decidable True)
  | .get _ => inferInstanceAs (Decidable True)

/-- An operation that can be asked for is a step, if it does not halt. -/
def step (source : S → Src) (g : SharedRegistry S P Src) (op : RegistryOp S P) :
    Option (SharedRegistry S P Src) :=
  if g.Allowed source op then (g.perform source op).toOption else none

/-- There is a reference to a register, in the map or elsewhere. -/
def Referred (g : SharedRegistry S P Src) (p : Nat) : Prop :=
  (∃ id, g.resources id = some p) ∨ p ∈ g.held

end SharedRegistry

/-- The last resource that was registered under an id and not deregistered since, by the operations
so far, newest first. -/
def lastRegistered {S P : Type} (id : ResourceId) : List (RegistryOp S P) → Option (Register S P)
  | [] => none
  | .register id' resource properties _ _ :: ops =>
      if id' = id then some ⟨resource, properties⟩ else lastRegistered id ops
  | .deregister id' :: ops => if id' = id then none else lastRegistered id ops
  | _ :: ops => lastRegistered id ops

/-- What an operation does to the registry of the drivers. -/
def RegistryOp.apply {S P : Type} (g : ResourceRegistry S P) : RegistryOp S P → ResourceRegistry S P
  | .register id resource properties _ _ => g.register id resource properties
  | .deregister id => (g.deregister id).1
  | _ => g

/-- The last resource under an id is the one that the registry of the drivers has. -/
theorem get_apply {S P : Type} {g : ResourceRegistry S P} {ops : List (RegistryOp S P)}
    (h : ∀ id, g.get id = lastRegistered id ops) (op : RegistryOp S P) (id : ResourceId) :
    (op.apply g).get id = lastRegistered id (op :: ops) := by
  cases op with
  | register id' resource properties writeReadiness answer =>
      rw [RegistryOp.apply, lastRegistered]
      by_cases hid : id' = id
      · rw [if_pos hid, hid, ResourceRegistry.get_register_self]
      · rw [if_neg hid, ResourceRegistry.get_register_of_ne (Ne.symm hid), h]
  | deregister id' =>
      rw [RegistryOp.apply, lastRegistered]
      by_cases hid : id' = id
      · rw [if_pos hid, hid, ResourceRegistry.get_deregister_self]
      · rw [if_neg hid, ResourceRegistry.get_deregister_of_ne (Ne.symm hid), h]
  | get id' => exact h id
  | release p => exact h id

namespace SharedRegistry

variable {S P Src : Type} [DecidableEq Src] {source : S → Src} {g g' : SharedRegistry S P Src}

/-! ## References are counted -/

open Classical in
/-- The number of entries of the map that refer to a register. -/
noncomputable def entries (resources : ResourceId → Option Nat) (p : Nat) : Nat :=
  if ∃ id, resources id = some p then 1 else 0

/-- No register is registered under two ids. -/
def Injective (resources : ResourceId → Option Nat) : Prop :=
  ∀ ⦃id id' p⦄, resources id = some p → resources id' = some p → id = id'

theorem Injective.update {resources : ResourceId → Option Nat} (h : Injective resources)
    (id : ResourceId) {entry : Option Nat}
    (hentry : ∀ id' p, entry = some p → resources id' ≠ some p) :
    Injective (Function.update resources id entry) := by
  intro id₁ id₂ p h₁ h₂
  rw [Function.update_apply] at h₁ h₂
  split at h₁
  · split at h₂
    · rename_i heq₁ heq₂
      rw [heq₁, heq₂]
    · exact absurd h₂ (hentry _ _ h₁)
  · split at h₂
    · exact absurd h₁ (hentry _ _ h₂)
    · exact h h₁ h₂

theorem entries_eq_zero {resources : ResourceId → Option Nat} {p : Nat}
    (h : ∀ id, resources id ≠ some p) : entries resources p = 0 :=
  if_neg fun ⟨id, hid⟩ ↦ h id hid

theorem entries_eq_one {resources : ResourceId → Option Nat} {id : ResourceId} {p : Nat}
    (h : resources id = some p) : entries resources p = 1 :=
  if_pos ⟨id, h⟩

/-- An entry is put into the map, or taken out of it. -/
theorem entries_update {resources : ResourceId → Option Nat} (hinj : Injective resources)
    (id : ResourceId) (entry : Option Nat) (p : Nat) :
    entries (Function.update resources id entry) p =
      if entry = some p then 1 else if resources id = some p then 0 else entries resources p := by
  by_cases hentry : entry = some p
  · rw [if_pos hentry]
    have hid : Function.update resources id entry id = some p := by
      rw [Function.update_self, hentry]
    exact entries_eq_one hid
  · rw [if_neg hentry]
    by_cases hid : resources id = some p
    · rw [if_pos hid]
      refine entries_eq_zero fun id' hid' ↦ ?_
      by_cases heq : id' = id
      · rw [heq, Function.update_self] at hid'
        exact hentry hid'
      · rw [Function.update_of_ne heq] at hid'
        exact heq (hinj hid' hid)
    · rw [if_neg hid, entries, entries]
      congr 1
      refine propext (exists_congr fun id' ↦ ?_)
      by_cases heq : id' = id
      · rw [heq, Function.update_self]
        exact ⟨fun h ↦ absurd h hentry, fun h ↦ absurd h hid⟩
      · rw [Function.update_of_ne heq]

/-- **The registers, the poll and what was dropped agree**, if there are so many references to each
register. -/
structure Books (source : S → Src) (g : SharedRegistry S P Src) (refs : Nat → Nat) : Prop where
  counts : ∀ p, g.registers.count p = refs p
  fresh : ∀ p, g.registers.next ≤ p → g.registers.get p = none
  poll : ∀ src, (g.poll.sources src).isSome ↔
    ∃ p r, g.registers.get p = some r ∧ source r.resource = src
  own : ∀ {p p' r r'}, g.registers.get p = some r → g.registers.get p' = some r' →
    source r.resource = source r'.resource → p = p'
  dropped : ∀ p, g.dropped.count p =
    if p < g.registers.next ∧ g.registers.get p = none then 1 else 0

omit [DecidableEq Src] in
/-- A register is there if there is a reference to it. -/
theorem Books.get_isSome {refs : Nat → Nat} (h : g.Books source refs) {p : Nat} (hp : refs p ≠ 0) :
    ∃ r, g.registers.get p = some r := by
  rw [← h.counts, Ne, Shared.Heap.count_eq_zero_iff] at hp
  exact Option.ne_none_iff_exists'.1 hp

omit [DecidableEq Src] in
theorem Books.lt_next {refs : Nat → Nat} (h : g.Books source refs) {p : Nat} {r : Register S P}
    (hr : g.registers.get p = some r) : p < g.registers.next := by
  refine Nat.lt_of_not_le fun hle ↦ ?_
  cases hr.symm.trans (h.fresh p hle)

/-- Without the value, only the count changes. -/
theorem dropReference_shared {p : Nat} (h : (g.registers.drop p).1 = none) :
    g.dropReference source p = .ok { g with registers := (g.registers.drop p).2 } := by
  rw [dropReference]
  generalize g.registers.drop p = out at h
  obtain ⟨last, registers⟩ := out
  cases h
  rfl

/-- With the value, the poll forgets its source. -/
theorem dropReference_last {p : Nat} {r : Register S P} (h : (g.registers.drop p).1 = some r)
    (hsource : (g.poll.sources (source r.resource)).isSome) :
    g.dropReference source p = .ok { g with
      registers := (g.registers.drop p).2
      poll := ⟨Function.update g.poll.sources (source r.resource) none⟩
      dropped := p :: g.dropped } := by
  rw [dropReference]
  generalize g.registers.drop p = out at h
  obtain ⟨last, registers⟩ := out
  cases h
  simp only [PollRegistry.remove, if_pos hsource]
  rfl

omit [DecidableEq Src] in
/-- The books without a reference that is not the last one. -/
theorem Books.drop_shared {refs : Nat → Nat} {p n : Nat} (h : g.Books source refs)
    (hp : refs p = n + 2) :
    (g.registers.drop p).1 = none ∧ (∀ q, (g.registers.drop p).2.get q = g.registers.get q) ∧
      Books source { g with registers := (g.registers.drop p).2 }
        (Function.update refs p (n + 1)) := by
  have hnot : ¬ n + 2 = 1 := fun h ↦ nomatch h
  have hsame : ∀ q, (g.registers.drop p).2.get q = g.registers.get q := by
    intro q
    rw [Shared.Heap.get_drop, h.counts, hp, if_neg fun hq ↦ hnot hq.2]
  refine ⟨?_, hsame, ⟨?_, ?_, ?_, ?_, ?_⟩⟩
  · rw [Shared.Heap.fst_drop, h.counts, hp, if_neg hnot]
  · intro q
    rw [Shared.Heap.count_drop, h.counts, h.counts, hp, Function.update_apply]
    rfl
  · intro q hq
    rw [Shared.Heap.next_drop] at hq
    exact (hsame q).trans (h.fresh q hq)
  · intro src
    simp only [hsame]
    exact h.poll src
  · intro q q' r r' hq hq'
    rw [hsame] at hq hq'
    exact h.own hq hq'
  · intro q
    simp only [hsame, Shared.Heap.next_drop]
    exact h.dropped q

/-- The books without the last reference to a register. -/
theorem Books.drop_last {refs : Nat → Nat} {p : Nat} {r : Register S P} (h : g.Books source refs)
    (hp : refs p = 1) (hr : g.registers.get p = some r) :
    (g.registers.drop p).1 = some r ∧
      (∀ q, (g.registers.drop p).2.get q = if q = p then none else g.registers.get q) ∧
      Books source { g with
        registers := (g.registers.drop p).2
        poll := ⟨Function.update g.poll.sources (source r.resource) none⟩
        dropped := p :: g.dropped } (Function.update refs p 0) := by
  have hget : ∀ q, (g.registers.drop p).2.get q = if q = p then none else g.registers.get q := by
    intro q
    simp only [Shared.Heap.get_drop, h.counts, hp, and_true]
  refine ⟨?_, hget, ⟨?_, ?_, ?_, ?_, ?_⟩⟩
  · rw [Shared.Heap.fst_drop, h.counts, hp, if_pos rfl, hr]
  · intro q
    rw [Shared.Heap.count_drop, h.counts, h.counts, hp, Function.update_apply]
  · intro q hq
    rw [Shared.Heap.next_drop] at hq
    rw [hget, h.fresh q hq, ite_self]
  · intro src
    show (Function.update g.poll.sources (source r.resource) none src).isSome ↔ _
    simp only [hget]
    by_cases hsrc : src = source r.resource
    · rw [hsrc, Function.update_self]
      refine ⟨nofun, ?_⟩
      rintro ⟨q, r', hq, hr'⟩
      split at hq
      · cases hq
      · rename_i hqp
        exact absurd (h.own hq hr hr') hqp
    · rw [Function.update_of_ne hsrc, h.poll]
      constructor
      · rintro ⟨q, r', hq, rfl⟩
        refine ⟨q, r', ?_, rfl⟩
        rw [if_neg, hq]
        rintro rfl
        cases hq.symm.trans hr
        exact hsrc rfl
      · rintro ⟨q, r', hq, hr'⟩
        split at hq
        · cases hq
        · exact ⟨q, r', hq, hr'⟩
  · intro q q' r₁ r₂ hq hq'
    simp only [hget] at hq hq'
    split at hq
    · cases hq
    · split at hq'
      · cases hq'
      · exact h.own hq hq'
  · intro q
    show (p :: g.dropped).count q = _
    rw [hget, Shared.Heap.next_drop]
    by_cases hq : q = p
    · have hlive : ¬ (p < g.registers.next ∧ g.registers.get p = none) := by
        rintro ⟨-, hnone⟩
        cases hnone.symm.trans hr
      rw [hq, List.count_cons_self, h.dropped, if_neg hlive, if_pos rfl, if_pos ⟨h.lt_next hr, rfl⟩]
    · rw [List.count_cons_of_ne (Ne.symm hq), h.dropped, if_neg hq]

/-- **A reference can be dropped**, and the books are in order again with one reference less. -/
theorem Books.dropReference {refs : Nat → Nat} {p n : Nat} (h : g.Books source refs)
    (hp : refs p = n + 1) :
    ∃ g', g.dropReference source p = .ok g' ∧ g'.Books source (Function.update refs p n) ∧
      g'.resources = g.resources ∧ g'.held = g.held ∧
        ∀ q, q ≠ p ∨ n ≠ 0 → g'.registers.get q = g.registers.get q := by
  cases n with
  | succ n =>
      obtain ⟨hfst, hget, hbooks⟩ := h.drop_shared hp
      exact ⟨_, dropReference_shared hfst, hbooks, rfl, rfl, fun q _ ↦ hget q⟩
  | zero =>
      obtain ⟨r, hr⟩ := h.get_isSome (p := p) (by rw [hp]; exact Nat.one_ne_zero)
      obtain ⟨hfst, hget, hbooks⟩ := h.drop_last hp hr
      refine ⟨_, dropReference_last hfst ((h.poll _).2 ⟨p, r, hr, rfl⟩), hbooks, rfl, rfl, ?_⟩
      intro q hq
      exact (hget q).trans (if_neg (hq.resolve_right fun h ↦ h rfl))

/-- A new register has one reference. -/
theorem Books.alloc {refs : Nat → Nat} (h : g.Books source refs) (id : ResourceId)
    (interest : Interest) (r : Register S P)
    (hsource : ∀ p < g.registers.next, ∀ r' ∈ g.registers.get p,
      source r'.resource ≠ source r.resource) :
    Books source { g with
      registers := (g.registers.alloc r).2
      poll := ⟨Function.update g.poll.sources (source r.resource) (some (id.token, interest))⟩ }
      (Function.update refs g.registers.next 1) := by
  have hget := Shared.Heap.get_alloc g.registers r
  have hother : ∀ {p r'}, g.registers.get p = some r' → source r'.resource ≠ source r.resource :=
    fun hp ↦ hsource _ (h.lt_next hp) _ hp
  refine ⟨?_, ?_, ?_, ?_, ?_⟩
  · intro p
    rw [Shared.Heap.count_alloc, Function.update_apply, h.counts]
  · intro p hp
    have hlt : g.registers.next < p := hp
    rw [hget, if_neg (Nat.ne_of_gt hlt), h.fresh p (Nat.le_of_lt hlt)]
  · intro src
    show (Function.update g.poll.sources (source r.resource) _ src).isSome ↔ _
    simp only [hget]
    by_cases hsrc : src = source r.resource
    · rw [hsrc, Function.update_self]
      exact ⟨fun _ ↦ ⟨g.registers.next, r, if_pos rfl, rfl⟩, fun _ ↦ rfl⟩
    · rw [Function.update_of_ne hsrc, h.poll]
      constructor
      · rintro ⟨p, r', hp, hr'⟩
        exact ⟨p, r', by rw [if_neg (Nat.ne_of_lt (h.lt_next hp)), hp], hr'⟩
      · rintro ⟨p, r', hp, hr'⟩
        split at hp
        · cases hp
          exact absurd hr'.symm hsrc
        · exact ⟨p, r', hp, hr'⟩
  · intro p p' r₁ r₂ hp hp' heq
    simp only [hget] at hp hp'
    split at hp
    · split at hp'
      · rename_i hq hq'
        rw [hq, hq']
      · cases hp
        exact absurd heq.symm (hother hp')
    · split at hp'
      · cases hp'
        exact absurd heq (hother hp)
      · exact h.own hp hp' heq
  · intro p
    show g.dropped.count p = _
    rw [h.dropped, hget, Shared.Heap.next_alloc]
    by_cases hp : p = g.registers.next
    · rw [if_pos hp, if_neg (fun h ↦ absurd h.1 (by rw [hp]; exact Nat.lt_irrefl _)),
        if_neg fun h ↦ nomatch h.2]
    · rw [if_neg hp]
      by_cases hlt : p < g.registers.next
      · simp only [hlt, Nat.lt_succ_of_lt hlt, true_and]
      · have hle : ¬ p < g.registers.next + 1 := fun h ↦
          (Nat.lt_succ_iff_lt_or_eq.1 h).elim hlt hp
        rw [if_neg fun h ↦ hlt h.1, if_neg fun h ↦ hle h.1]

/-! ## Operations keep the books -/

/-- The references to a register, in the map and elsewhere. -/
noncomputable def refs (g : SharedRegistry S P Src) (p : Nat) : Nat :=
  entries g.resources p + g.held.count p

/-- **A registry is in order.** -/
structure InOrder (source : S → Src) (g : SharedRegistry S P Src) : Prop where
  injective : Injective g.resources
  books : g.Books source g.refs

omit [DecidableEq Src] in
theorem inOrder_new : (new : SharedRegistry S P Src).InOrder source where
  injective _ _ _ h := nomatch h
  books := by
    refine ⟨fun p ↦ ?_, fun _ _ ↦ rfl, fun src ↦ ?_, (fun h ↦ nomatch h), fun p ↦ ?_⟩
    · have hempty : ∀ id : ResourceId, (fun _ ↦ none : ResourceId → Option Nat) id ≠ some p :=
        fun _ h ↦ nomatch h
      exact (entries_eq_zero hempty).symm
    · refine ⟨(fun h ↦ nomatch h), ?_⟩
      rintro ⟨_, _, h, -⟩
      cases h
    · exact (if_neg fun h ↦ Nat.not_lt_zero p h.1).symm

/-- **An entry that left the map is dropped**, and the registry is in order again. -/
theorem Books.dropEntry {refs : Nat → Nat} (h : g.Books source refs) (hinj : Injective g.resources)
    (entry : Option Nat) (hrefs : ∀ p, refs p = g.refs p + if entry = some p then 1 else 0) :
    ∃ g', g.dropEntry source entry = .ok g' ∧ g'.InOrder source ∧ g'.resources = g.resources ∧
      g'.held = g.held ∧ ∀ q, g.refs q ≠ 0 → g'.registers.get q = g.registers.get q := by
  cases entry with
  | none =>
      have heq : refs = g.refs := by
        funext p
        rw [hrefs, if_neg (fun h ↦ nomatch h), Nat.add_zero]
      rw [heq] at h
      exact ⟨g, rfl, ⟨hinj, h⟩, rfl, rfl, fun _ _ ↦ rfl⟩
  | some p =>
      have hp := hrefs p
      rw [if_pos rfl] at hp
      obtain ⟨g', hg', hbooks, hresources, hheld, hget⟩ := h.dropReference hp
      have hsame : g'.refs = g.refs := by
        funext q
        rw [SharedRegistry.refs, hresources, hheld]
        rfl
      refine ⟨g', hg', ⟨by rw [hresources]; exact hinj, ?_⟩, hresources, hheld, fun q hq ↦ ?_⟩
      · have heq : Function.update refs p (g.refs p) = g'.refs := by
          funext q
          rw [hsame, Function.update_apply]
          split
          · rename_i hqp
            rw [hqp]
          · rename_i hqp
            rw [hrefs, if_neg fun h ↦ hqp (Option.some.inj h).symm, Nat.add_zero]
        rw [← heq]
        exact hbooks
      · refine hget q ?_
        by_cases hqp : q = p
        · rw [← hqp]
          exact .inr hq
        · exact .inl hqp

/-- What the registry of the drivers is, to which this one comes down. -/
def view (g : SharedRegistry S P Src) : ResourceRegistry S P :=
  ⟨fun id ↦ (g.resources id).bind g.registers.get⟩

omit [DecidableEq Src] in
theorem refs_ne_zero {id : ResourceId} {p : Nat} (h : g.resources id = some p) : g.refs p ≠ 0 := by
  rw [refs, entries_eq_one h]
  exact fun h ↦ nomatch (Nat.add_eq_zero_iff.1 h).1

/-- **A resource is registered**, and one that it replaces is dropped. -/
theorem InOrder.register (h : g.InOrder source) (id : ResourceId) (resource : S) (properties : P)
    (writeReadiness : Bool)
    (hsource : ∀ p < g.registers.next, ∀ r ∈ g.registers.get p,
      source r.resource ≠ source resource) :
    ∃ g', g.register source id resource properties writeReadiness (.ok ()) = .ok g' ∧
      g'.InOrder source ∧ g'.view = g.view.register id resource properties := by
  have hnone : g.poll.sources (source resource) = none := by
    rw [← Option.not_isSome_iff_eq_none, h.books.poll]
    rintro ⟨p, r, hp, hr⟩
    exact hsource p (h.books.lt_next hp) r hp hr
  have hnext : g.refs g.registers.next = 0 := by
    rw [← h.books.counts, Shared.Heap.count_eq_zero_iff]
    exact h.books.fresh _ (Nat.le_refl _)
  have hentry : ∀ id, g.resources id ≠ some g.registers.next := fun id hid ↦ refs_ne_zero hid hnext
  let interest := if writeReadiness then Interest.readableWritable else .readable
  let g₁ : SharedRegistry S P Src := { g with
    registers := (g.registers.alloc ⟨resource, properties⟩).2
    poll := ⟨Function.update g.poll.sources (source resource) (some (id.token, interest))⟩
    resources := Function.update g.resources id (some g.registers.next) }
  have hregister : g.register source id resource properties writeReadiness (.ok ()) =
      g₁.dropEntry source (g.resources id) := by
    rw [SharedRegistry.register, PollRegistry.add, hnone]
    rfl
  have hbooks : g₁.Books source (Function.update g.refs g.registers.next 1) :=
    let hbooks := h.books.alloc id interest ⟨resource, properties⟩ hsource
    ⟨hbooks.counts, hbooks.fresh, hbooks.poll, hbooks.own, hbooks.dropped⟩
  have hinj : Injective g₁.resources := by
    refine h.injective.update id ?_
    rintro id' _ ⟨⟩
    exact hentry id'
  have hrefs : ∀ p, Function.update g.refs g.registers.next 1 p =
      g₁.refs p + if g.resources id = some p then 1 else 0 := by
    intro p
    have hentries := entries_update h.injective id (some g.registers.next) p
    show _ = entries (Function.update g.resources id (some g.registers.next)) p + g.held.count p + _
    rw [hentries, Function.update_apply, refs]
    by_cases hp : p = g.registers.next
    · rw [refs, Nat.add_eq_zero_iff] at hnext
      rw [if_pos hp, hp, if_pos rfl, if_neg (hentry id), hnext.2]
    · rw [if_neg hp, if_neg fun h ↦ hp (Option.some.inj h).symm]
      by_cases hid : g.resources id = some p
      · rw [if_pos hid, if_pos hid, entries_eq_one hid, Nat.zero_add, Nat.add_comm]
      · rw [if_neg hid, if_neg hid, Nat.add_zero]
  obtain ⟨g', hg', horder, hresources, -, hget⟩ := hbooks.dropEntry hinj (g.resources id) hrefs
  refine ⟨g', hregister.trans hg', horder, ?_⟩
  rw [view, ResourceRegistry.register]
  congr 1
  funext id'
  rw [hresources]
  show (Function.update g.resources id (some g.registers.next) id').bind _ = _
  by_cases hid : id' = id
  · have hentry' : g₁.resources id = some g.registers.next := Function.update_self ..
    rw [hid, Function.update_self, Function.update_self, Option.bind_some,
      hget _ (refs_ne_zero hentry')]
    exact (Shared.Heap.get_alloc ..).trans (if_pos rfl)
  · rw [Function.update_of_ne hid, Function.update_of_ne hid]
    show _ = (g.resources id').bind g.registers.get
    cases hp : g.resources id' with
    | none => rfl
    | some p =>
        have hentry' : g₁.resources id' = some p := (Function.update_of_ne hid ..).trans hp
        rw [Option.bind_some, hget _ (refs_ne_zero hentry')]
        refine (Shared.Heap.get_alloc ..).trans (if_neg ?_)
        rintro rfl
        exact hentry id' hp

/-- **A register is removed**, and the answer tells if there was one. -/
theorem InOrder.deregister (h : g.InOrder source) (id : ResourceId) :
    ∃ g', g.deregister source id = .ok (g', (g.view.deregister id).2) ∧ g'.InOrder source ∧
      g'.view = (g.view.deregister id).1 := by
  let g₁ : SharedRegistry S P Src := { g with resources := Function.update g.resources id none }
  have hbooks : g₁.Books source g.refs :=
    ⟨h.books.counts, h.books.fresh, h.books.poll, h.books.own, h.books.dropped⟩
  have hinj : Injective g₁.resources := h.injective.update id fun _ _ hp ↦ nomatch hp
  have hrefs : ∀ p, g.refs p = g₁.refs p + if g.resources id = some p then 1 else 0 := by
    intro p
    have hentries := entries_update h.injective id none p
    show _ = entries (Function.update g.resources id none) p + g.held.count p + _
    rw [hentries, if_neg (fun h ↦ nomatch h), refs]
    by_cases hid : g.resources id = some p
    · rw [if_pos hid, if_pos hid, entries_eq_one hid, Nat.zero_add, Nat.add_comm]
    · rw [if_neg hid, if_neg hid, Nat.add_zero]
  obtain ⟨g', hg', horder, hresources, -, hget⟩ := hbooks.dropEntry hinj (g.resources id) hrefs
  have hsome : (g.resources id).isSome = ((g.resources id).bind g.registers.get).isSome := by
    cases hid : g.resources id with
    | none => rfl
    | some p =>
        obtain ⟨r, hr⟩ := h.books.get_isSome (refs_ne_zero hid)
        rw [Option.bind_some, hr]
        rfl
  refine ⟨g', ?_, horder, ?_⟩
  · let removed := g.resources id
    show (g₁.dropEntry source removed >>= fun g ↦ pure (g, removed.isSome)) = _
    rw [hg']
    exact congrArg (fun b ↦ Except.ok (g', b)) hsome
  · rw [view, ResourceRegistry.deregister]
    congr 1
    funext id'
    rw [hresources]
    show (Function.update g.resources id none id').bind _ = _
    by_cases hid : id' = id
    · rw [hid, Function.update_self, Function.update_self, Option.bind_none]
    · rw [Function.update_of_ne hid, Function.update_of_ne hid]
      show _ = (g.resources id').bind g.registers.get
      cases hp : g.resources id' with
      | none => rfl
      | some p =>
          have hentry' : g₁.resources id' = some p := (Function.update_of_ne hid ..).trans hp
          rw [Option.bind_some, hget _ (refs_ne_zero hentry')]
          rfl

omit [DecidableEq Src] in
/-- **A reference is shared**, to the register that there is. -/
theorem InOrder.get (h : g.InOrder source) (id : ResourceId) :
    (g.get id).2.bind g.registers.get = g.view.get id ∧ (g.get id).1.InOrder source ∧
      (g.get id).1.view = g.view := by
  rw [SharedRegistry.get]
  cases hid : g.resources id with
  | none =>
      refine ⟨?_, h, rfl⟩
      show _ = (g.resources id).bind _
      rw [hid]
  | some p =>
      have hp : g.registers.get p ≠ none := by
        obtain ⟨r, hr⟩ := h.books.get_isSome (refs_ne_zero hid)
        rw [hr]
        exact fun h ↦ nomatch h
      have hget := Shared.Heap.get_share g.registers p
      refine ⟨?_, ⟨h.injective, ⟨?_, ?_, ?_, ?_, ?_⟩⟩, ?_⟩
      · show _ = (g.resources id).bind _
        rw [hid]
      · intro q
        show (g.registers.share p).count q = entries g.resources q + (p :: g.held).count q
        rw [Shared.Heap.count_share hp, h.books.counts, h.books.counts]
        by_cases hq : q = p
        · rw [if_pos hq, hq, List.count_cons_self]
          rfl
        · rw [if_neg hq, List.count_cons_of_ne (Ne.symm hq)]
          rfl
      · intro q hq
        exact (hget q).trans (h.books.fresh q hq)
      · intro src
        simp only [hget]
        exact h.books.poll src
      · intro q q' r r' hq hq'
        simp only [hget] at hq hq'
        exact h.books.own hq hq'
      · intro q
        simp only [hget, Shared.Heap.next_share]
        exact h.books.dropped q
      · show ResourceRegistry.mk (fun id ↦ (g.resources id).bind (g.registers.share p).get) = _
        rw [funext hget]
        rfl

/-- **A reference that is held can be released.** -/
theorem InOrder.release (h : g.InOrder source) {p : Nat} (hp : p ∈ g.held) :
    ∃ g', g.release source p = .ok g' ∧ g'.InOrder source ∧ g'.view = g.view := by
  let g₁ : SharedRegistry S P Src := { g with held := g.held.erase p }
  have hbooks : g₁.Books source g.refs :=
    ⟨h.books.counts, h.books.fresh, h.books.poll, h.books.own, h.books.dropped⟩
  have hrefs : ∀ q, g.refs q = g₁.refs q + if some p = some q then 1 else 0 := by
    intro q
    show entries g.resources q + g.held.count q =
      entries g.resources q + (g.held.erase p).count q + _
    by_cases hq : p = q
    · rw [← hq, List.count_erase_self, if_pos rfl, Nat.add_assoc,
        Nat.sub_add_cancel (List.count_pos_iff.2 hp)]
    · rw [List.count_erase_of_ne (Ne.symm hq), if_neg fun h ↦ hq (Option.some.inj h), Nat.add_zero]
  obtain ⟨g', hg', horder, hresources, -, hget⟩ := hbooks.dropEntry h.injective (some p) hrefs
  refine ⟨g', hg', horder, ?_⟩
  rw [view, view, hresources]
  congr 1
  funext id
  show (g.resources id).bind _ = _
  cases hid : g.resources id with
  | none => rfl
  | some q =>
      have hentry : g₁.resources id = some q := hid
      rw [Option.bind_some, hget q (refs_ne_zero hentry)]
      rfl

/-! ## Runs -/

/-- **What can be asked for is done**, unless the poll refuses a new source, and then the registry
is in order and what it stands for has changed as it should. -/
theorem InOrder.perform (h : g.InOrder source) {op : RegistryOp S P} (hop : g.Allowed source op) :
    (∃ g', g.perform source op = .ok g' ∧ g'.InOrder source ∧ g'.view = op.apply g.view) ∨
      ∃ halt id resource properties writeReadiness e, g.perform source op = .error halt ∧
        op = .register id resource properties writeReadiness (.error e) := by
  cases op with
  | register id resource properties writeReadiness answer =>
      cases answer with
      | ok a => exact .inl (h.register id resource properties writeReadiness hop)
      | error e =>
          refine .inr ⟨.panic .unwrap, id, resource, properties, writeReadiness, e, ?_, rfl⟩
          rw [SharedRegistry.perform, SharedRegistry.register, PollRegistry.add]
          cases (g.poll.sources (source resource)).isSome with
          | true => rfl
          | false => rfl
  | deregister id =>
      obtain ⟨g', hg', horder, hview⟩ := h.deregister id
      refine .inl ⟨g', ?_, horder, hview⟩
      rw [SharedRegistry.perform, hg']
      rfl
  | get id => exact .inl ⟨_, rfl, (h.get id).2⟩
  | release p => exact .inl (h.release hop)

/-- A step keeps the registry in order, and comes down to a step of the other registry. -/
theorem view_step (h : g.InOrder source) {op : RegistryOp S P} (hs : g.step source op = some g') :
    g'.InOrder source ∧ g'.view = op.apply g.view := by
  rw [step] at hs
  split at hs
  · rename_i hop
    rcases h.perform hop with ⟨g₁, hg₁, horder, hview⟩ | ⟨halt, _, _, _, _, _, herror, -⟩
    · rw [hg₁] at hs
      cases hs
      exact ⟨horder, hview⟩
    · rw [herror] at hs
      cases hs
  · cases hs

omit [DecidableEq Src] in
theorem referred_iff (h : g.InOrder source) (p : Nat) :
    g.Referred p ↔ ∃ r, g.registers.get p = some r := by
  rw [← Option.ne_none_iff_exists', Ne, ← Shared.Heap.count_eq_zero_iff, h.books.counts, refs,
    Nat.add_eq_zero_iff, not_and_or, List.count_eq_zero, not_not, Referred, entries]
  refine or_congr_left ?_
  split
  · rename_i hid
    exact ⟨fun _ ↦ Nat.one_ne_zero, fun _ ↦ hid⟩
  · rename_i hid
    exact ⟨fun h ↦ absurd h hid, fun h ↦ absurd rfl h⟩

/-- **Registry and poll stay consistent.**  After any operations, the poll watches the sources of
the registers to which there is a reference, every other register has been taken out of it once,
`get` returns what was registered last and not deregistered since, and no operation panics unless
the poll refuses a new source. -/
theorem consistent {ops : List (RegistryOp S P)}
    (h : Transition.run (step source) new ops = some g) :
    (∀ src, (g.poll.sources src).isSome ↔
      ∃ p r, g.Referred p ∧ g.registers.get p = some r ∧ source r.resource = src) ∧
    (∀ p < g.registers.next, (g.Referred p → g.dropped.count p = 0) ∧
      (¬ g.Referred p → g.dropped.count p = 1)) ∧
    (∀ id, (g.get id).2.bind g.registers.get = lastRegistered id ops.reverse) ∧
    ∀ op halt, g.Allowed source op → g.perform source op = .error halt →
      ∃ id resource properties writeReadiness e,
        op = .register id resource properties writeReadiness (.error e) := by
  have hrun : g.InOrder source ∧ ∀ id, g.view.get id = lastRegistered id ops.reverse := by
    refine Transition.run_induction (P := fun ops g ↦ InOrder source g ∧
      ∀ id, g.view.get id = lastRegistered id ops.reverse) ⟨inOrder_new, fun _ ↦ rfl⟩ ?_ h
    intro ops g op g' ⟨horder, hlast⟩ hs
    obtain ⟨horder', hview⟩ := view_step horder hs
    refine ⟨horder', fun id ↦ ?_⟩
    rw [hview, List.reverse_append]
    exact get_apply hlast op id
  obtain ⟨horder, hlast⟩ := hrun
  refine ⟨fun src ↦ ?_, fun p hp ↦ ⟨fun href ↦ ?_, fun href ↦ ?_⟩, fun id ↦ ?_, ?_⟩
  · rw [horder.books.poll]
    refine exists_congr fun p ↦ exists_congr fun r ↦ ?_
    exact ⟨fun ⟨hr, hsrc⟩ ↦ ⟨(referred_iff horder p).2 ⟨r, hr⟩, hr, hsrc⟩, And.right⟩
  · obtain ⟨r, hr⟩ := (referred_iff horder p).1 href
    rw [horder.books.dropped, if_neg]
    rintro ⟨-, hnone⟩
    cases hr.symm.trans hnone
  · rw [referred_iff horder p, ← Option.ne_none_iff_exists', not_not] at href
    rw [horder.books.dropped, if_pos ⟨hp, href⟩]
  · rw [(horder.get id).1, hlast]
  · intro op halt hop herror
    rcases horder.perform hop with ⟨g', hg', -⟩ | ⟨_, id, resource, properties, w, e, -, hop⟩
    · rw [hg'] at herror
      cases herror
    · exact ⟨id, resource, properties, w, e, hop⟩

/-- A register is read while its id is deregistered and registered again. -/
theorem consistent_reading :
    ∃ g : SharedRegistry Nat Unit Nat,
      Transition.run (step id) new [.register ⟨1⟩ 7 () true (.ok ()), .get ⟨1⟩, .deregister ⟨1⟩,
        .register ⟨1⟩ 8 () false (.ok ()), .release 0] = some g ∧
      (∀ src, (g.poll.sources src).isSome ↔
        ∃ p r, g.Referred p ∧ g.registers.get p = some r ∧ r.resource = src) ∧
      g.dropped = [0] := by
  obtain ⟨g, hg⟩ : ∃ g : SharedRegistry Nat Unit Nat, Transition.run (step id) new
    [.register ⟨1⟩ 7 () true (.ok ()), .get ⟨1⟩, .deregister ⟨1⟩,
      .register ⟨1⟩ 8 () false (.ok ()), .release 0] = some g := ⟨_, rfl⟩
  refine ⟨g, hg, (consistent hg).1, ?_⟩
  cases hg
  rfl

end SharedRegistry

end MessageIo
