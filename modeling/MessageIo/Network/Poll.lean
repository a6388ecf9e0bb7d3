import MessageIo.Lib.Transition
import MessageIo.Network.ResourceId

/-!
# The poll (`network/poll.rs`)

The poll knows a resource by a token: the word of its id, with a tag in the highest byte,
which ids leave free.  The token of the waker is zero, and the tag keeps it apart.

Ids are made by any number of threads, from two generators that all of them share.  A call
takes a value from the counter at once and builds the id from it later, so that calls come in
between.  `identity` is about all runs of such calls.
-/

namespace MessageIo

/-- `mio::Token` -/
structure Token where
  word : BitVec 64
deriving DecidableEq, Repr

def reservedBytesPos : Nat := 56

/-- 1 byte -/
def reservedBytesMask : BitVec 64 := 0xFF00000000000000

/-- `From<Token> for ResourceId` -/
def Token.resourceId (token : Token) : ResourceId := ⟨token.word &&& ~~~reservedBytesMask⟩

/-- `From<ResourceId> for Token` -/
def ResourceId.token (id : ResourceId) : Token :=
  ⟨(id.id &&& ~~~reservedBytesMask) ||| (0x55#64 <<< reservedBytesPos)⟩

/-- `WAKER_TOKEN` -/
def Token.waker : Token := ⟨0⟩

inductive PollEvent where
  | networkRead (id : ResourceId)
  | networkWrite (id : ResourceId)
  | waker
deriving DecidableEq, Repr

/-- What `process_event` makes of an event of `mio` about a resource: its readable part comes
before its writable part. -/
def pollEvents (id : ResourceId) (readable writable : Bool) : List PollEvent :=
  (if readable then [.networkRead id] else []) ++ if writable then [.networkWrite id] else []

/-! ## What a token is -/

/-- Without the reserved byte, a word is what is left of it below. -/
theorem toNat_and_not_reservedBytesMask (x : BitVec 64) :
    (x &&& ~~~reservedBytesMask).toNat = x.toNat % 2 ^ 56 := by
  have hmask : (~~~reservedBytesMask).toNat = 2 ^ 56 - 1 := by decide
  rw [BitVec.toNat_and, hmask, Nat.and_two_pow_sub_one_eq_mod]

/-- The conversions drop the reserved byte and nothing else. -/
theorem ResourceId.resourceId_token (id : ResourceId) :
    id.token.resourceId = ⟨id.id &&& ~~~reservedBytesMask⟩ := by
  have htag : 0x55#64 <<< reservedBytesPos &&& ~~~reservedBytesMask = 0 := by decide
  rw [Token.resourceId, token]
  congr 1
  show
    (id.id &&& ~~~reservedBytesMask ||| 0x55#64 <<< reservedBytesPos) &&& ~~~reservedBytesMask = _
  rw [BitVec.and_or_distrib_right, htag, BitVec.and_assoc, BitVec.and_self]
  exact BitVec.or_zero

/-- **The conversion to a token is undone by the conversion back**, if the reserved byte of the
id is free. -/
theorem ResourceId.resourceId_token_of_lt {id : ResourceId} (h : id.raw < 2 ^ 56) :
    id.token.resourceId = id := by
  rw [resourceId_token]
  congr 1
  apply BitVec.eq_of_toNat_eq
  rw [toNat_and_not_reservedBytesMask]
  exact Nat.mod_eq_of_lt h

/-- **No resource looks like the waker.** -/
theorem ResourceId.token_ne_waker (id : ResourceId) : id.token ≠ .waker := by
  intro h
  have hbit := congrArg (fun token : Token ↦ token.word.getLsbD 56) h
  simp [token, Token.waker, reservedBytesMask, reservedBytesPos] at hbit

/-- Ids with a free reserved byte have tokens of their own. -/
theorem ResourceId.token_inj {id id' : ResourceId} (h : id.raw < 2 ^ 56) (h' : id'.raw < 2 ^ 56)
    (htoken : id.token = id'.token) : id = id' := by
  rw [← resourceId_token_of_lt h, htoken, resourceId_token_of_lt h']

/-- A new id leaves the reserved byte free. -/
theorem ResourceId.raw_lt_of_new {a : BitVec 8} {t : ResourceType} {b : BitVec 64} {id : ResourceId}
    (h : new a t b = some id) : id.raw < 2 ^ 56 := by
  obtain ⟨ha, hb, -⟩ := new_eq_some h
  have ht := typeNat_lt t
  rw [raw_new h]
  omega

/-! ## Threads that generate ids -/

/-- A call of `generate`: what it was asked for, and the generator as it was when the call took
its value from the counter. -/
structure Generation where
  resourceType : ResourceType
  adapterId : BitVec 8
  generator : ResourceIdGenerator
deriving DecidableEq, Repr

/-- The value that the call took. -/
def Generation.value (g : Generation) : Nat := g.generator.last

/-- What the call returns, unless an assertion fails. -/
def Generation.result (g : Generation) : Option ResourceId :=
  (g.generator.generate g.adapterId).1

/-- The two generators of a node, and the threads that call them. -/
structure Generators (T : Type) where
  generator : ResourceType → ResourceIdGenerator
  /-- The call that a thread is in. -/
  calls : T → Option Generation
  /-- The calls that have returned, with their ids, newest first. -/
  produced : List (Generation × ResourceId)
  /-- An assertion has failed. -/
  failed : Bool

namespace Generators

variable {T : Type}

def new (T : Type) : Generators T := ⟨.new, fun _ ↦ none, [], false⟩

inductive Step (T : Type) where
  /-- `generate` is called, up to its `fetch_add`. -/
  | fetch (thread : T) (resourceType : ResourceType) (adapterId : BitVec 8)
  /-- The rest of `generate`. -/
  | finish (thread : T)

/-- A call of the generator of this type. -/
def Step.asks (resourceType : ResourceType) : Step T → Bool
  | fetch _ resourceType' _ => resourceType' = resourceType
  | finish _ => false

/-- A call that has taken its value returns. -/
def finished (s : Generators T) (g : Generation) : Generators T :=
  match g.result with
  | some id => { s with produced := (g, id) :: s.produced }
  | none => { s with failed := true }

def step [DecidableEq T] (s : Generators T) : Step T → Option (Generators T)
  | .fetch thread resourceType adapterId =>
      let g : Generation := ⟨resourceType, adapterId, s.generator resourceType⟩
      if s.calls thread = none then
        some { s with
          generator := Function.update s.generator resourceType (g.generator.generate adapterId).2
          calls := Function.update s.calls thread (some g) }
      else none
  | .finish thread =>
      (s.calls thread).map fun g ↦
        { s with calls := Function.update s.calls thread none }.finished g

/-- A call whose value has been taken. -/
structure Taken (s : Generators T) (g : Generation) : Prop where
  resourceType : g.generator.resourceType = g.resourceType
  adapterId : g.adapterId ≤ ResourceId.maxAdapterId
  value : g.value < (s.generator g.resourceType).last

/-- **The invariant**: no two calls have the same value of the same counter. -/
structure Unique (s : Generators T) : Prop where
  types : ∀ resourceType, (s.generator resourceType).resourceType = resourceType
  flying : ∀ thread g, s.calls thread = some g → s.Taken g
  taken : ∀ p ∈ s.produced, s.Taken p.1 ∧ p.1.result = some p.2
  apart : ∀ thread thread' g g', s.calls thread = some g → s.calls thread' = some g' →
    g.resourceType = g'.resourceType → g.value = g'.value → thread = thread'
  fresh : ∀ thread g, s.calls thread = some g → ∀ p ∈ s.produced,
    g.resourceType = p.1.resourceType → g.value ≠ p.1.value
  nodup : (s.produced.map fun p ↦ (p.1.resourceType, p.1.value)).Nodup

theorem unique_new : (new T).Unique where
  types _ := rfl
  flying _ _ h := nomatch h
  taken _ h := absurd h List.not_mem_nil
  apart _ _ _ _ h := nomatch h
  fresh _ _ h := nomatch h
  nodup := List.nodup_nil

/-- With few values taken, a call returns. -/
theorem Taken.result_ne_none {s : Generators T} {g : Generation} (h : s.Taken g)
    (hfew : (s.generator g.resourceType).last ≤ 2 ^ 48) : g.result ≠ none := by
  have hvalue : g.generator.last < 2 ^ 48 := h.value.trans_le hfew
  have hmod : g.generator.last % 2 ^ 64 = g.generator.last := Nat.mod_eq_of_lt (by omega)
  rw [Generation.result, ResourceIdGenerator.generate, if_pos (by omega), ResourceId.new,
    if_pos h.adapterId, BitVec.toNat_ofNat, hmod,
    if_pos (by rw [ResourceId.maxBaseValue_eq]; omega)]
  exact Option.some_ne_none _

variable {s s' : Generators T}

/-- Counters only grow. -/
theorem Taken.mono {g : Generation} (h : s.Taken g)
    (hle : (s.generator g.resourceType).last ≤ (s'.generator g.resourceType).last) : s'.Taken g :=
  ⟨h.resourceType, h.adapterId, h.value.trans_le hle⟩

variable [DecidableEq T]

/-- **A value is taken**: it is above all values taken before. -/
theorem Unique.fetch {thread : T} {resourceType : ResourceType} {adapterId : BitVec 8}
    (h : s.Unique) (hadapter : adapterId ≤ ResourceId.maxAdapterId)
    (hs : s.step (.fetch thread resourceType adapterId) = some s') : s'.Unique := by
  rw [step] at hs
  split at hs
  · cases hs
    have hgrows : ∀ type, (s.generator type).last ≤
        (Function.update s.generator resourceType
          ((s.generator resourceType).generate adapterId).2 type).last := by
      intro type
      by_cases htype : type = resourceType
      · subst htype
        rw [Function.update_self]
        exact Nat.le_succ _
      · rw [Function.update_of_ne htype]
    have hcalls : ∀ {thread' g'}, Function.update s.calls thread
        (some ⟨resourceType, adapterId, s.generator resourceType⟩) thread' = some g' →
        thread' = thread ∧ g' = ⟨resourceType, adapterId, s.generator resourceType⟩ ∨
          s.calls thread' = some g' := by
      intro thread' g' hg'
      by_cases hthread : thread' = thread
      · subst hthread
        rw [Function.update_self] at hg'
        exact .inl ⟨rfl, (Option.some.inj hg').symm⟩
      · rw [Function.update_of_ne hthread] at hg'
        exact .inr hg'
    constructor
    · intro type
      by_cases htype : type = resourceType
      · subst htype
        show (Function.update s.generator type _ type).resourceType = type
        rw [Function.update_self]
        exact h.types type
      · show (Function.update s.generator resourceType _ type).resourceType = type
        rw [Function.update_of_ne htype]
        exact h.types type
    · intro thread' g' hg'
      rcases hcalls hg' with ⟨rfl, rfl⟩ | hold
      · refine ⟨h.types resourceType, hadapter, ?_⟩
        show (s.generator resourceType).last < (Function.update s.generator resourceType _ _).last
        rw [Function.update_self]
        exact Nat.lt_succ_self _
      · exact (h.flying thread' g' hold).mono (hgrows _)
    · intro p hp
      exact ⟨(h.taken p hp).1.mono (hgrows _), (h.taken p hp).2⟩
    · intro thread₁ thread₂ g₁ g₂ hg₁ hg₂ htype hvalue
      rcases hcalls hg₁ with ⟨rfl, rfl⟩ | hold₁ <;> rcases hcalls hg₂ with ⟨rfl, rfl⟩ | hold₂
      · rfl
      · have hlt := (h.flying thread₂ g₂ hold₂).value
        rw [← htype, ← hvalue] at hlt
        exact absurd hlt (Nat.lt_irrefl _)
      · have hlt := (h.flying thread₁ g₁ hold₁).value
        rw [htype, hvalue] at hlt
        exact absurd hlt (Nat.lt_irrefl _)
      · exact h.apart thread₁ thread₂ g₁ g₂ hold₁ hold₂ htype hvalue
    · intro thread' g' hg' p hp htype hvalue
      rcases hcalls hg' with ⟨rfl, rfl⟩ | hold
      · have hlt := (h.taken p hp).1.value
        rw [← htype, ← hvalue] at hlt
        exact absurd hlt (Nat.lt_irrefl _)
      · exact h.fresh thread' g' hold p hp htype hvalue
    · exact h.nodup
  · cases hs

/-- **A call returns**, if its values are in range. -/
theorem Unique.finish {thread : T} (h : s.Unique)
    (hfew : ∀ type, (s.generator type).last ≤ 2 ^ 48)
    (hs : s.step (.finish thread) = some s') :
    s'.Unique ∧ s'.generator = s.generator ∧ s'.failed = s.failed := by
  rw [step] at hs
  obtain ⟨g, hg, rfl⟩ := Option.map_eq_some_iff.1 hs
  obtain ⟨id, hid⟩ := Option.ne_none_iff_exists'.1
    ((h.flying thread g hg).result_ne_none (hfew g.resourceType))
  have hcalls : ∀ {thread' g'}, Function.update s.calls thread none thread' = some g' →
      thread' ≠ thread ∧ s.calls thread' = some g' := by
    intro thread' g' hg'
    by_cases hthread : thread' = thread
    · subst hthread
      rw [Function.update_self] at hg'
      cases hg'
    · rw [Function.update_of_ne hthread] at hg'
      exact ⟨hthread, hg'⟩
  rw [finished, hid]
  refine ⟨⟨h.types, ?_, ?_, ?_, ?_, ?_⟩, rfl, rfl⟩
  · intro thread' g' hg'
    exact (h.flying thread' g' (hcalls hg').2).mono le_rfl
  · intro p hp
    rcases List.mem_cons.1 hp with rfl | hp
    · exact ⟨(h.flying thread g hg).mono le_rfl, hid⟩
    · exact ⟨(h.taken p hp).1.mono le_rfl, (h.taken p hp).2⟩
  · intro thread₁ thread₂ g₁ g₂ hg₁ hg₂
    exact h.apart thread₁ thread₂ g₁ g₂ (hcalls hg₁).2 (hcalls hg₂).2
  · intro thread' g' hg' p hp htype hvalue
    obtain ⟨hne, hold⟩ := hcalls hg'
    rcases List.mem_cons.1 hp with rfl | hp
    · exact hne (h.apart thread' thread g' g hold hg htype hvalue)
    · exact h.fresh thread' g' hold p hp htype hvalue
  · refine List.nodup_cons.2 ⟨fun hmem ↦ ?_, h.nodup⟩
    obtain ⟨p, hp, heq⟩ := List.mem_map.1 hmem
    obtain ⟨htype, hvalue⟩ := Prod.mk.inj heq
    exact h.fresh thread g hg p hp htype.symm hvalue.symm

/-! ## Identity -/

/-- What the calls made so far ask for: adapters within their bounds, and less than all base
values of each generator. -/
structure WithinBounds (steps : List (Step T)) : Prop where
  adapters : ∀ thread type a, .fetch thread type a ∈ steps → a ≤ ResourceId.maxAdapterId
  calls : ∀ type, steps.countP (Step.asks type) < 2 ^ 48

omit [DecidableEq T] in
theorem WithinBounds.of_append {steps more : List (Step T)} (h : WithinBounds (steps ++ more)) :
    WithinBounds steps where
  adapters thread type a ha := h.adapters thread type a (List.mem_append_left _ ha)
  calls type := by
    have hcalls := h.calls type
    rw [List.countP_append] at hcalls
    omega

/-- Along a run the invariant holds, and the counters count the calls. -/
theorem unique_of_run {steps : List (Step T)} (hbounds : WithinBounds steps)
    (hrun : Transition.run step (new T) steps = some s) :
    s.Unique ∧ s.failed = false ∧
      ∀ type, (s.generator type).last = steps.countP (Step.asks type) + 1 := by
  revert hbounds
  refine Transition.run_induction (P := fun steps s ↦ WithinBounds steps → Unique s ∧
    s.failed = false ∧ ∀ type, (s.generator type).last = steps.countP (Step.asks type) + 1)
    ?_ ?_ hrun
  · exact fun _ ↦ ⟨unique_new, rfl, fun _ ↦ rfl⟩
  · intro steps s b s' ih hs hbounds
    obtain ⟨h, hfailed, hlast⟩ := ih hbounds.of_append
    cases b with
    | fetch thread resourceType adapterId =>
        have hadapter : adapterId ≤ ResourceId.maxAdapterId :=
          hbounds.adapters thread resourceType adapterId
            (List.mem_append_right _ (List.mem_singleton_self _))
        refine ⟨h.fetch hadapter hs, ?_⟩
        rw [step] at hs
        split at hs
        · cases hs
          refine ⟨hfailed, fun type ↦ ?_⟩
          rw [List.countP_append, List.countP_singleton]
          by_cases htype : resourceType = type
          · subst htype
            show (Function.update s.generator resourceType _ resourceType).last = _
            rw [Function.update_self, ResourceIdGenerator.generate_last, hlast, Step.asks,
              decide_eq_true rfl, if_pos rfl]
          · show (Function.update s.generator resourceType _ type).last = _
            rw [Function.update_of_ne (Ne.symm htype), hlast, Step.asks, decide_eq_false htype,
              if_neg Bool.false_ne_true]
        · cases hs
    | finish thread =>
        have hfew : ∀ type, (s.generator type).last ≤ 2 ^ 48 := by
          intro type
          rw [hlast]
          exact hbounds.of_append.calls type
        obtain ⟨h', hgenerator, hfailed'⟩ := h.finish hfew hs
        refine ⟨h', hfailed'.trans hfailed, fun type ↦ ?_⟩
        rw [hgenerator, hlast, List.countP_append]
        rfl

/-- **Identity of resources.**  However the calls of any threads come between each other: no
call fails, no id is handed out twice, an id says of which type it is, for which adapter and
with which value, and its token is its own, leads back to it, and is not that of the waker. -/
theorem identity {steps : List (Step T)} (hbounds : WithinBounds steps)
    (hrun : Transition.run step (new T) steps = some s) :
    s.failed = false ∧ (s.produced.map Prod.snd).Nodup ∧
      ∀ p ∈ s.produced, (p.2.resourceType = p.1.resourceType ∧ p.2.adapterId = p.1.adapterId ∧
        p.2.baseValue.toNat = p.1.value) ∧
          (∀ p' ∈ s.produced, p'.2.token = p.2.token → p'.2 = p.2) ∧
            p.2.token.resourceId = p.2 ∧ p.2.token ≠ .waker := by
  obtain ⟨h, hfailed, -⟩ := unique_of_run hbounds hrun
  have hdecodes : ∀ p ∈ s.produced, p.2.resourceType = p.1.resourceType ∧
      p.2.adapterId = p.1.adapterId ∧ p.2.baseValue.toNat = p.1.value := by
    intro p hp
    obtain ⟨htaken, hresult⟩ := h.taken p hp
    obtain ⟨htype, hadapter, hvalue⟩ := ResourceIdGenerator.generate_some hresult
    exact ⟨htype.trans htaken.resourceType, hadapter, hvalue⟩
  have hraw : ∀ p ∈ s.produced, p.2.raw < 2 ^ 56 := by
    intro p hp
    have hresult := (h.taken p hp).2
    rw [Generation.result, ResourceIdGenerator.generate] at hresult
    split at hresult
    · exact ResourceId.raw_lt_of_new hresult
    · cases hresult
  refine ⟨hfailed, ?_, fun p hp ↦ ⟨hdecodes p hp, fun p' hp' ↦ ?_, ?_, ?_⟩⟩
  · -- the id determines the type and the value
    refine List.Nodup.of_map (fun id : ResourceId ↦ (id.resourceType, id.baseValue.toNat)) ?_
    rw [List.map_map]
    refine List.map_congr_left (fun p hp ↦ ?_) ▸ h.nodup
    obtain ⟨htype, -, hvalue⟩ := hdecodes p hp
    exact (Prod.ext htype hvalue).symm
  · exact ResourceId.token_inj (hraw p' hp') (hraw p hp)
  · exact ResourceId.resourceId_token_of_lt (hraw p hp)
  · exact ResourceId.token_ne_waker p.2

/-- Two calls for different adapters that overtake each other, and a listener. -/
def overtaking : List (Step Bool) :=
  [.fetch true .remote 0, .fetch false .remote 3, .finish false, .finish true,
    .fetch true .local 0, .finish true]

theorem identity_overtaking : ∃ s, Transition.run step (new Bool) overtaking = some s ∧
    s.produced.map Prod.snd = [⟨0x0080000000000001⟩, ⟨1⟩, ⟨0x0003000000000002⟩] ∧
      (s.produced.map Prod.snd).Nodup := by
  have hbounds : WithinBounds overtaking := by
    constructor
    · intro thread type a ha
      simp [overtaking] at ha
      rcases ha with ⟨-, -, rfl⟩ | ⟨-, -, rfl⟩ | ⟨-, -, rfl⟩ <;> decide
    · intro type
      cases type <;> decide
  exact ⟨_, rfl, rfl, (identity hbounds rfl).2.1⟩

end Generators

end MessageIo
