import MessageIo.Handshake.Opening

/-!
# The crates below an opening handshake

What the handshake relies on is stated in two parts: `HeaderLaws`, of the names, the values and the
maps of headers, and `Lawful`, of the parsers and the texts as well.  A map is known by the values
it has for each name; the order in which it hands out its headers is arbitrary.

`plainCrates` obeys the laws: it keeps a map as a list, reads the heads of `Lib.Head`, and knows two
status codes and one digest, that of the key in the tests of the source.
-/

namespace MessageIo

namespace Ws

namespace Opening

/-! ## Headers -/

/-- The bytes of a token that is in lower case. -/
def isNameByte (b : UInt8) : Bool :=
  97 ≤ b && b ≤ 122 || 48 ≤ b && b ≤ 57 || (Utf8.encode "!#$%&'*+-.^_|~").contains b || b = 96

/-- The bytes of a value: what is no control character, and the tab. -/
def isValueByte (b : UInt8) : Bool := 32 ≤ b && b ≠ 127 || b = 9

/-- The limit for the length of a name. -/
def maxNameLength : Nat := 65535

/-- A name, in whatever case. -/
structure Token (text : Bytes) : Prop where
  nonempty : text ≠ []
  bytes : ∀ b ∈ text, isNameByte (lowerByte b) = true
  length : text.length ≤ maxNameLength

instance (text : Bytes) : Decidable (Token text) :=
  decidable_of_iff (text ≠ [] ∧ text.all (fun b ↦ isNameByte (lowerByte b)) = true ∧
      text.length ≤ maxNameLength) <| by
    rw [List.all_eq_true]
    exact ⟨fun h ↦ ⟨h.1, h.2.1, h.2.2⟩, fun h ↦ ⟨h.nonempty, h.bytes, h.length⟩⟩

/-- A map has a place for so many headers. -/
def maxEntries : Nat := 24576

/-- **What is relied on of headers.**  A name is made of a token, and is in lower case.  A value is
made of what a value can have, and of visible characters; whether it is a text depends on its bytes,
and then it is a text of these.  A map that is not full appends values to those of their name.  It
removes all values of a name, finds the first one, and hands out each value once, in an arbitrary
order. -/
structure Crates.HeaderLaws (crates : Crates) : Prop where
  asStr : ∀ n, Token (crates.asStr n) ∧ lower (crates.asStr n) = crates.asStr n
  nameFromBytes : ∀ text, Token text →
    ∃ n, crates.nameFromBytes text = some n ∧ crates.asStr n = lower text
  asBytes : ∀ v, ∀ b ∈ crates.asBytes v, isValueByte b = true
  valueFromBytes : ∀ v, ∃ v', crates.valueFromBytes (crates.asBytes v) = some v' ∧
    crates.asBytes v' = crates.asBytes v
  valueFromStr : ∀ text, (∀ b ∈ text, 32 ≤ b ∧ b < 127) →
    ∃ v, crates.valueFromStr text = some v ∧ crates.asBytes v = text
  toStr : ∀ v text, crates.toStr v = some text → text = crates.asBytes v
  sameText : ∀ v v', crates.asBytes v = crates.asBytes v' → crates.toStr v = crates.toStr v'
  visible : ∀ v, (∀ b ∈ crates.asBytes v, 32 ≤ b ∧ b < 127) →
    crates.toStr v = some (crates.asBytes v)
  newMap : ∀ header, crates.getAll crates.newMap header = []
  append : ∀ m n v header, (crates.iter m).length < maxEntries →
    crates.getAll (crates.append m n v) header =
      crates.getAll m header ++ if lower header = crates.asStr n then [v] else []
  get : ∀ m header, crates.get m header = (crates.getAll m header).head?
  removed : ∀ m header, (crates.remove m header).1 = crates.get m header
  remove : ∀ m header header', crates.getAll (crates.remove m header).2 header' =
    if lower header' = lower header then [] else crates.getAll m header'
  iter : ∀ m header, (((crates.iter m).filter fun h ↦ crates.asStr h.1 = lower header).map
    (·.2)).Perm (crates.getAll m header)

/-- All values of a name. -/
def values {crates : Crates} (headers : crates.HeaderMap) (header : Bytes) : List Bytes :=
  (crates.getAll headers header).map crates.asBytes

/-! ## Heads -/

/-- The bytes of a path and of a query. -/
def isTargetByte (b : UInt8) : Bool :=
  97 ≤ b && b ≤ 122 || 65 ≤ b && b ≤ 90 || 48 ≤ b && b ≤ 57 ||
    (Utf8.encode "-._~:/?[]@!$&'()*+,;=%").contains b

/-- The limit for the length of a `Uri`. -/
def maxUriLength : Nat := 65534

/-- A path, perhaps with a query, as it may stand in a first line. -/
structure Target (path : Bytes) : Prop where
  slash : path.head? = some 47
  bytes : ∀ b ∈ path, isTargetByte b = true
  length : path.length ≤ maxUriLength

instance (path : Bytes) : Decidable (Target path) :=
  decidable_of_iff (path.head? = some 47 ∧ path.all isTargetByte = true ∧
      path.length ≤ maxUriLength) <| by
    rw [List.all_eq_true]
    exact ⟨fun h ↦ ⟨h.1, h.2.1, h.2.2⟩, fun h ↦ ⟨h.slash, h.bytes, h.length⟩⟩

/-- No blank is at either end. -/
structure Trimmed (value : Bytes) : Prop where
  front : ∀ b, value.head? = some b → Head.isBlank b = false
  back : ∀ b, value.getLast? = some b → Head.isBlank b = false

instance (value : Bytes) : Decidable (Trimmed value) :=
  decidable_of_iff ((value.head?.all fun b ↦ !Head.isBlank b) = true ∧
      (value.getLast?.all fun b ↦ !Head.isBlank b) = true) <| by
    simp only [Option.all_eq_true, Bool.not_eq_true']
    exact ⟨fun h ↦ ⟨h.1, h.2⟩, fun h ↦ ⟨h.front, h.back⟩⟩

/-- A field as it may stand in a head. -/
structure RawField (f : Head.Field) : Prop where
  name : Token f.1
  value : ∀ b ∈ f.2, isValueByte b = true
  trimmed : Trimmed f.2

/-- The three digits of a status. -/
def StatusCode.digits (status : StatusCode) : Bytes :=
  [status.code / 100, status.code / 10 % 10, status.code % 10].map fun d ↦ UInt8.ofNat (48 + d)

/-- **What is relied on.**  `httparse` finds the parts of a head that is complete, whatever stands
behind it, and of whatever it finds a head in, less than the head is not enough; a path is a `Uri`;
a status is displayed by its digits and a reason; and BASE64 is visible. -/
structure Crates.Lawful (crates : Crates) : Prop extends crates.HeaderLaws where
  debug : crates.debug .http11 = Utf8.encode "HTTP/1.1"
  display : ∀ status, ∃ reason, crates.display status = status.digits ++ 32 :: reason ∧
    ∀ b ∈ reason, 32 ≤ b ∧ b < 127
  fromU16 : ∀ status : StatusCode, crates.fromU16 status.code = some status
  uri : ∀ path, Target path → (crates.parseUri path).isSome = true
  request : ∀ limit path fields tail, Target path → (∀ f ∈ fields, RawField f) →
    fields.length ≤ limit →
    crates.parseRequest limit
        (Head.write (Utf8.encode "GET " ++ path ++ Utf8.encode " HTTP/1.1") fields ++ tail) =
      .ok (some ((Head.write (Utf8.encode "GET " ++ path ++ Utf8.encode " HTTP/1.1") fields).length,
        ⟨Utf8.encode "GET", path, 1, fields⟩))
  requestPart : ∀ limit data size raw, crates.parseRequest limit data = .ok (some (size, raw)) →
    ∀ n < size, crates.parseRequest limit (data.take n) = .ok none
  response : ∀ limit status reason fields tail, (∀ b ∈ reason, 32 ≤ b ∧ b < 127) →
    (∀ f ∈ fields, RawField f) → fields.length ≤ limit →
    crates.parseResponse limit (Head.write
        (Utf8.encode "HTTP/1.1 " ++ StatusCode.digits status ++ 32 :: reason) fields ++ tail) =
      .ok (some ((Head.write
          (Utf8.encode "HTTP/1.1 " ++ StatusCode.digits status ++ 32 :: reason) fields).length,
        ⟨1, status.code, fields⟩))
  responsePart : ∀ limit data size raw, crates.parseResponse limit data = .ok (some (size, raw)) →
    ∀ n < size, crates.parseResponse limit (data.take n) = .ok none
  base64 : ∀ data, ∀ b ∈ crates.base64 data, 33 ≤ b ∧ b < 127

/-! ## Crates that are lawful -/

/-- A name that is in lower case. -/
structure PlainName where
  bytes : Bytes
  token : Token bytes
  lower : lower bytes = bytes

/-- Bytes that a value can have. -/
structure PlainValue where
  bytes : Bytes
  valid : bytes.all isValueByte = true

/-- A map of headers, oldest first. -/
abbrev PlainMap := List (PlainName × PlainValue)

namespace PlainMap

/-- The first value of a name. -/
def get (m : PlainMap) (header : Bytes) : Option PlainValue :=
  (m.find? fun h ↦ h.1.bytes = lower header).map (·.2)

/-- All values of a name. -/
def getAll (m : PlainMap) (header : Bytes) : List PlainValue :=
  (m.filter fun h ↦ h.1.bytes = lower header).map (·.2)

/-- The first value of a name, which loses all of them. -/
def remove (m : PlainMap) (header : Bytes) : Option PlainValue × PlainMap :=
  (get m header, m.filter fun h ↦ h.1.bytes ≠ lower header)

theorem get_eq_head? (m : PlainMap) (header : Bytes) : get m header = (getAll m header).head? := by
  rw [get, getAll, List.head?_map, List.head?_filter]

theorem getAll_append (m : PlainMap) (n : PlainName) (v : PlainValue) (header : Bytes) :
    getAll (m ++ [(n, v)]) header =
      getAll m header ++ if lower header = n.bytes then [v] else [] := by
  rw [getAll, List.filter_append, List.map_append, getAll]
  congr 1
  by_cases h : lower header = n.bytes
  · simp [h]
  · simp [h, Ne.symm h]

theorem getAll_remove (m : PlainMap) (header header' : Bytes) :
    getAll (remove m header).2 header' =
      if lower header' = lower header then [] else getAll m header' := by
  rw [getAll, remove, List.filter_filter]
  by_cases h : lower header' = lower header
  · rw [if_pos h, List.map_eq_nil_iff, List.filter_eq_nil_iff]
    intro x _ hx
    simp only [Bool.and_eq_true, decide_eq_true_eq] at hx
    exact hx.2 (hx.1.trans h)
  · rw [if_neg h, getAll]
    refine congrArg _ (List.filter_congr fun x _ ↦ ?_)
    by_cases hx : x.1.bytes = lower header'
    · simp [hx, h]
    · simp [hx]

end PlainMap

theorem lowerByte_lowerByte (b : UInt8) : lowerByte (lowerByte b) = lowerByte b := by
  have h : ∀ b : Fin 256, lowerByte (lowerByte (UInt8.ofFin b)) = lowerByte (UInt8.ofFin b) := by
    decide +kernel
  have hb := h b.toFin
  rwa [UInt8.ofFin_toFin] at hb

theorem lower_lower (text : Bytes) : lower (lower text) = lower text := by
  rw [lower, lower, List.map_map]
  exact List.map_congr_left fun b _ ↦ lowerByte_lowerByte b

/-- A token is one in lower case, too. -/
theorem Token.lower {text : Bytes} (h : Token text) : Token (lower text) where
  nonempty hnil := h.nonempty (List.map_eq_nil_iff.1 hnil)
  bytes b hb := by
    obtain ⟨c, hc, rfl⟩ := List.mem_map.1 hb
    rw [lowerByte_lowerByte]
    exact h.bytes c hc
  length := (List.length_map _).trans_le h.length

/-- `httparse`, on the lines of a head. -/
def readHead {α : Type} (line : Bytes → Option α) (limit : Nat) (data : Bytes) :
    Except HttparseError (Option (Nat × α × List Head.Field)) :=
  match Head.read limit data with
  | .error .tooManyFields => .error .tooManyHeaders
  | .error .malformed => .error .other
  | .ok none => .ok none
  | .ok (some (size, start, fields)) =>
      match line start with
      | none => .error .other
      | some a => .ok (some (size, a, fields))

/-- What is up to the first blank, and what is behind it. -/
def splitBlank (line : Bytes) : Bytes × Bytes :=
  (line.takeWhile (· ≠ 32), (line.dropWhile (· ≠ 32)).drop 1)

/-- The digit behind `HTTP/1.` -/
def readVersion (version : Bytes) : Option Nat :=
  if version = Utf8.encode "HTTP/1.1" then some 1
  else if version = Utf8.encode "HTTP/1.0" then some 0
  else none

/-- The method, the path and the version of a first line. -/
def readRequestLine (line : Bytes) : Option (Bytes × Bytes × Nat) :=
  let (method, rest) := splitBlank line
  let (path, version) := splitBlank rest
  (readVersion version).map fun version ↦ (method, path, version)

/-- The number that a digit stands for. -/
def digitOf (b : UInt8) : Nat := b.toNat - 48

/-- The version and the code of a first line. -/
def readStatusLine (line : Bytes) : Option (Nat × Nat) :=
  let (version, rest) := splitBlank line
  match rest with
  | a :: b :: c :: _ =>
      (readVersion version).map fun version ↦
        (version, 100 * digitOf a + 10 * digitOf b + digitOf c)
  | _ => none

/-- A digit of BASE64. -/
def base64Digit (n : Nat) : UInt8 :=
  if n < 26 then UInt8.ofNat (65 + n)
  else if n < 52 then UInt8.ofNat (71 + n)
  else if n < 62 then UInt8.ofNat (n - 4)
  else if n = 62 then 43
  else 47

/-- BASE64, three bytes at a time. -/
def base64 : Bytes → Bytes
  | [] => []
  | [a] => [base64Digit (a.toNat / 4), base64Digit (a.toNat % 4 * 16), 61, 61]
  | [a, b] => [base64Digit (a.toNat / 4), base64Digit (a.toNat % 4 * 16 + b.toNat / 16),
      base64Digit (b.toNat % 16 * 4), 61]
  | a :: b :: c :: rest =>
      base64Digit (a.toNat / 4) :: base64Digit (a.toNat % 4 * 16 + b.toNat / 16) ::
        base64Digit (b.toNat % 16 * 4 + c.toNat / 64) :: base64Digit (c.toNat % 64) :: base64 rest

/-- The key in the tests of the source. -/
def sampleKey : Bytes := Utf8.encode "dGhlIHNhbXBsZSBub25jZQ=="

/-- SHA-1 of what is made of the key in the tests. -/
def sampleDigest (data : Bytes) : Bytes :=
  if data = sampleKey ++ Utf8.encode "258EAFA5-E914-47DA-95CA-C5AB0DC85B11" then
    [0xb3, 0x7a, 0x4f, 0x2c, 0xc0, 0x62, 0x4f, 0x16, 0x90, 0xf6, 0x46, 0x06, 0xcf, 0x38, 0x59, 0x45,
      0xb2, 0xbe, 0xc4, 0xea]
  else []

/-- The reason for a status. -/
def plainReason (status : StatusCode) : Bytes :=
  if status.code = 101 then Utf8.encode "Switching Protocols"
  else if status.code = 404 then Utf8.encode "Not Found"
  else Utf8.encode "<unknown status code>"

/-- Crates that keep headers in a list and read plain heads. -/
def plainCrates : Crates where
  HeaderName := PlainName
  HeaderValue := PlainValue
  HeaderMap := PlainMap
  nameFromBytes text :=
    if h : Token text then some ⟨lower text, h.lower, lower_lower text⟩ else none
  asStr n := n.bytes
  valueFromBytes b := if h : b.all isValueByte = true then some ⟨b, h⟩ else none
  valueFromStr b := if h : b.all isValueByte = true then some ⟨b, h⟩ else none
  asBytes v := v.bytes
  toStr v := if v.bytes.all fun b ↦ 32 ≤ b && b < 127 || b = 9 then some v.bytes else none
  newMap := []
  get := PlainMap.get
  getAll := PlainMap.getAll
  append headers name value := headers ++ [(name, value)]
  remove := PlainMap.remove
  iter headers := headers
  fromU16 code := if h : 100 ≤ code ∧ code < 1000 then some ⟨code, h⟩ else none
  isSuccess status := 200 ≤ status.code && status.code < 300
  display status := status.digits ++ 32 :: plainReason status
  debug
    | .http09 => Utf8.encode "HTTP/0.9"
    | .http10 => Utf8.encode "HTTP/1.0"
    | .http11 => Utf8.encode "HTTP/1.1"
    | .http2 => Utf8.encode "HTTP/2.0"
    | .http3 => Utf8.encode "HTTP/3.0"
  parseUri path :=
    some ⟨⟨⟨none⟩, none, none, .ofList (path.map fun b ↦ .ofNat b.toNat)⟩, none, some path⟩
  parseRequest limit data := do
    let r ← readHead readRequestLine limit data
    return r.map fun r ↦ (r.1, ⟨r.2.1.1, r.2.1.2.1, r.2.1.2.2, r.2.2⟩)
  parseResponse limit data := do
    let r ← readHead readStatusLine limit data
    return r.map fun r ↦ (r.1, ⟨r.2.1.1, r.2.1.2, r.2.2⟩)
  sha1 := sampleDigest
  base64 := base64

/-- The key in the tests of the source. -/
example : deriveAcceptKey plainCrates sampleKey = Utf8.encode "s3pPLMBiTxaQ9kYGzzhZRbK+xOo=" := by
  decide

/-! ### Texts -/

theorem toNat_byte {n : Nat} (h : n < 256) : (UInt8.ofNat n).toNat = n :=
  UInt8.toNat_ofNat_of_lt' h

theorem base64Digit_visible (n : Nat) : 33 ≤ base64Digit n ∧ base64Digit n < 127 := by
  have hnat : ∀ m, 33 ≤ m → m < 127 → 33 ≤ UInt8.ofNat m ∧ UInt8.ofNat m < 127 := by
    intro m h33 h127
    rw [UInt8.le_iff_toNat_le, UInt8.lt_iff_toNat_lt, toNat_byte (by omega)]
    exact ⟨h33, h127⟩
  rw [base64Digit]
  split
  · exact hnat _ (by omega) (by omega)
  · split
    · exact hnat _ (by omega) (by omega)
    · split
      · exact hnat _ (by omega) (by omega)
      · split <;> decide

theorem base64_visible (data : Bytes) : ∀ b ∈ base64 data, 33 ≤ b ∧ b < 127 := by
  induction data using base64.induct with
  | case1 => exact fun b hb ↦ absurd hb List.not_mem_nil
  | case2 a =>
      rw [base64]
      simp only [List.forall_mem_cons]
      exact ⟨base64Digit_visible _, base64Digit_visible _, by decide, by decide,
        fun b hb ↦ absurd hb List.not_mem_nil⟩
  | case3 a b =>
      rw [base64]
      simp only [List.forall_mem_cons]
      exact ⟨base64Digit_visible _, base64Digit_visible _, base64Digit_visible _, by decide,
        fun b hb ↦ absurd hb List.not_mem_nil⟩
  | case4 a b c rest ih =>
      rw [base64]
      simp only [List.forall_mem_cons]
      exact ⟨base64Digit_visible _, base64Digit_visible _, base64Digit_visible _,
        base64Digit_visible _, ih⟩

/-- A text is visible if all its bytes are. -/
theorem visible_of_all {text : Bytes} (h : (text.all fun b ↦ decide (32 ≤ b ∧ b < 127)) = true) :
    ∀ b ∈ text, 32 ≤ b ∧ b < 127 :=
  fun b hb ↦ of_decide_eq_true (List.all_eq_true.1 h b hb)

theorem plainReason_visible (status : StatusCode) : ∀ b ∈ plainReason status, 32 ≤ b ∧ b < 127 := by
  rw [plainReason]
  split
  · exact visible_of_all (by decide)
  · split <;> exact visible_of_all (by decide)

/-! ### Maps -/

/-- **Headers in a list obey the laws.** -/
theorem headerLaws_plainCrates : plainCrates.HeaderLaws where
  asStr n := ⟨n.token, n.lower⟩
  nameFromBytes text h := ⟨_, dif_pos h, rfl⟩
  asBytes v := List.all_eq_true.1 v.valid
  valueFromBytes v := ⟨v, dif_pos v.valid, rfl⟩
  valueFromStr text h := by
    have hvalid : text.all isValueByte = true := by
      refine List.all_eq_true.2 fun b hb ↦ ?_
      obtain ⟨h32, h127⟩ := h b hb
      rw [isValueByte, decide_eq_true h32, decide_eq_true (UInt8.ne_of_lt h127)]
      rfl
    exact ⟨⟨text, hvalid⟩, dif_pos hvalid, rfl⟩
  toStr v text h := by
    change (if _ then some v.bytes else none) = some text at h
    split at h
    · exact (Option.some.inj h).symm
    · cases h
  sameText v v' h := by
    change (if _ then some v.bytes else none) = if _ then some v'.bytes else none
    rw [show v.bytes = v'.bytes from h]
  visible v h := by
    refine if_pos (List.all_eq_true.2 fun b hb ↦ ?_)
    obtain ⟨h32, h127⟩ := h b hb
    rw [decide_eq_true h32, decide_eq_true h127]
    rfl
  newMap header := rfl
  append m n v header _ := PlainMap.getAll_append m n v header
  get := PlainMap.get_eq_head?
  removed m header := rfl
  remove := PlainMap.getAll_remove
  iter m header := .refl _

/-! ### Heads -/

section Lawful

variable {α : Type} {line : Bytes → Option α} {limit : Nat} {start data path reason : Bytes} {a : α}
  {fields : List Head.Field} {f : Head.Field}

/-- A field as it may stand in a head is plain. -/
theorem RawField.plain (h : RawField f) : f.Plain where
  cr hcr := absurd (h.name.bytes 13 hcr) (by decide)
  colon hcolon := absurd (h.name.bytes 58 hcolon) (by decide)
  value := ⟨fun hcr ↦ absurd (h.value 13 hcr) (by decide), h.trimmed.front, h.trimmed.back⟩

theorem readHead_write (hstart : 13 ∉ start) (hline : line start = some a)
    (hfields : ∀ f ∈ fields, RawField f) (hlimit : fields.length ≤ limit) (tail : Bytes) :
    readHead line limit (Head.write start fields ++ tail) =
      .ok (some ((Head.write start fields).length, a, fields)) := by
  rw [readHead, Head.read_write hstart (fun f hf ↦ (hfields f hf).plain) hlimit]
  simp only [hline]

/-- Less than a head that is found is not enough. -/
theorem readHead_take {r : Nat × α × List Head.Field}
    (h : readHead line limit data = .ok (some r)) {n : Nat} (hn : n < r.1) :
    readHead line limit (data.take n) = .ok none := by
  rw [readHead] at h
  split at h
  · cases h
  · cases h
  · cases h
  · rename_i size start fields hread
    split at h
    · cases h
    · cases h
      rw [readHead, Head.read_of_part hread (List.take_prefix n data)
        ((List.length_take_le n data).trans_lt hn)]

/-- So it is whatever is made of what is found in the head. -/
theorem parse_take {β : Type} (line : Bytes → Option α)
    (make : Nat × α × List Head.Field → Nat × β) (hmake : ∀ r, (make r).1 = r.1) {r : Nat × β}
    (h : (readHead line limit data >>= fun r ↦ pure (r.map make)) = .ok (some r)) {n : Nat}
    (hn : n < r.1) :
    (readHead line limit (data.take n) >>= fun r ↦ pure (r.map make)) = .ok none := by
  cases hread : readHead line limit data with
  | error e =>
      rw [hread] at h
      cases h
  | ok found =>
      rw [hread] at h
      cases found with
      | none => cases h
      | some found =>
          cases h
          rw [hmake] at hn
          rw [readHead_take hread hn]
          rfl

theorem splitBlank_append {b : Bytes} (h : 32 ∉ b) (rest : Bytes) :
    splitBlank (b ++ 32 :: rest) = (b, rest) := by
  have hb : ∀ c ∈ b, decide (c ≠ 32) = true := by
    rintro c hc
    exact decide_eq_true fun h32 ↦ h (h32 ▸ hc)
  rw [splitBlank, List.takeWhile_append_of_pos hb, List.dropWhile_append_of_pos hb]
  exact Prod.ext (List.append_nil _) rfl

theorem Target.notMem (h : Target path) : 13 ∉ path ∧ 32 ∉ path :=
  ⟨fun hcr ↦ absurd (h.bytes 13 hcr) (by decide),
    fun hblank ↦ absurd (h.bytes 32 hblank) (by decide)⟩

theorem getLine_eq (path : Bytes) : Utf8.encode "GET " ++ path ++ Utf8.encode " HTTP/1.1" =
    Utf8.encode "GET" ++ 32 :: (path ++ 32 :: Utf8.encode "HTTP/1.1") := by
  rw [List.append_assoc]
  rfl

theorem readRequestLine_eq (h : Target path) :
    readRequestLine (Utf8.encode "GET " ++ path ++ Utf8.encode " HTTP/1.1") =
      some (Utf8.encode "GET", path, 1) := by
  rw [getLine_eq, readRequestLine, splitBlank_append (by decide)]
  simp only [splitBlank_append h.notMem.2]
  rfl

theorem notMem_getLine (h : Target path) :
    13 ∉ Utf8.encode "GET " ++ path ++ Utf8.encode " HTTP/1.1" := by
  rw [List.mem_append, List.mem_append]
  rintro ((hget | hpath) | hversion)
  · exact absurd hget (by decide)
  · exact h.notMem.1 hpath
  · exact absurd hversion (by decide)

theorem digitOf_ofNat {d : Nat} (h : d < 10) : digitOf (UInt8.ofNat (48 + d)) = d := by
  rw [digitOf, toNat_byte (by omega)]
  omega

theorem versionLine_eq (status : StatusCode) (reason : Bytes) :
    Utf8.encode "HTTP/1.1 " ++ status.digits ++ 32 :: reason =
      Utf8.encode "HTTP/1.1" ++ 32 :: (status.digits ++ 32 :: reason) := by
  rw [List.append_assoc]
  rfl

theorem readStatusLine_eq (status : StatusCode) (reason : Bytes) :
    readStatusLine (Utf8.encode "HTTP/1.1 " ++ status.digits ++ 32 :: reason) =
      some (1, status.code) := by
  obtain ⟨code, h100, h1000⟩ := status
  have hcode : 100 * digitOf (UInt8.ofNat (48 + code / 100)) +
      10 * digitOf (UInt8.ofNat (48 + code / 10 % 10)) +
        digitOf (UInt8.ofNat (48 + code % 10)) = code := by
    rw [digitOf_ofNat (by omega), digitOf_ofNat (by omega), digitOf_ofNat (by omega)]
    omega
  rw [versionLine_eq, readStatusLine, splitBlank_append (by decide), StatusCode.digits]
  exact congrArg (fun c ↦ some (1, c)) hcode

theorem notMem_versionLine (status : StatusCode) (h : ∀ b ∈ reason, 32 ≤ b ∧ b < 127) :
    13 ∉ Utf8.encode "HTTP/1.1 " ++ status.digits ++ 32 :: reason := by
  have hdigit : ∀ d < 10, (13 : UInt8) ≠ UInt8.ofNat (48 + d) := by
    intro d hd heq
    have hnat := congrArg UInt8.toNat heq
    rw [toNat_byte (by omega)] at hnat
    have h13 : (13 : UInt8).toNat = 13 := rfl
    omega
  have hdigits : 13 ∉ status.digits := by
    obtain ⟨code, h100, h1000⟩ := status
    rw [StatusCode.digits]
    simp only [List.map_cons, List.map_nil, List.mem_cons, List.not_mem_nil, or_false]
    rintro (h | h | h)
    · exact hdigit _ (by omega) h
    · exact hdigit _ (by omega) h
    · exact hdigit _ (by omega) h
  rw [List.mem_append, List.mem_append, List.mem_cons]
  rintro ((hversion | hmem) | hblank | hmem)
  · exact absurd hversion (by decide)
  · exact hdigits hmem
  · exact absurd hblank (by decide)
  · exact absurd (h 13 hmem).1 (by decide)

/-- **Plain crates are lawful.** -/
theorem lawful_plainCrates : plainCrates.Lawful where
  toHeaderLaws := headerLaws_plainCrates
  debug := rfl
  display status := ⟨plainReason status, rfl, plainReason_visible status⟩
  fromU16 status := dif_pos status.valid
  uri path hpath := rfl
  request limit path fields tail hpath hfields hlimit := by
    change readHead readRequestLine limit _ >>= _ = _
    rw [readHead_write (notMem_getLine hpath) (readRequestLine_eq hpath) hfields hlimit]
    rfl
  requestPart _ _ _ _ h _ hn := parse_take readRequestLine
    (fun r ↦ (r.1, (⟨r.2.1.1, r.2.1.2.1, r.2.1.2.2, r.2.2⟩ : RawRequest))) (fun _ ↦ rfl) h hn
  response limit status reason fields tail hreason hfields hlimit := by
    change readHead readStatusLine limit _ >>= _ = _
    rw [readHead_write (notMem_versionLine status hreason) (readStatusLine_eq status reason) hfields
      hlimit]
    rfl
  responsePart _ _ _ _ h _ hn := parse_take readStatusLine
    (fun r ↦ (r.1, (⟨r.2.1.1, r.2.1.2, r.2.2⟩ : RawResponse))) (fun _ ↦ rfl) h hn
  base64 := base64_visible

end Lawful

end Opening

end Ws

end MessageIo
