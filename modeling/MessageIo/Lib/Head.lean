import Mathlib.Data.List.Basic

/-!
# Heads made of lines

A head is a first line, then fields, each with a name and a value, then an empty line; every line
ends in CR LF.  `write` puts a head into bytes and `read` takes it from the front of some bytes.

A field is `Plain` if no CR is in it, its name has no colon in it, and its value neither begins nor
ends with a blank.  Of a head of such fields `read` gives what was written and its length, whatever
stands behind it (`read_write`).  Of whatever bytes a head is read, it waits for more as long as a
part of the head is missing (`read_of_part`).
-/

namespace Head

/-- A field: its name and its value. -/
abbrev Field := List UInt8 × List UInt8

/-! ## Writing -/

/-- The end of a line. -/
def crlf : List UInt8 := [13, 10]

/-- The line of a field. -/
def Field.line (f : Field) : List UInt8 := f.1 ++ 58 :: 32 :: f.2

/-- The lines of some fields, and the empty one. -/
def lines (fields : List Field) : List UInt8 := (fields.flatMap fun f ↦ f.line ++ crlf) ++ crlf

/-- A head as it is written. -/
def write (start : List UInt8) (fields : List Field) : List UInt8 := start ++ crlf ++ lines fields

/-! ## Reading -/

/-- The first line, and what is behind it. -/
def takeLine : List UInt8 → Option (List UInt8 × List UInt8)
  | [] => none
  | 13 :: 10 :: rest => some ([], rest)
  | b :: rest => (takeLine rest).map fun r ↦ (b :: r.1, r.2)

/-- A blank or a tab. -/
def isBlank (b : UInt8) : Bool := b = 32 || b = 9

/-- What is left without the blanks at both ends. -/
def trim (b : List UInt8) : List UInt8 :=
  (((b.dropWhile isBlank).reverse).dropWhile isBlank).reverse

/-- The field of a line: its name ends at the first colon. -/
def readField (line : List UInt8) : Option Field :=
  match line.dropWhile (· ≠ 58) with
  | [] => none
  | _ :: value => some (line.takeWhile (· ≠ 58), trim value)

/-- Why a head cannot be read. -/
inductive Fault where
  | malformed
  | tooManyFields
deriving DecidableEq, Repr

/-- The fields up to the empty line, as many as allowed, and what is behind it. -/
def readFields (limit : Nat) (data : List UInt8) :
    Except Fault (Option (List Field × List UInt8)) :=
  match takeLine data with
  | none => .ok none
  | some ([], rest) => .ok (some ([], rest))
  | some (line, rest) =>
      match readField line, limit with
      | none, _ => .error .malformed
      | some _, 0 => .error .tooManyFields
      | some f, limit + 1 => do
          let r ← readFields limit rest
          return r.map fun r ↦ (f :: r.1, r.2)

/-- The head at the front of some bytes: its length, its first line and its fields. -/
def read (limit : Nat) (data : List UInt8) :
    Except Fault (Option (Nat × List UInt8 × List Field)) :=
  match takeLine data with
  | none => .ok none
  | some (start, rest) => do
      let r ← readFields limit rest
      return r.map fun r ↦ (data.length - r.2.length, start, r.1)

/-! ## Plain heads -/

/-- A value that is read as it was written. -/
structure PlainValue (value : List UInt8) : Prop where
  cr : 13 ∉ value
  front : ∀ b, value.head? = some b → isBlank b = false
  back : ∀ b, value.getLast? = some b → isBlank b = false

/-- A field that is read as it was written. -/
structure Field.Plain (f : Field) : Prop where
  cr : 13 ∉ f.1
  colon : 58 ∉ f.1
  value : PlainValue f.2

variable {line rest data start value : List UInt8} {f : Field} {fields : List Field} {limit : Nat}

theorem takeLine_append (h : 13 ∉ line) (rest : List UInt8) :
    takeLine (line ++ crlf ++ rest) = some (line, rest) := by
  induction line with
  | nil => rfl
  | cons b line ih =>
      obtain ⟨hb, hline⟩ := not_or.1 (mt List.mem_cons.2 h)
      rw [List.cons_append, List.cons_append, takeLine.eq_def]
      split
      · rename_i heq
        cases heq
      · rename_i heq
        exact absurd (List.cons.inj heq).1.symm hb
      · rename_i heq
        obtain ⟨rfl, rfl⟩ := List.cons.inj heq
        rw [ih hline]
        rfl

/-- **The front of some bytes** has their first line, or no line at all. -/
theorem takeLine_of_part {front : List UInt8} (h : takeLine data = some (line, rest))
    (hfront : front <+: data) : takeLine front = none ∨
      ∃ more, takeLine front = some (line, more) ∧ more <+: rest ∧
        front.length + rest.length = data.length + more.length := by
  induction data generalizing front line with
  | nil => cases h
  | cons b data ih =>
      rw [takeLine.eq_def] at h
      split at h
      · rename_i heq
        cases heq
      · rename_i heq
        cases heq
        cases h
        rcases List.prefix_cons_iff.1 hfront with rfl | ⟨front, rfl, htail⟩
        · exact .inl rfl
        · rcases List.prefix_cons_iff.1 htail with rfl | ⟨more, rfl, hmore⟩
          · exact .inl rfl
          · refine .inr ⟨more, rfl, hmore, ?_⟩
            simp only [List.length_cons]
            omega
      · rename_i hcrlf heq
        cases heq
        obtain ⟨r, hr, heq⟩ := Option.map_eq_some_iff.1 h
        cases heq
        rcases List.prefix_cons_iff.1 hfront with rfl | ⟨front, rfl, htail⟩
        · exact .inl rfl
        · have hline : takeLine (b :: front) = (takeLine front).map fun r ↦ (b :: r.1, r.2) := by
            rw [takeLine.eq_def]
            split
            · rename_i heq
              cases heq
            · rename_i heq
              cases heq
              obtain ⟨more, hdata⟩ := htail
              exact (hcrlf _ rfl hdata.symm).elim
            · rename_i heq
              cases heq
              rfl
          rw [hline]
          rcases ih hr htail with hnone | ⟨more, hmore, hprefix, hlength⟩
          · exact .inl (by rw [hnone]; rfl)
          · refine .inr ⟨more, by rw [hmore]; rfl, hprefix, ?_⟩
            simp only [List.length_cons]
            omega

/-! ## Fields -/

theorem Field.Plain.notMem_line (h : f.Plain) : 13 ∉ f.line := by
  rw [Field.line, List.mem_append, List.mem_cons, List.mem_cons]
  rintro (hname | h13 | h13 | hvalue)
  · exact h.cr hname
  · exact absurd h13 (by decide)
  · exact absurd h13 (by decide)
  · exact h.value.cr hvalue

theorem Field.line_ne_nil (f : Field) : f.line ≠ [] := by
  rw [Field.line]
  exact List.append_ne_nil_of_right_ne_nil _ (List.cons_ne_nil _ _)

/-- Nothing is taken from a plain value. -/
theorem trim_blank (h : PlainValue value) : trim (32 :: value) = value := by
  have hdrop : ∀ {b : List UInt8}, (∀ c, b.head? = some c → isBlank c = false) →
      b.dropWhile isBlank = b := by
    rintro (_ | ⟨c, b⟩) hb
    · rfl
    · exact List.dropWhile_cons_of_neg (by rw [hb c rfl]; exact Bool.false_ne_true)
  rw [trim, List.dropWhile_cons_of_pos (by decide), hdrop h.front, hdrop, List.reverse_reverse]
  intro c hc
  exact h.back c (List.head?_reverse ▸ hc)

/-- A plain field is what is read from its line. -/
theorem readField_line (h : f.Plain) : readField f.line = some f := by
  have hname : ∀ b ∈ f.1, (decide (b ≠ 58)) = true := by
    rintro b hb
    exact decide_eq_true fun h58 ↦ h.colon (h58 ▸ hb)
  have hdrop : f.line.dropWhile (· ≠ 58) = 58 :: 32 :: f.2 := by
    rw [Field.line, List.dropWhile_append_of_pos hname]
    rfl
  have htake : f.line.takeWhile (· ≠ 58) = f.1 := by
    rw [Field.line, List.takeWhile_append_of_pos hname]
    exact List.append_nil _
  rw [readField, hdrop, htake]
  exact congrArg some (Prod.ext rfl (trim_blank h.value))

theorem lines_nil : lines [] = [] ++ crlf := rfl

theorem lines_cons (f : Field) (fields : List Field) :
    lines (f :: fields) = f.line ++ crlf ++ lines fields := by
  rw [lines, List.flatMap_cons, List.append_assoc]
  rfl

/-- **One line of a field** is read, if one more is allowed. -/
theorem readFields_cons (h : f.Plain) (limit : Nat) (rest : List UInt8) :
    readFields (limit + 1) (f.line ++ crlf ++ rest) =
      (readFields limit rest).map (Option.map fun r ↦ (f :: r.1, r.2)) := by
  rw [readFields, takeLine_append h.notMem_line]
  split
  · rename_i heq
    cases heq
  · rename_i heq
    exact absurd (Prod.mk.inj (Option.some.inj heq)).1 f.line_ne_nil
  · rename_i heq
    cases heq
    simp only [readField_line h]
    cases readFields limit rest with
    | error e => rfl
    | ok r => rfl

theorem readFields_lines (h : ∀ f ∈ fields, f.Plain) (hlimit : fields.length ≤ limit)
    (tail : List UInt8) : readFields limit (lines fields ++ tail) = .ok (some (fields, tail)) := by
  induction fields generalizing limit with
  | nil =>
      rw [lines_nil, readFields, takeLine_append List.not_mem_nil]
  | cons f fields ih =>
      obtain ⟨limit, rfl⟩ := Nat.exists_eq_add_of_le' (Nat.lt_of_lt_of_le (Nat.succ_pos _) hlimit)
      rw [lines_cons, List.append_assoc, readFields_cons (h f List.mem_cons_self),
        ih (fun g hg ↦ h g (List.mem_cons_of_mem _ hg)) (Nat.le_of_succ_le_succ hlimit)]
      rfl

/-- Fields that are read end with an empty line. -/
theorem readFields_cases (h : readFields limit data = .ok (some (fields, rest))) :
    takeLine data = some ([], rest) ∨
      ∃ line rest' limit' f fields', takeLine data = some (line, rest') ∧ line ≠ [] ∧
        limit = limit' + 1 ∧ readField line = some f ∧
          readFields limit' rest' = .ok (some (fields', rest)) := by
  rw [readFields.eq_def] at h
  split at h
  · cases h
  · rename_i htake
    cases h
    exact .inl htake
  · rename_i line rest' hline htake
    split at h
    · cases h
    · cases h
    · rename_i f limit' hfield
      cases hrest : readFields limit' rest' with
      | error e =>
          rw [hrest] at h
          cases h
      | ok r =>
          rw [hrest] at h
          cases r with
          | none => cases h
          | some r =>
              cases h
              exact .inr ⟨line, rest', limit', f, r.1, htake, hline, rfl,
                hfield, hrest⟩

/-- **The front of some fields** is not enough. -/
theorem readFields_of_part {front : List UInt8}
    (h : readFields limit data = .ok (some (fields, rest))) (hfront : front <+: data)
    (hlength : front.length + rest.length < data.length) : readFields limit front = .ok none := by
  induction limit generalizing data front fields with
  | zero =>
      rcases readFields_cases h with htake | ⟨_, _, limit', _, _, -, -, hlimit, -⟩
      · rcases takeLine_of_part htake hfront with hnone | ⟨more, -, -, heq⟩
        · rw [readFields, hnone]
        · omega
      · cases hlimit
  | succ limit ih =>
      rcases readFields_cases h with htake | ⟨line, rest', limit', f, fields', htake, hline, hlimit,
        hfield, hrest⟩
      · rcases takeLine_of_part htake hfront with hnone | ⟨more, -, -, heq⟩
        · rw [readFields, hnone]
        · omega
      · cases hlimit
        rcases takeLine_of_part htake hfront with hnone | ⟨more, hmore, hprefix, heq⟩
        · rw [readFields, hnone]
        · rw [readFields, hmore]
          simp only [hfield]
          rw [ih hrest hprefix (by omega)]
          rfl

/-! ## Heads -/

/-- **What was written is read**, whatever stands behind it. -/
theorem read_write (hstart : 13 ∉ start) (h : ∀ f ∈ fields, f.Plain)
    (hlimit : fields.length ≤ limit) (tail : List UInt8) :
    read limit (write start fields ++ tail) =
      .ok (some ((write start fields).length, start, fields)) := by
  have hlength : (write start fields ++ tail).length - tail.length =
      (write start fields).length := by
    rw [List.length_append, Nat.add_sub_cancel]
  rw [write] at hlength ⊢
  rw [read, List.append_assoc, takeLine_append hstart, ← List.append_assoc]
  simp only [readFields_lines h hlimit tail]
  rw [← hlength]
  rfl

/-- **A part of a head** is not enough. -/
theorem read_of_part {front : List UInt8} {size : Nat}
    (h : read limit data = .ok (some (size, start, fields))) (hfront : front <+: data)
    (hlength : front.length < size) : read limit front = .ok none := by
  rw [read] at h ⊢
  cases htake : takeLine data with
  | none =>
      rw [htake] at h
      cases h
  | some r =>
      obtain ⟨line, rest'⟩ := r
      rw [htake] at h
      rcases takeLine_of_part htake hfront with hnone | ⟨more, hmore, hprefix, heq⟩
      · rw [hnone]
      · rw [hmore]
        simp only at h ⊢
        cases hrest : readFields limit rest' with
        | error e =>
            rw [hrest] at h
            cases h
        | ok r =>
            rw [hrest] at h
            cases r with
            | none => cases h
            | some r =>
                cases h
                rw [readFields_of_part hrest hprefix (by omega)]
                rfl

end Head
