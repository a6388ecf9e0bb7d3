import MessageIo.Handshake.Crates

/-!
# What a client writes

A request that is written is a head: its first line, the five necessary headers, each once and with
the first of its values, and then all other headers of the map (`written_once`).  Further values of
a necessary header are dropped without a word: the only headers that are called invalid are
those that are missing (`Unwritable`).
-/

namespace MessageIo

namespace Ws

namespace Opening

variable {crates : Crates} {headers : crates.HeaderMap} {header header' : Bytes} {e : Fault crates}

/-! ## Maps, by their values -/

/-- The first value of a name. -/
def valueOf (headers : crates.HeaderMap) (header : Bytes) : Bytes :=
  ((crates.get headers header).map crates.asBytes).getD []

/-- The first value of a name is a text. -/
def HasText (headers : crates.HeaderMap) (header : Bytes) : Prop :=
  ∃ v, crates.get headers header = some v ∧ (crates.toStr v).isSome = true

namespace Crates.HeaderLaws

variable (h : crates.HeaderLaws)
include h

theorem toStr_eq {v : crates.HeaderValue} (hv : (crates.toStr v).isSome = true) :
    crates.toStr v = some (crates.asBytes v) := by
  obtain ⟨text, htext⟩ := Option.isSome_iff_exists.1 hv
  rw [htext, h.toStr v text htext]

theorem get_map (headers : crates.HeaderMap) (header : Bytes) :
    (crates.get headers header).map crates.asBytes = (values headers header).head? := by
  rw [h.get, values, List.head?_map]

theorem getAll_remove_of_ne (hne : lower header' ≠ lower header) (headers : crates.HeaderMap) :
    crates.getAll (crates.remove headers header).2 header' = crates.getAll headers header' := by
  rw [h.remove, if_neg hne]

theorem get_remove_of_ne (hne : lower header' ≠ lower header) (headers : crates.HeaderMap) :
    crates.get (crates.remove headers header).2 header' = crates.get headers header' := by
  rw [h.get, h.getAll_remove_of_ne hne, h.get]

/-- What a map hands out are values of their names. -/
theorem mem_getAll {x : crates.HeaderName × crates.HeaderValue} (hx : x ∈ crates.iter headers) :
    x.2 ∈ crates.getAll headers (crates.asStr x.1) :=
  (h.iter headers _).mem_iff.1 (List.mem_map.2
    ⟨x, List.mem_filter.2 ⟨hx, decide_eq_true (h.asStr x.1).2.symm⟩, rfl⟩)

/-- All values are handed out. -/
theorem exists_mem_iter {v : crates.HeaderValue} (hv : v ∈ crates.getAll headers header) :
    ∃ n, (n, v) ∈ crates.iter headers ∧ crates.asStr n = lower header := by
  obtain ⟨x, hx, rfl⟩ := List.mem_map.1 ((h.iter headers header).mem_iff.2 hv)
  obtain ⟨hx, hname⟩ := List.mem_filter.1 hx
  exact ⟨x.1, hx, of_decide_eq_true hname⟩

end Crates.HeaderLaws

/-! ## The necessary headers -/

/-- The name is one of the necessary ones. -/
def necessary (header : Bytes) : Bool := websocketHeaders.any fun h ↦ lower h = lower header

/-- What is left of a map from which some headers have been taken. -/
def leftOf : List Bytes → crates.HeaderMap → crates.HeaderMap
  | [], headers => headers
  | header :: hs, headers => leftOf hs (crates.remove headers header).2

/-- The lines of some fields. -/
def fieldLines (fields : List Head.Field) : Bytes := fields.flatMap fun f ↦ f.line ++ Head.crlf

/-- What is wrong with a header that is necessary. -/
inductive Wrong (headers : crates.HeaderMap) (header : Bytes) : Fault crates → Prop
  | missing (h : crates.get headers header = none) : Wrong headers header (invalidHeader header)
  | value {v : crates.HeaderValue} (h : crates.get headers header = some v)
      (hv : crates.toStr v = none) : Wrong headers header .utf8

/-- **Some headers are written**, each with its first value, and all of theirs are taken away; or
something is wrong with one of them. -/
theorem writeNecessary_cases (h : crates.HeaderLaws) {hs : List Bytes}
    (hnodup : (hs.map lower).Nodup) :
    ((∀ x ∈ hs, HasText headers x) ∧ writeNecessary hs headers =
        .ok (fieldLines (hs.map fun x ↦ (x, valueOf headers x)), leftOf hs headers)) ∨
      ∃ x ∈ hs, ∃ e, Wrong headers x e ∧ writeNecessary hs headers = .error e := by
  induction hs generalizing headers with
  | nil => exact .inl ⟨fun x hx ↦ absurd hx List.not_mem_nil, rfl⟩
  | cons header hs ih =>
      rw [List.map_cons, List.nodup_cons] at hnodup
      obtain ⟨hname, hnodup⟩ := hnodup
      have hget : ∀ x ∈ hs, crates.get (crates.remove headers header).2 x = crates.get headers x :=
        fun x hx ↦ h.get_remove_of_ne (fun heq ↦ hname (heq ▸ List.mem_map_of_mem hx)) headers
      cases hremoved : crates.get headers header with
      | none =>
          have hremove : crates.remove headers header = (none, (crates.remove headers header).2) :=
            Prod.ext ((h.removed headers header).trans hremoved) rfl
          refine .inr ⟨header, List.mem_cons_self, _, .missing hremoved, ?_⟩
          rw [writeNecessary, hremove]
      | some v =>
          have hremove : crates.remove headers header =
              (some v, (crates.remove headers header).2) :=
            Prod.ext ((h.removed headers header).trans hremoved) rfl
          cases hv : crates.toStr v with
          | none =>
              refine .inr ⟨header, List.mem_cons_self, _, .value hremoved hv, ?_⟩
              rw [writeNecessary, hremove]
              simp only [hv]
          | some text =>
              rcases ih hnodup with ⟨hall, hwrite⟩ | ⟨x, hx, e, hwrong, hwrite⟩
              · refine .inl ⟨List.forall_mem_cons.2 ⟨⟨v, hremoved, by rw [hv]; rfl⟩, fun x hx ↦ ?_⟩,
                  ?_⟩
                · obtain ⟨w, hw, htext⟩ := hall x hx
                  exact ⟨w, (hget x hx).symm.trans hw, htext⟩
                · have hvalue : text = valueOf headers header := by
                    rw [valueOf, hremoved, h.toStr v text hv]
                    rfl
                  have hvalues : (hs.map fun x ↦ (x, valueOf (crates.remove headers header).2 x)) =
                      hs.map fun x ↦ (x, valueOf headers x) :=
                    List.map_congr_left fun x hx ↦ by rw [valueOf, hget x hx, valueOf]
                  rw [writeNecessary, hremove]
                  simp only [hv]
                  rw [hwrite, hvalues, hvalue]
                  rfl
              · refine .inr ⟨x, List.mem_cons_of_mem _ hx, e, ?_, ?_⟩
                · cases hwrong with
                  | missing hnone => exact .missing ((hget x hx).symm.trans hnone)
                  | value hw htext => exact .value ((hget x hx).symm.trans hw) htext
                · rw [writeNecessary, hremove]
                  simp only [hv]
                  rw [hwrite]
                  rfl

theorem nodup_websocketHeaders : (websocketHeaders.map lower).Nodup := by decide

/-- The necessary headers, as they are written. -/
def necessaryFields (headers : crates.HeaderMap) : List Head.Field :=
  websocketHeaders.map fun x ↦ (x, valueOf headers x)

/-- What has been taken away is not there. -/
theorem getAll_leftOf (h : crates.HeaderLaws) (hs : List Bytes) (headers : crates.HeaderMap)
    (header : Bytes) : crates.getAll (leftOf hs headers) header =
      if hs.any (fun x ↦ lower x = lower header) then [] else crates.getAll headers header := by
  induction hs generalizing headers with
  | nil => rfl
  | cons x hs ih =>
      rw [leftOf, ih, List.any_cons]
      by_cases hx : lower x = lower header
      · rw [h.remove, if_pos hx.symm, ite_self, decide_eq_true hx, Bool.true_or, if_pos rfl]
      · rw [h.getAll_remove_of_ne (Ne.symm hx), decide_eq_false hx, Bool.false_or]

/-! ## The other headers -/

/-- What is left behind the necessary headers. -/
abbrev others (headers : crates.HeaderMap) : crates.HeaderMap := leftOf websocketHeaders headers

/-- The other headers are written under their names, as the map hands them out. -/
def otherFields (headers : crates.HeaderMap) : List Head.Field :=
  (crates.iter (others headers)).map fun x ↦ (writtenName (crates.asStr x.1), crates.asBytes x.2)

theorem getAll_others (h : crates.HeaderLaws) (headers : crates.HeaderMap) (header : Bytes) :
    crates.getAll (others headers) header =
      if necessary header then [] else crates.getAll headers header :=
  getAll_leftOf h websocketHeaders headers header

/-- No necessary header is left. -/
theorem necessary_of_mem_others (h : crates.HeaderLaws)
    {x : crates.HeaderName × crates.HeaderValue} (hx : x ∈ crates.iter (others headers)) :
    necessary (crates.asStr x.1) = false := by
  have hmem := h.mem_getAll hx
  rw [getAll_others h] at hmem
  split at hmem
  · exact absurd hmem List.not_mem_nil
  · rename_i hnot
    exact Bool.eq_false_iff.2 hnot

/-- **Headers that are not necessary are written**, one after another, or one of them is no
text. -/
theorem writeOthers_cases (h : crates.HeaderLaws)
    {xs : List (crates.HeaderName × crates.HeaderValue)}
    (hnone : ∀ x ∈ xs, necessary (crates.asStr x.1) = false) :
    ((∀ x ∈ xs, (crates.toStr x.2).isSome = true) ∧ writeOthers xs =
        .ok (fieldLines (xs.map fun x ↦ (writtenName (crates.asStr x.1), crates.asBytes x.2)))) ∨
      ∃ x ∈ xs, crates.toStr x.2 = none ∧ writeOthers xs = .error .utf8 := by
  induction xs with
  | nil => exact .inl ⟨fun x hx ↦ absurd hx List.not_mem_nil, rfl⟩
  | cons x xs ih =>
      obtain ⟨k, v⟩ := x
      obtain ⟨hk, hnone⟩ := List.forall_mem_cons.1 hnone
      have hlook : ¬ (websocketHeaders.any fun h ↦ decide (lower h = crates.asStr k)) = true := by
        rw [necessary, (h.asStr k).2] at hk
        rw [hk]
        exact Bool.false_ne_true
      rw [writeOthers, if_neg hlook]
      cases hv : crates.toStr v with
      | none => exact .inr ⟨_, List.mem_cons_self, hv, rfl⟩
      | some text =>
          rw [h.toStr v text hv]
          rcases ih hnone with ⟨hall, hwrite⟩ | ⟨x, hx, htext, hwrite⟩
          · refine .inl ⟨List.forall_mem_cons.2 ⟨by rw [hv]; rfl, hall⟩, ?_⟩
            simp only [hwrite]
            rfl
          · refine .inr ⟨x, List.mem_cons_of_mem _ hx, htext, ?_⟩
            simp only [hwrite]
            rfl

/-! ## The request -/

/-- All fields of a request. -/
def requestFields (headers : crates.HeaderMap) : List Head.Field :=
  necessaryFields headers ++ otherFields headers

/-- **A request that can be written**: every necessary header is there and its first value is a
text, and so are all values of the others. -/
structure Writable (request : Request crates) : Prop where
  path : request.uri.pathAndQuery.isSome = true
  necessary : ∀ x ∈ websocketHeaders, HasText request.headers x
  others : ∀ header, Opening.necessary header = false →
    ∀ v ∈ crates.getAll request.headers header, (crates.toStr v).isSome = true

/-- What keeps a request from being written. -/
inductive Unwritable (request : Request crates) : Fault crates → Prop
  | path (h : request.uri.pathAndQuery = none) : Unwritable request (.url .noPathOrQuery)
  | missing {header : Bytes} {name : crates.HeaderName} (hheader : header ∈ websocketHeaders)
      (h : crates.get request.headers header = none) (hname : crates.asStr name = lower header) :
      Unwritable request (.protocol (.invalidHeader name))
  | necessary {header : Bytes} {v : crates.HeaderValue} (hheader : header ∈ websocketHeaders)
      (h : crates.get request.headers header = some v) (hv : crates.toStr v = none) :
      Unwritable request .utf8
  | other {header : Bytes} {v : crates.HeaderValue} (hheader : Opening.necessary header = false)
      (h : v ∈ crates.getAll request.headers header) (hv : crates.toStr v = none) :
      Unwritable request .utf8

theorem token_websocketHeaders : ∀ x ∈ websocketHeaders, Token x := by decide

/-- What is wrong with a necessary header keeps the request from being written. -/
theorem Wrong.unwritable (h : crates.HeaderLaws) {request : Request crates}
    (hheader : header ∈ websocketHeaders) (hwrong : Wrong request.headers header e) :
    Unwritable request e ∧ ¬ Writable request := by
  cases hwrong with
  | missing hnone =>
      obtain ⟨name, hname, htext⟩ := h.nameFromBytes header (token_websocketHeaders header hheader)
      rw [invalidHeader, hname]
      refine ⟨.missing hheader hnone htext, fun hwritable ↦ ?_⟩
      obtain ⟨v, hget, -⟩ := hwritable.necessary header hheader
      cases hget.symm.trans hnone
  | value hget hv =>
      refine ⟨.necessary hheader hget hv, fun hwritable ↦ ?_⟩
      obtain ⟨v, hget', htext⟩ := hwritable.necessary header hheader
      cases hget.symm.trans hget'
      rw [hv] at htext
      cases htext

theorem writeRequest (path : Bytes) (version : Version) (headers : crates.HeaderMap) :
    requestLine crates path version ++ Head.crlf ++ fieldLines (necessaryFields headers) ++
      fieldLines (otherFields headers) ++ Head.crlf =
        Head.write (requestLine crates path version) (requestFields headers) := by
  rw [Head.write, Head.lines, requestFields, fieldLines, fieldLines, List.flatMap_append]
  simp only [List.append_assoc]

/-- **What is written of a request**, if it can be written, and what keeps it from that. -/
theorem generateRequest_cases (h : crates.HeaderLaws) (request : Request crates) :
    (Writable request ∧ ∃ path, request.uri.pathAndQuery = some path ∧ generateRequest request =
        .ok (Head.write (requestLine crates path request.version) (requestFields request.headers),
          valueOf request.headers keyHeadername)) ∨
      ∃ e, Unwritable request e ∧ ¬ Writable request ∧ generateRequest request = .error e := by
  have hkeyMem : keyHeadername ∈ websocketHeaders := List.mem_of_getElem? (i := 4) rfl
  rw [generateRequest]
  cases hpath : request.uri.pathAndQuery with
  | none =>
      refine .inr ⟨_, .path hpath, fun hwritable ↦ ?_, rfl⟩
      have hsome := hwritable.path
      rw [hpath] at hsome
      cases hsome
  | some path =>
      cases hkey : crates.get request.headers keyHeadername with
      | none =>
          obtain ⟨hun, hnot⟩ := Wrong.unwritable h hkeyMem (.missing hkey)
          exact .inr ⟨_, hun, hnot, rfl⟩
      | some key =>
          cases htext : crates.toStr key with
          | none =>
              obtain ⟨hun, hnot⟩ := Wrong.unwritable h hkeyMem (.value hkey htext)
              refine .inr ⟨_, hun, hnot, ?_⟩
              simp only [htext]
          | some text =>
              have hvalue : text = valueOf request.headers keyHeadername := by
                rw [valueOf, hkey, h.toStr key text htext]
                rfl
              simp only [htext]
              rcases @writeNecessary_cases _ request.headers h _ nodup_websocketHeaders with
                ⟨hall, hwrite⟩ | ⟨x, hx, e, he, hwrite⟩
              · rw [hwrite]
                rcases writeOthers_cases h (fun x hx ↦ @necessary_of_mem_others _ request.headers
                  h x hx) with ⟨htexts, hothers⟩ | ⟨x, hx, htext, hothers⟩
                · refine .inl
                    ⟨⟨by rw [hpath]; rfl, hall, fun header hheader v hv ↦ ?_⟩, path, rfl, ?_⟩
                  · have hleft : v ∈ crates.getAll (others request.headers) header := by
                      rw [getAll_others h, hheader]
                      exact hv
                    obtain ⟨n, hn, -⟩ := h.exists_mem_iter hleft
                    exact htexts _ hn
                  · change (writeOthers (crates.iter (others request.headers)) >>= _) = _
                    rw [hothers, ← hvalue]
                    exact congrArg Except.ok (Prod.ext (writeRequest ..) rfl)
                · have hmem := h.mem_getAll hx
                  have hname := necessary_of_mem_others h hx
                  rw [getAll_others h, hname] at hmem
                  refine .inr ⟨.utf8, .other hname hmem htext, fun hwritable ↦ ?_, ?_⟩
                  · have hsome := hwritable.others _ hname _ hmem
                    rw [htext] at hsome
                    cases hsome
                  · change (writeOthers (crates.iter (others request.headers)) >>= _) = _
                    rw [hothers]
                    rfl
              · obtain ⟨hun, hnot⟩ := Wrong.unwritable h hx he
                refine .inr ⟨e, hun, hnot, ?_⟩
                rw [hwrite]
                rfl

/-! ## What is on the wire -/

/-- The name of a header is in lower case, however it is written. -/
theorem lower_writtenName {name : Bytes} (h : lower name = name) :
    lower (writtenName name) = name := by
  rw [writtenName]
  split
  · rename_i hname
    rw [hname]
    decide
  · split
    · rename_i hname
      rw [hname]
      decide
    · exact h

/-- The values that a head gives for a name, in whatever case it is written. -/
def valuesOf (fields : List Head.Field) (header : Bytes) : List Bytes :=
  (fields.filter fun f ↦ lower f.1 = lower header).map (·.2)

theorem valuesOf_append (fields more : List Head.Field) (header : Bytes) :
    valuesOf (fields ++ more) header = valuesOf fields header ++ valuesOf more header := by
  rw [valuesOf, List.filter_append, List.map_append]
  rfl

theorem valuesOf_cons (f : Head.Field) (fields : List Head.Field) (header : Bytes) :
    valuesOf (f :: fields) header =
      (if lower f.1 = lower header then [f.2] else []) ++ valuesOf fields header := by
  rw [← List.singleton_append, valuesOf_append]
  congr 1
  by_cases h : lower f.1 = lower header <;> simp [valuesOf, h]

/-- **A request that is written.**  It is written exactly if it can be; an error tells what is
wrong.  On the wire is a head, in which each necessary header stands once with its first value, and
every other header with all of its values. -/
structure WrittenOnce (request : Request crates) : Prop where
  iff : ∀ data key, generateRequest request = .ok (data, key) ↔ Writable request ∧
    ∃ path, request.uri.pathAndQuery = some path ∧
      data = Head.write (requestLine crates path request.version) (requestFields request.headers) ∧
        key = valueOf request.headers keyHeadername
  error : ∀ e, generateRequest request = .error e → Unwritable request e
  necessary : ∀ x ∈ websocketHeaders,
    valuesOf (requestFields request.headers) x = [valueOf request.headers x]
  others : ∀ header, Opening.necessary header = false →
    (valuesOf (requestFields request.headers) header).Perm (values request.headers header)

/-- What a map hands out are the values of its names, also if the names are written so that they are
the same in lower case. -/
theorem valuesOf_iter (h : crates.HeaderLaws) {written : Bytes → Bytes}
    (hwritten : ∀ name, lower name = name → lower (written name) = name)
    (headers : crates.HeaderMap) (header : Bytes) :
    (valuesOf ((crates.iter headers).map fun x ↦ (written (crates.asStr x.1), crates.asBytes x.2))
      header).Perm (values headers header) := by
  have hfilter : valuesOf ((crates.iter headers).map fun x ↦
      (written (crates.asStr x.1), crates.asBytes x.2)) header =
        (((crates.iter headers).filter fun x ↦ crates.asStr x.1 = lower header).map
          (·.2)).map crates.asBytes := by
    rw [valuesOf, List.filter_map, List.map_map, List.map_map]
    refine congrArg _ (List.filter_congr fun x _ ↦ ?_)
    simp only [Function.comp, hwritten _ (h.asStr x.1).2]
  rw [hfilter]
  exact (h.iter _ header).map _

theorem valuesOf_otherFields (h : crates.HeaderLaws) (headers : crates.HeaderMap)
    (header : Bytes) :
    (valuesOf (otherFields headers) header).Perm (values (others headers) header) :=
  valuesOf_iter h (fun _ ↦ lower_writtenName) (others headers) header

theorem values_others (h : crates.HeaderLaws) (headers : crates.HeaderMap) (header : Bytes) :
    values (others headers) header = if necessary header then [] else values headers header := by
  rw [values, getAll_others h]
  split <;> rfl

/-- A necessary header stands there once. -/
theorem valuesOf_necessary (h : crates.HeaderLaws) (headers : crates.HeaderMap) (x : Bytes)
    (hx : x ∈ websocketHeaders) :
    valuesOf (requestFields headers) x = [valueOf headers x] := by
  have hnone : valuesOf (otherFields headers) x = [] := by
    have hperm := valuesOf_otherFields h headers x
    rw [values_others h, necessary, if_pos (List.any_eq_true.2 ⟨x, hx, decide_eq_true rfl⟩)]
      at hperm
    exact hperm.eq_nil
  rw [requestFields, valuesOf_append, hnone, List.append_nil]
  simp only [websocketHeaders, List.mem_cons, List.not_mem_nil, or_false] at hx
  rcases hx with rfl | rfl | rfl | rfl | rfl <;> rfl

/-- Any other one stands there with all its values. -/
theorem valuesOf_other (h : crates.HeaderLaws) (headers : crates.HeaderMap)
    (hheader : Opening.necessary header = false) :
    (valuesOf (requestFields headers) header).Perm (values headers header) := by
  have hnone : valuesOf (necessaryFields headers) header = [] := by
    rw [valuesOf, List.map_eq_nil_iff, List.filter_eq_nil_iff]
    intro f hf hlower
    obtain ⟨x, hx, rfl⟩ := List.mem_map.1 hf
    rw [Opening.necessary, List.any_eq_false] at hheader
    exact hheader x hx hlower
  have hperm := valuesOf_otherFields h headers header
  rw [values_others h, hheader, if_neg Bool.false_ne_true] at hperm
  rwa [requestFields, valuesOf_append, hnone, List.nil_append]

/-- **A request can be written** exactly if it is writable, and what is written follows from it. -/
theorem generateRequest_iff (h : crates.HeaderLaws) {request : Request crates}
    {data key : Bytes} :
    generateRequest request = .ok (data, key) ↔ Writable request ∧
      ∃ path, request.uri.pathAndQuery = some path ∧
        data = Head.write (requestLine crates path request.version)
          (requestFields request.headers) ∧ key = valueOf request.headers keyHeadername := by
  rcases generateRequest_cases h request with ⟨hwritable, path, hpath, heq⟩ | ⟨e, -, hnot, heq⟩
  · rw [heq]
    constructor
    · intro hok
      cases hok
      exact ⟨hwritable, path, hpath, rfl, rfl⟩
    · rintro ⟨-, path', hpath', rfl, rfl⟩
      cases hpath.symm.trans hpath'
      rfl
  · rw [heq]
    exact ⟨fun hok ↦ (nomatch hok), fun hw ↦ absurd hw.1 hnot⟩

/-- **Every request is written so**, whatever its map is, as long as that is a map. -/
theorem written_once (h : crates.HeaderLaws) (request : Request crates) : WrittenOnce request where
  iff _ _ := generateRequest_iff h
  error e he := by
    rcases generateRequest_cases h request with ⟨-, path, -, heq⟩ | ⟨e', hun, -, heq⟩
    · cases heq.symm.trans he
    · cases heq.symm.trans he
      exact hun
  necessary x hx := valuesOf_necessary h request.headers x hx
  others _ hheader := valuesOf_other h request.headers hheader

/-- Headers in a list. -/
def plainMap (fields : List (Bytes × Bytes)) : PlainMap :=
  fields.filterMap fun f ↦ do
    let name ← plainCrates.nameFromBytes f.1
    let value ← plainCrates.valueFromBytes f.2
    return (name, value)

/-- A request for a path, under the key in the tests of the source; it names two hosts. -/
def plainRequest : Request plainCrates where
  method := .get
  uri := ⟨⟨⟨some "localhost"⟩, some "ws", none, "ws://localhost/chat"⟩,
    some (Utf8.encode "localhost"), some (Utf8.encode "/chat")⟩
  version := .http11
  headers := plainMap
    [(Utf8.encode "Host", Utf8.encode "localhost"), (Utf8.encode "Host", Utf8.encode "elsewhere"),
      (Utf8.encode "Connection", Utf8.encode "keep-alive, Upgrade"),
      (Utf8.encode "Upgrade", Utf8.encode "WebSocket"),
      (Utf8.encode "Origin", Utf8.encode "localhost"),
      (Utf8.encode "Sec-WebSocket-Version", Utf8.encode "13"),
      (Utf8.encode "Sec-WebSocket-Key", sampleKey)]
  body := ()

/-- The second host is dropped. -/
theorem written_once_twoHosts :
    generateRequest plainRequest = .ok (Head.write (Utf8.encode "GET /chat HTTP/1.1")
      [(Utf8.encode "Host", Utf8.encode "localhost"),
        (Utf8.encode "Connection", Utf8.encode "keep-alive, Upgrade"),
        (Utf8.encode "Upgrade", Utf8.encode "WebSocket"),
        (Utf8.encode "Sec-WebSocket-Version", Utf8.encode "13"),
        (Utf8.encode "Sec-WebSocket-Key", sampleKey),
        (Utf8.encode "Origin", Utf8.encode "localhost")], sampleKey) ∧
      WrittenOnce plainRequest :=
  ⟨rfl, written_once headerLaws_plainCrates plainRequest⟩

end Opening

end Ws

end MessageIo
