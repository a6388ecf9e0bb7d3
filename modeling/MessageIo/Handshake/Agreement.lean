import MessageIo.Handshake.Requests

/-!
# Client and server agree

What a client writes, a server reads as a request with the first value of each necessary header and
with all values of the others, however it is cut; it accepts the request exactly if it asks for
the upgrade; and the client verifies the response, which no client with another key does
(`opening_agrees`).  This takes for granted that no value begins or ends with a blank: `httparse`
trims values, so a key with a blank in front is not the key that the server sees.

This is about the functions that a handshake calls, and about the bytes between them.  The machine
that calls them never reads (`Handshake.Progress`).
-/

namespace MessageIo

namespace Ws

namespace Opening

variable {crates : Crates} {headers : crates.HeaderMap} {fields : List Head.Field}
  {header path : Bytes}

/-! ## From fields to maps -/

/-- The fields of a map, as it hands them out. -/
def mapFields (headers : crates.HeaderMap) : List Head.Field :=
  (crates.iter headers).map fun x ↦ (crates.asStr x.1, crates.asBytes x.2)

/-- The values of a map are those of its fields. -/
theorem valuesOf_mapFields (h : crates.HeaderLaws) (headers : crates.HeaderMap) (header : Bytes) :
    (valuesOf (mapFields headers) header).Perm (values headers header) :=
  valuesOf_iter h (fun _ hname ↦ hname) headers header

theorem lower_mapFields (h : crates.HeaderLaws) (headers : crates.HeaderMap) :
    ∀ f ∈ mapFields headers, lower f.1 = f.1 := by
  intro f hf
  obtain ⟨x, -, rfl⟩ := List.mem_map.1 hf
  exact (h.asStr x.1).2

/-- In fields in lower case, a field stands as often as its value among those of its name. -/
theorem count_fields (h : ∀ f ∈ fields, lower f.1 = f.1) (name value : Bytes) :
    fields.count (name, value) =
      if lower name = name then (valuesOf fields name).count value else 0 := by
  induction fields with
  | nil => split <;> rfl
  | cons f fields ih =>
      obtain ⟨n, v⟩ := f
      obtain ⟨hn, h⟩ := List.forall_mem_cons.1 h
      have hn' : lower n = n := hn
      rw [List.count_cons, ih h, valuesOf_cons, List.count_append]
      by_cases hname : lower name = name
      · rw [if_pos hname, if_pos hname, hn', hname]
        by_cases heq : n = name
        · subst heq
          simp [List.count_singleton, Nat.add_comm]
        · simp [heq]
      · have hne : n ≠ name := fun heq ↦ hname (heq ▸ hn')
        simp [hname, hne]

/-- **Fields in lower case are known by the values of their names**, but for the order. -/
theorem perm_fields {more : List Head.Field} (h : ∀ f ∈ fields, lower f.1 = f.1)
    (hmore : ∀ f ∈ more, lower f.1 = f.1)
    (hvalues : ∀ header, (valuesOf fields header).Perm (valuesOf more header)) :
    fields.Perm more := by
  refine List.perm_iff_count.2 fun f ↦ ?_
  obtain ⟨name, value⟩ := f
  rw [count_fields h, count_fields hmore, (hvalues name).count_eq]

/-- The values of some fields, and one more. -/
theorem values_append (h : crates.HeaderLaws) (headers : crates.HeaderMap)
    {name : crates.HeaderName} {text : Bytes} (hname : crates.asStr name = lower text)
    (value : crates.HeaderValue) (hroom : (crates.iter headers).length < maxEntries)
    (header : Bytes) :
    values (crates.append headers name value) header = values headers header ++
      if lower text = lower header then [crates.asBytes value] else [] := by
  rw [values, h.append _ _ _ _ hroom, List.map_append, hname, values]
  congr 1
  by_cases heq : lower text = lower header
  · rw [if_pos heq, if_pos heq.symm]
    rfl
  · rw [if_neg heq, if_neg (Ne.symm heq)]
    rfl

/-- A header that is appended is one more. -/
theorem length_iter_append (h : crates.HeaderLaws) (headers : crates.HeaderMap)
    (name : crates.HeaderName) (value : crates.HeaderValue)
    (hroom : (crates.iter headers).length < maxEntries) :
    (crates.iter (crates.append headers name value)).length =
      (crates.iter headers).length + 1 := by
  have hname := (h.asStr name).2
  have hperm : (mapFields (crates.append headers name value)).Perm
      (mapFields headers ++ [(crates.asStr name, crates.asBytes value)]) := by
    refine perm_fields (lower_mapFields h _) ?_ fun header ↦ ?_
    · rw [List.forall_mem_append]
      exact ⟨lower_mapFields h _, List.forall_mem_singleton.2 hname⟩
    · refine (valuesOf_mapFields h _ header).trans ?_
      rw [values_append h headers hname.symm value hroom, valuesOf_append, valuesOf_cons]
      exact (valuesOf_mapFields h headers header).symm.append (.of_eq (List.append_nil _).symm)
  have hlength := hperm.length_eq
  rwa [List.length_append, mapFields, mapFields, List.length_map, List.length_map] at hlength

/-- An empty map hands out nothing. -/
theorem iter_newMap (h : crates.HeaderLaws) : crates.iter crates.newMap = [] := by
  refine List.eq_nil_iff_forall_not_mem.2 fun x hx ↦ ?_
  have hmem := h.mem_getAll hx
  rw [h.newMap] at hmem
  exact List.not_mem_nil hmem

/-- **A map is made of fields**, one after another, by whatever appends a header of the name and the
value of a field; there is a place for all of them. -/
theorem values_foldlM {m : Type → Type} [Monad m] [LawfulMonad m] (h : crates.HeaderLaws)
    {add : crates.HeaderMap → Head.Field → m crates.HeaderMap}
    (hadd : ∀ f ∈ fields, ∃ name value, crates.asStr name = lower f.1 ∧ crates.asBytes value = f.2 ∧
      ∀ headers, add headers f = pure (crates.append headers name value))
    (hroom : fields.length ≤ maxEntries) :
    ∃ headers : crates.HeaderMap, fields.foldlM add crates.newMap = pure headers ∧
      ∀ header, values headers header = valuesOf fields header := by
  have hfold : ∀ start : crates.HeaderMap,
      (crates.iter start).length + fields.length ≤ maxEntries →
      ∃ headers : crates.HeaderMap, fields.foldlM add start = pure headers ∧
        ∀ header, values headers header = values start header ++ valuesOf fields header := by
    clear hroom
    induction fields with
    | nil => exact fun start _ ↦ ⟨start, rfl, fun header ↦ (List.append_nil _).symm⟩
    | cons f fields ih =>
        intro start hroom
        rw [List.length_cons] at hroom
        obtain ⟨⟨name, value, hname, hvalue, happend⟩, hadd⟩ := List.forall_mem_cons.1 hadd
        have hlength := length_iter_append h start name value (by omega)
        obtain ⟨headers, hheaders, hall⟩ :=
          ih hadd (crates.append start name value) (by omega)
        refine ⟨headers, ?_, fun header ↦ ?_⟩
        · rw [List.foldlM_cons, happend, pure_bind]
          exact hheaders
        · rw [hall, values_append h start hname value (by omega), hvalue, valuesOf_cons,
            List.append_assoc]
  obtain ⟨headers, hheaders, hall⟩ := hfold crates.newMap <| by
    rw [iter_newMap h, List.length_nil, Nat.zero_add]
    exact hroom
  refine ⟨headers, hheaders, fun header ↦ ?_⟩
  rw [hall, values, h.newMap]
  rfl

/-- **Fields with values of a map make a map**, with all names and values. -/
theorem headersFromHttparse_eq (h : crates.HeaderLaws) (hnames : ∀ f ∈ fields, Token f.1)
    (hvalues : ∀ f ∈ fields, ∃ v, crates.asBytes v = f.2) (hroom : fields.length ≤ maxEntries) :
    ∃ headers : crates.HeaderMap, headersFromHttparse fields = .ok headers ∧
      ∀ header, values headers header = valuesOf fields header := by
  refine values_foldlM h (fun f hf ↦ ?_) hroom
  obtain ⟨name, hname, htext⟩ := h.nameFromBytes f.1 (hnames f hf)
  obtain ⟨v, hv⟩ := hvalues f hf
  obtain ⟨value, hvalue, hbytes⟩ := h.valueFromBytes v
  refine ⟨name, value, htext, hbytes.trans hv, fun headers ↦ ?_⟩
  rw [appendRaw, hname, ← hv, hvalue]
  rfl

/-- **Visible texts make a map**, with all names and values. -/
theorem buildHeaders_eq (h : crates.HeaderLaws) (hnames : ∀ f ∈ fields, Token f.1)
    (hvalues : ∀ f ∈ fields, ∀ b ∈ f.2, 32 ≤ b ∧ b < 127) (hroom : fields.length ≤ maxEntries) :
    ∃ headers, buildHeaders crates fields = some headers ∧
      ∀ header, values headers header = valuesOf fields header := by
  refine values_foldlM h (fun f hf ↦ ?_) hroom
  obtain ⟨name, hname, htext⟩ := h.nameFromBytes f.1 (hnames f hf)
  obtain ⟨value, hvalue, hbytes⟩ := h.valueFromStr f.2 (hvalues f hf)
  refine ⟨name, value, htext, hbytes, fun headers ↦ ?_⟩
  rw [hname, hvalue]
  rfl

/-! ## The request, as a server reads it -/

variable {request : Request crates}

/-- **A request that arrives as it is**: as one of HTTP 1.1, with a path that may stand in a first
line, values without blanks at their ends, and no more headers than are read. -/
structure Clean (request : Request crates) : Prop where
  version : request.version = .http11
  path : ∀ path, request.uri.pathAndQuery = some path → Target path
  trimmed : ∀ f ∈ requestFields request.headers, Trimmed f.2
  few : (requestFields request.headers).length ≤ maxHeaders

/-- A text whose lower case is a token is one. -/
theorem Token.of_lower {text : Bytes} (h : Token (Opening.lower text)) : Token text where
  nonempty hnil := h.nonempty (by rw [hnil]; rfl)
  bytes b hb := by
    have hbyte := h.bytes _ (List.mem_map_of_mem hb)
    rwa [lowerByte_lowerByte] at hbyte
  length := (List.length_map _).symm.trans_le h.length

/-- What a request is written with are values of its map. -/
theorem asBytes_requestFields (hwritable : Writable request) :
    ∀ f ∈ requestFields request.headers, ∃ v, crates.asBytes v = f.2 := by
  intro f hf
  rcases List.mem_append.1 hf with hf | hf
  · obtain ⟨x, hx, rfl⟩ := List.mem_map.1 hf
    obtain ⟨v, hget, -⟩ := hwritable.necessary x hx
    exact ⟨v, by rw [valueOf, hget]; rfl⟩
  · obtain ⟨x, -, rfl⟩ := List.mem_map.1 hf
    exact ⟨x.2, rfl⟩

theorem token_requestFields (h : crates.HeaderLaws) (headers : crates.HeaderMap) :
    ∀ f ∈ requestFields headers, Token f.1 := by
  intro f hf
  rcases List.mem_append.1 hf with hf | hf
  · obtain ⟨x, hx, rfl⟩ := List.mem_map.1 hf
    exact token_websocketHeaders x hx
  · obtain ⟨x, -, rfl⟩ := List.mem_map.1 hf
    refine .of_lower ?_
    rw [lower_writtenName (h.asStr x.1).2]
    exact (h.asStr x.1).1

theorem Clean.rawField (h : crates.HeaderLaws) (hwritable : Writable request)
    (hclean : Clean request) : ∀ f ∈ requestFields request.headers, RawField f := by
  intro f hf
  obtain ⟨v, hv⟩ := asBytes_requestFields hwritable f hf
  exact ⟨token_requestFields h _ f hf, hv ▸ h.asBytes v, hclean.trimmed f hf⟩

/-- **What a server makes of a request** that was written: it has the first value of each necessary
header, and all values of the others, in some order. -/
structure ReadAs (request request' : Request crates) : Prop where
  method : request'.method = .get
  version : request'.version = .http11
  uri : request.uri.pathAndQuery.bind crates.parseUri = some request'.uri
  necessary : ∀ x ∈ websocketHeaders, values request'.headers x = [valueOf request.headers x]
  others : ∀ header, Opening.necessary header = false →
    (values request'.headers header).Perm (values request.headers header)

/-- The first line of a request. -/
theorem requestLine_http11 (h : crates.Lawful) (path : Bytes) : requestLine crates path .http11 =
    Utf8.encode "GET " ++ path ++ Utf8.encode " HTTP/1.1" := by
  rw [requestLine, h.debug]
  rfl

/-- **A server reads the request that was written**, and waits for it as long as it is not
complete. -/
theorem tryParse_request (hlawful : crates.Lawful) (hwritable : Writable request)
    (hclean : Clean request) (hpath : request.uri.pathAndQuery = some path) :
    ∃ request', ReadAs request request' ∧
      (∀ tail, HttpRequest.tryParse crates
          (Head.write (requestLine crates path .http11) (requestFields request.headers) ++ tail) =
        .ok (some ((Head.write (requestLine crates path .http11)
          (requestFields request.headers)).length, request'))) ∧
      ∀ n < (Head.write (requestLine crates path .http11) (requestFields request.headers)).length,
        HttpRequest.tryParse crates ((Head.write (requestLine crates path .http11)
          (requestFields request.headers)).take n) = .ok none := by
  have hlaws := hlawful.toHeaderLaws
  have hraw := hclean.rawField hlaws hwritable
  have htarget := hclean.path path hpath
  obtain ⟨headers, hheaders, hvalues⟩ :=
    headersFromHttparse_eq hlaws (token_requestFields hlaws _) (asBytes_requestFields hwritable)
      (hclean.few.trans (by decide))
  obtain ⟨uri, huri⟩ := Option.isSome_iff_exists.1 (hlawful.uri path htarget)
  have hparse := fun tail ↦ hlawful.request maxHeaders path _ tail htarget hraw hclean.few
  rw [requestLine_http11 hlawful]
  refine ⟨⟨.get, uri, .http11, headers, ()⟩,
    ⟨rfl, rfl, by rw [hpath]; exact huri, fun x hx ↦ ?_, fun header hheader ↦ ?_⟩, fun tail ↦ ?_,
    fun n hn ↦ ?_⟩
  · exact (hvalues x).trans (valuesOf_necessary hlaws request.headers x hx)
  · exact hvalues header ▸ valuesOf_other hlaws request.headers hheader
  · rw [HttpRequest.tryParse, hparse tail]
    have hmade : HttpRequest.fromHttparse
        ⟨Utf8.encode "GET", path, 1, requestFields request.headers⟩ =
          .ok (⟨.get, uri, .http11, headers, ()⟩ : Request crates) := by
      rw [HttpRequest.fromHttparse]
      simp only [hheaders, huri]
      rfl
    simp only [hmade]
    rfl
  · have hwhole := hparse []
    rw [List.append_nil] at hwhole
    rw [HttpRequest.tryParse, hlawful.requestPart _ _ _ _ hwhole n hn]

/-! ## The response, as a client reads it -/

/-- The headers of a response are written one after another. -/
theorem writeHeaders_eq (h : crates.HeaderLaws) {xs : List (crates.HeaderName × crates.HeaderValue)}
    (hvisible : ∀ x ∈ xs, (crates.toStr x.2).isSome = true) :
    writeHeaders xs =
      .ok (fieldLines (xs.map fun x ↦ (crates.asStr x.1, crates.asBytes x.2))) := by
  induction xs with
  | nil => rfl
  | cons x xs ih =>
      obtain ⟨k, v⟩ := x
      obtain ⟨hv, hvisible⟩ := List.forall_mem_cons.1 hvisible
      rw [writeHeaders]
      simp only [h.toStr_eq hv]
      rw [ih hvisible]
      rfl

/-- **A response that arrives as it is**: as one of HTTP 1.1, with texts for values, without blanks
at their ends, and no more headers than are read. -/
structure CleanResponse {T : Type} (response : HttpResponse crates T) : Prop where
  version : response.version = .http11
  visible : ∀ header, ∀ v ∈ crates.getAll response.headers header, (crates.toStr v).isSome = true
  trimmed : ∀ header, ∀ v ∈ crates.getAll response.headers header, Trimmed (crates.asBytes v)
  few : (crates.iter response.headers).length ≤ maxHeaders

theorem writeResponse_eq {T : Type} {response : HttpResponse crates T} (h : crates.HeaderLaws)
    (hclean : CleanResponse response) :
    writeResponse response = .ok (Head.write (statusLine crates response.version response.status)
      (mapFields response.headers)) := by
  have hhead : statusLine crates response.version response.status ++ Head.crlf ++
      fieldLines (mapFields response.headers) ++ Head.crlf =
        Head.write (statusLine crates response.version response.status)
          (mapFields response.headers) := by
    rw [Head.write, Head.lines, fieldLines]
    simp only [List.append_assoc]
  rw [writeResponse, writeHeaders_eq h fun x hx ↦ hclean.visible _ _ (h.mem_getAll hx)]
  exact congrArg Except.ok hhead

theorem CleanResponse.rawField {T : Type} {response : HttpResponse crates T}
    (h : crates.HeaderLaws) (hclean : CleanResponse response) :
    ∀ f ∈ mapFields response.headers, RawField f := by
  intro f hf
  obtain ⟨x, hx, rfl⟩ := List.mem_map.1 hf
  exact ⟨(h.asStr x.1).1, h.asBytes x.2, hclean.trimmed _ _ (h.mem_getAll hx)⟩

/-- **A client reads the response that was written**, and waits for it as long as it is not
complete. -/
theorem tryParse_response {T : Type} {response : HttpResponse crates T} (hlawful : crates.Lawful)
    (hclean : CleanResponse response) :
    ∃ head, ∃ headers : crates.HeaderMap, writeResponse response = .ok head ∧
      (∀ header, (values headers header).Perm (values response.headers header)) ∧
      (∀ tail, HttpResponse.tryParse crates (head ++ tail) =
        .ok (some (head.length, ⟨response.status, .http11, headers, none⟩))) ∧
      ∀ n < head.length, HttpResponse.tryParse crates (head.take n) = .ok none := by
  have hlaws := hlawful.toHeaderLaws
  have hraw := hclean.rawField hlaws
  have hfew : (mapFields response.headers).length ≤ maxHeaders :=
    (List.length_map _).trans_le hclean.few
  have hbytes : ∀ f ∈ mapFields response.headers, ∃ v, crates.asBytes v = f.2 := by
    intro f hf
    obtain ⟨x, -, rfl⟩ := List.mem_map.1 hf
    exact ⟨x.2, rfl⟩
  obtain ⟨headers, hheaders, hvalues⟩ :=
    headersFromHttparse_eq hlaws (fun f hf ↦ (hraw f hf).name) hbytes (hfew.trans (by decide))
  obtain ⟨reason, hdisplay, hreason⟩ := hlawful.display response.status
  have hline : statusLine crates response.version response.status =
      Utf8.encode "HTTP/1.1 " ++ response.status.digits ++ 32 :: reason := by
    rw [statusLine, hclean.version, hlawful.debug, hdisplay, List.append_assoc]
    rfl
  have hparse := fun tail ↦ hlawful.response maxHeaders response.status reason _ tail hreason
    hraw hfew
  have hmade : HttpResponse.fromHttparse ⟨1, response.status.code, mapFields response.headers⟩ =
      .ok (⟨response.status, .http11, headers, none⟩ : ClientResponse crates) := by
    rw [HttpResponse.fromHttparse]
    simp only [hheaders, hlawful.fromU16]
    rfl
  refine ⟨_, headers, writeResponse_eq hlaws hclean,
    fun header ↦ hvalues header ▸ valuesOf_mapFields hlaws response.headers header, fun tail ↦ ?_,
    fun n hn ↦ ?_⟩
  · rw [hline, HttpResponse.tryParse, hparse tail]
    simp only [hmade]
    rfl
  · have hwhole := hparse []
    rw [List.append_nil] at hwhole
    rw [hline] at hn ⊢
    rw [HttpResponse.tryParse, hlawful.responsePart _ _ _ _ hwhole n hn]

/-! ## Agreement -/

/-- **The headers ask for the upgrade.** -/
structure AsksForUpgrade (headers : crates.HeaderMap) : Prop where
  connection : textIs headers (Utf8.encode "Connection") namesUpgrade = true
  upgrade : textIs headers (Utf8.encode "Upgrade")
    (eqIgnoreAsciiCase · (Utf8.encode "websocket")) = true
  version : (crates.get headers (Utf8.encode "Sec-WebSocket-Version")).map crates.asBytes =
    some (Utf8.encode "13")

/-- The headers of a response with this key. -/
def acceptFields (accept : Bytes) : List Head.Field :=
  [(Utf8.encode "Connection", Utf8.encode "Upgrade"),
    (Utf8.encode "Upgrade", Utf8.encode "websocket"),
    (Utf8.encode "Sec-WebSocket-Accept", accept)]

/-- The only value of a name is what is found. -/
theorem get_of_values (h : crates.HeaderLaws) {value : Bytes}
    (hvalues : values headers header = [value]) :
    ∃ v, crates.get headers header = some v ∧ crates.asBytes v = value := by
  have hget := h.get_map headers header
  rw [hvalues, List.head?_cons] at hget
  exact Option.map_eq_some_iff.1 hget

/-- Whether a header is such a text is known by its value. -/
theorem textIs_of_values (h : crates.HeaderLaws) {value : Bytes}
    (hvalues : values headers header = [value]) (hvisible : ∀ b ∈ value, 32 ≤ b ∧ b < 127)
    (p : Bytes → Bool) : textIs headers header p = p value := by
  obtain ⟨v, hget, rfl⟩ := get_of_values h hvalues
  rw [textIs, hget, Option.bind_some, h.visible v hvisible]
  rfl

/-- A server asks of the request it has read what the request was written with. -/
theorem ReadAs.textIs_eq (h : crates.HeaderLaws) {request' : Request crates}
    (hread : ReadAs request request') (hwritable : Writable request)
    (hheader : header ∈ websocketHeaders) (p : Bytes → Bool) :
    textIs request'.headers header p = textIs request.headers header p := by
  obtain ⟨v', hget', hv'⟩ := get_of_values h (hread.necessary header hheader)
  obtain ⟨v, hget, -⟩ := hwritable.necessary header hheader
  rw [valueOf, hget] at hv'
  rw [textIs, hget', Option.bind_some, textIs, hget, Option.bind_some, h.sameText v' v hv']

theorem ReadAs.get_map (h : crates.HeaderLaws) {request' : Request crates}
    (hread : ReadAs request request') (hwritable : Writable request)
    (hheader : header ∈ websocketHeaders) :
    (crates.get request'.headers header).map crates.asBytes =
      (crates.get request.headers header).map crates.asBytes := by
  obtain ⟨v, hget, -⟩ := hwritable.necessary header hheader
  rw [h.get_map, hread.necessary header hheader, List.head?_cons, valueOf, hget]
  rfl

theorem ReadAs.asksForUpgrade (h : crates.HeaderLaws) {request' : Request crates}
    (hread : ReadAs request request') (hwritable : Writable request) :
    AsksForUpgrade request'.headers ↔ AsksForUpgrade request.headers := by
  have hconnection := hread.textIs_eq h hwritable
    (show Utf8.encode "Connection" ∈ websocketHeaders by decide) namesUpgrade
  have hupgrade := hread.textIs_eq h hwritable
    (show Utf8.encode "Upgrade" ∈ websocketHeaders by decide)
    (eqIgnoreAsciiCase · (Utf8.encode "websocket"))
  have hversion := hread.get_map h hwritable
    (show Utf8.encode "Sec-WebSocket-Version" ∈ websocketHeaders by decide)
  constructor
  · rintro ⟨hc, hu, hv⟩
    exact ⟨hconnection.symm.trans hc, hupgrade.symm.trans hu, hversion.symm.trans hv⟩
  · rintro ⟨hc, hu, hv⟩
    exact ⟨hconnection.trans hc, hupgrade.trans hu, hversion.trans hv⟩

theorem token_acceptFields (accept : Bytes) : ∀ f ∈ acceptFields accept, Token f.1 := by
  simp only [acceptFields, List.forall_mem_cons]
  exact ⟨by decide, by decide, by decide, fun f hf ↦ absurd hf List.not_mem_nil⟩

/-- Visible bytes have no blanks at their ends. -/
theorem trimmed_of_visible {value : Bytes} (h : ∀ b ∈ value, 33 ≤ b ∧ b < 127) :
    Trimmed value := by
  have hblank : ∀ b ∈ value, Head.isBlank b = false := by
    intro b hb
    have h33 := (h b hb).1
    rw [Head.isBlank, Bool.or_eq_false_iff, decide_eq_false_iff_not, decide_eq_false_iff_not]
    constructor
    · rintro rfl
      exact absurd h33 (by decide)
    · rintro rfl
      exact absurd h33 (by decide)
  exact ⟨fun b hb ↦ hblank b (List.mem_of_mem_head? hb),
    fun b hb ↦ hblank b (List.mem_of_getLast? hb)⟩

theorem visible_of_le {value : Bytes} (h : ∀ b ∈ value, 33 ≤ b ∧ b < 127) :
    ∀ b ∈ value, 32 ≤ b ∧ b < 127 :=
  fun b hb ↦ ⟨UInt8.le_trans (by decide) (h b hb).1, (h b hb).2⟩

/-- The fields of a map that was made of some. -/
theorem mapFields_perm (h : crates.HeaderLaws)
    (hvalues : ∀ header, values headers header = valuesOf fields header) :
    (mapFields headers).Perm (fields.map fun f ↦ (lower f.1, f.2)) := by
  refine perm_fields (fun f hf ↦ ?_) (fun f hf ↦ ?_) fun header ↦ ?_
  · obtain ⟨x, -, rfl⟩ := List.mem_map.1 hf
    exact (h.asStr x.1).2
  · obtain ⟨f, -, rfl⟩ := List.mem_map.1 hf
    exact lower_lower f.1
  · refine (valuesOf_mapFields h headers header).trans (.of_eq ?_)
    rw [hvalues, valuesOf, valuesOf, List.filter_map, List.map_map]
    simp only [Function.comp_def, lower_lower]

/-- What is in a map that was made of fields is in one of them. -/
theorem exists_field (hvalues : ∀ header, values headers header = valuesOf fields header)
    {v : crates.HeaderValue} (hv : v ∈ crates.getAll headers header) :
    ∃ f ∈ fields, f.2 = crates.asBytes v := by
  have hvalue : crates.asBytes v ∈ values headers header := List.mem_map_of_mem hv
  rw [hvalues] at hvalue
  obtain ⟨f, hf, heq⟩ := List.mem_map.1 hvalue
  exact ⟨f, (List.mem_filter.1 hf).1, heq⟩

/-- If the fields are visible, all that is in it are texts. -/
theorem isSome_toStr_of_fields (h : crates.HeaderLaws)
    (hvalues : ∀ header, values headers header = valuesOf fields header)
    (hvisible : ∀ f ∈ fields, ∀ b ∈ f.2, 32 ≤ b ∧ b < 127) {v : crates.HeaderValue}
    (hv : v ∈ crates.getAll headers header) : (crates.toStr v).isSome = true := by
  obtain ⟨f, hf, heq⟩ := exists_field hvalues hv
  rw [h.visible v (heq ▸ hvisible f hf)]
  rfl

/-- A response whose headers are made of visible texts arrives as it is. -/
theorem cleanResponse_of_fields {T : Type} (h : crates.HeaderLaws)
    (hvalues : ∀ header, values headers header = valuesOf fields header)
    (hvisible : ∀ f ∈ fields, ∀ b ∈ f.2, 32 ≤ b ∧ b < 127) (htrimmed : ∀ f ∈ fields, Trimmed f.2)
    (hfew : fields.length ≤ maxHeaders) (status : StatusCode) (body : T) :
    CleanResponse ⟨status, .http11, headers, body⟩ where
  version := rfl
  visible _ _ hv := isSome_toStr_of_fields h hvalues hvisible hv
  trimmed header v hv := by
    obtain ⟨f, hf, heq⟩ := exists_field hvalues hv
    exact heq ▸ htrimmed f hf
  few := by
    have hlength := (mapFields_perm h hvalues).length_eq
    rw [mapFields, List.length_map, List.length_map] at hlength
    exact hlength.trans_le hfew

/-- **A server accepts a request** exactly if it asks for the upgrade, and derives the key that it
puts into its response. -/
theorem createResponse_iff (hlawful : crates.Lawful) {request' : Request crates}
    {key : crates.HeaderValue} (hmethod : request'.method = .get)
    (hversion : request'.version = .http11)
    (hkey : crates.get request'.headers (Utf8.encode "Sec-WebSocket-Key") = some key) :
    ∃ headers : crates.HeaderMap,
      (∀ header, values headers header =
        valuesOf (acceptFields (deriveAcceptKey crates (crates.asBytes key))) header) ∧
      ∀ response, createResponse request' = .ok response ↔
        AsksForUpgrade request'.headers ∧
          response = ⟨.switchingProtocols, .http11, headers, ()⟩ := by
  have hvisible : ∀ f ∈ acceptFields (deriveAcceptKey crates (crates.asBytes key)),
      ∀ b ∈ f.2, 32 ≤ b ∧ b < 127 := by
    simp only [acceptFields, List.forall_mem_cons]
    exact ⟨visible_of_all (by decide), visible_of_all (by decide),
      visible_of_le (hlawful.base64 _), fun f hf ↦ absurd hf List.not_mem_nil⟩
  obtain ⟨headers, hbuild, hvalues⟩ :=
    buildHeaders_eq hlawful.toHeaderLaws (token_acceptFields _) hvisible
      (by change 3 ≤ maxEntries; decide)
  refine ⟨headers, hvalues, fun response ↦ ?_⟩
  rw [acceptFields] at hbuild
  rw [createResponse, createResponseWithBody, if_neg (not_not.2 hmethod),
    if_neg (by rw [hversion]; exact Nat.lt_irrefl _)]
  constructor
  · intro h
    split at h
    · cases h
    · rename_i hconnection
      split at h
      · cases h
      · rename_i hupgrade
        split at h
        · cases h
        · rename_i hasked
          simp only [hkey, hbuild, Except.ok.injEq] at h
          refine ⟨⟨Bool.not_eq_false _ ▸ hconnection, Bool.not_eq_false _ ▸ hupgrade,
            not_not.1 hasked⟩, ?_⟩
          rw [← h, hversion]
  · rintro ⟨⟨hconnection, hupgrade, hasked⟩, rfl⟩
    rw [if_neg (by rw [hconnection]; exact Bool.false_ne_true.symm),
      if_neg (by rw [hupgrade]; exact Bool.false_ne_true.symm), if_neg (not_not.2 hasked)]
    simp only [hkey, hbuild, hversion]

/-- The response is verified by those who expect its key. -/
theorem verifyResponse_accept (h : crates.HeaderLaws) {accept : Bytes}
    (hvalues : ∀ header, (values headers header).Perm (valuesOf (acceptFields accept) header))
    (data : VerifyData) (body : Option Bytes) :
    data.verifyResponse ⟨.switchingProtocols, .http11, headers, body⟩ =
        .ok (⟨.switchingProtocols, .http11, headers, body⟩ : ClientResponse crates) ↔
      data.acceptKey = accept := by
  have honly : ∀ header value, valuesOf (acceptFields accept) header = [value] →
      values headers header = [value] := fun header value heq ↦
    List.perm_singleton.1 (heq ▸ hvalues header)
  have hupgrade : textIs headers (Utf8.encode "Upgrade")
      (eqIgnoreAsciiCase · (Utf8.encode "websocket")) = true :=
    textIs_of_values h (honly _ (Utf8.encode "websocket") rfl) (visible_of_all (by decide)) _
  have hconnection : textIs headers (Utf8.encode "Connection")
      (eqIgnoreAsciiCase · (Utf8.encode "Upgrade")) = true :=
    textIs_of_values h (honly _ (Utf8.encode "Upgrade") rfl) (visible_of_all (by decide)) _
  have haccept : (crates.get headers (Utf8.encode "Sec-WebSocket-Accept")).map crates.asBytes =
      some accept := by
    rw [h.get_map, honly _ _ rfl]
    rfl
  rw [VerifyData.verifyResponse, if_neg (not_not.2 rfl), hupgrade, if_neg Bool.false_ne_true.symm,
    hconnection, if_neg Bool.false_ne_true.symm, haccept]
  constructor
  · intro h
    split at h
    · cases h
    · rename_i hkey
      exact (Option.some.inj (not_not.1 hkey)).symm
  · intro h
    rw [if_neg (not_not.2 (congrArg some h.symm))]

/-- **What a client and a server agree upon.**  The server reads the request, waits for a part of
it, and accepts it exactly if it asks for the upgrade.  The client reads the response, waits for a
part of it and verifies it; any other client does so exactly if it expects the same key. -/
structure Agreement (request : Request crates) (data : Bytes) (verify : VerifyData)
    (request' : Request crates) : Prop where
  read : ReadAs request request'
  parsed : ∀ tail, HttpRequest.tryParse crates (data ++ tail) = .ok (some (data.length, request'))
  waits : ∀ n < data.length, HttpRequest.tryParse crates (data.take n) = .ok none
  accepted : (∃ response, createResponse request' = .ok response) ↔ AsksForUpgrade request.headers
  answered : ∀ response, createResponse request' = .ok response → ∃ output response',
    writeResponse response = .ok output ∧
    (∀ tail, HttpResponse.tryParse crates (output ++ tail) =
      .ok (some (output.length, response'))) ∧
    (∀ n < output.length, HttpResponse.tryParse crates (output.take n) = .ok none) ∧
    ∀ other : VerifyData, other.verifyResponse response' = .ok response' ↔ other = verify

/-- What a client starts with. -/
theorem startData_eq {data : Bytes} {verify : VerifyData}
    (h : startData request = .ok (data, verify)) :
    ∃ key, generateRequest request = .ok (data, key) ∧ verify = ⟨deriveAcceptKey crates key⟩ := by
  rw [startData] at h
  split at h
  · cases h
  · split at h
    · cases h
    · cases huri : (uriMode request.uri : Except (Fault crates) Client.Mode) with
      | error e =>
          rw [huri] at h
          cases h
      | ok mode =>
          cases hgenerate : generateRequest request with
          | error e =>
              rw [huri, hgenerate] at h
              cases h
          | ok r =>
              rw [huri, hgenerate] at h
              cases h
              exact ⟨r.2, rfl, rfl⟩

theorem agreement_of_start (hlawful : crates.Lawful) (hclean : Clean request) {data : Bytes}
    {verify : VerifyData} (hstart : startData request = .ok (data, verify)) :
    ∃ request', Agreement request data verify request' := by
  have hlaws := hlawful.toHeaderLaws
  obtain ⟨key, hgenerate, rfl⟩ := startData_eq hstart
  obtain ⟨hwritable, path, hpath, rfl, rfl⟩ := (generateRequest_iff hlaws).1 hgenerate
  rw [hclean.version]
  obtain ⟨request', hread, hparsed, hwaits⟩ := tryParse_request hlawful hwritable hclean hpath
  obtain ⟨v, hget, hv⟩ := get_of_values hlaws (hread.necessary keyHeadername (by decide))
  obtain ⟨headers, hvalues, hiff⟩ := createResponse_iff hlawful hread.method hread.version hget
  refine ⟨request', hread, hparsed, hwaits, ?_, fun response hresponse ↦ ?_⟩
  · rw [← hread.asksForUpgrade hlaws hwritable]
    exact ⟨fun h ↦ ((hiff _).1 h.choose_spec).1, fun h ↦ ⟨_, (hiff _).2 ⟨h, rfl⟩⟩⟩
  · obtain ⟨-, rfl⟩ := (hiff response).1 hresponse
    have hfields : ∀ f ∈ acceptFields (deriveAcceptKey crates (crates.asBytes v)),
        (∀ b ∈ f.2, 32 ≤ b ∧ b < 127) ∧ Trimmed f.2 := by
      simp only [acceptFields, List.forall_mem_cons]
      exact ⟨⟨visible_of_all (by decide), by decide⟩, ⟨visible_of_all (by decide), by decide⟩,
        ⟨visible_of_le (hlawful.base64 _), trimmed_of_visible (hlawful.base64 _)⟩,
        fun f hf ↦ absurd hf List.not_mem_nil⟩
    obtain ⟨output, headers', hwrite, hsame, hparsed', hwaits'⟩ := tryParse_response hlawful
      (cleanResponse_of_fields hlaws hvalues (fun f hf ↦ (hfields f hf).1)
        (fun f hf ↦ (hfields f hf).2) (by change 3 ≤ maxHeaders; decide) .switchingProtocols ())
    refine ⟨output, _, hwrite, hparsed', hwaits', fun other ↦ ?_⟩
    rw [verifyResponse_accept hlaws (fun header ↦ hvalues header ▸ hsame header), hv]
    cases other
    exact ⟨fun h ↦ congrArg VerifyData.mk h, fun h ↦ congrArg VerifyData.acceptKey h⟩

/-- **An opening handshake.**  Of a clean request that a client starts with, in whatever pieces it
arrives. -/
theorem opening_agrees (hlawful : crates.Lawful) (hclean : Clean request) {data : Bytes}
    {verify : VerifyData} (hstart : startData request = .ok (data, verify)) :
    ∃ request', Agreement request data verify request' :=
  agreement_of_start hlawful hclean hstart

/-- A handshake with the key in the tests of the source. -/
theorem opening_agrees_sample :
    ∃ data request',
      startData plainRequest = .ok (data, ⟨Utf8.encode "s3pPLMBiTxaQ9kYGzzhZRbK+xOo="⟩) ∧
        Agreement plainRequest data ⟨Utf8.encode "s3pPLMBiTxaQ9kYGzzhZRbK+xOo="⟩ request' := by
  have hclean : Clean plainRequest := by
    refine ⟨rfl, ?_, by decide, by decide⟩
    rintro path hpath
    cases hpath
    decide
  obtain ⟨data, hstart⟩ : ∃ data, startData plainRequest =
      .ok (data, ⟨Utf8.encode "s3pPLMBiTxaQ9kYGzzhZRbK+xOo="⟩) := ⟨_, rfl⟩
  obtain ⟨request', h⟩ := opening_agrees lawful_plainCrates hclean hstart
  exact ⟨data, request', hstart, h⟩

/-! ## The request for a URL -/

/-- **A URL with which a client can start**: its mode is known, its host is visible, and it has a
path. -/
structure OpeningUri (crates : Crates) (uri : RequestUri) : Prop where
  mode : ∃ mode, (uriMode uri : Except (Fault crates) Client.Mode) = .ok mode
  host : ∃ authority, uri.authority = some authority ∧ hostOf authority ≠ [] ∧
    ∀ b ∈ hostOf authority, 33 ≤ b ∧ b < 127
  path : ∃ path, uri.pathAndQuery = some path ∧ Target path

/-- The headers of a request that is made for a host. -/
def uriFields (host key : Bytes) : List Head.Field :=
  [(Utf8.encode "Host", host), (Utf8.encode "Connection", Utf8.encode "Upgrade"),
    (Utf8.encode "Upgrade", Utf8.encode "websocket"),
    (Utf8.encode "Sec-WebSocket-Version", Utf8.encode "13"),
    (Utf8.encode "Sec-WebSocket-Key", key)]

/-- Nothing but the necessary headers is there. -/
theorem valuesOf_uriFields_other (host key : Bytes) (hheader : necessary header = false) :
    valuesOf (uriFields host key) header = [] := by
  rw [valuesOf, List.map_eq_nil_iff, List.filter_eq_nil_iff]
  intro f hf hlower
  have hname : f.1 ∈ websocketHeaders := by
    have hall : ∀ f ∈ uriFields host key, f.1 ∈ websocketHeaders := by
      simp only [uriFields, List.forall_mem_cons]
      exact ⟨by decide, by decide, by decide, by decide, by decide,
        fun f hf ↦ absurd hf List.not_mem_nil⟩
    exact hall f hf
  rw [necessary, List.any_eq_false] at hheader
  exact hheader f.1 hname hlower

/-- The request is written with the headers that were built. -/
theorem requestFields_of_values (h : crates.HeaderLaws) {host key : Bytes}
    (hvalues : ∀ header, values headers header = valuesOf (uriFields host key) header) :
    requestFields headers = uriFields host key := by
  have hothers : crates.iter (others headers) = [] := by
    refine List.eq_nil_iff_forall_not_mem.2 fun x hx ↦ ?_
    have hname := necessary_of_mem_others h hx
    have hmem : crates.asBytes x.2 ∈ values (others headers) (crates.asStr x.1) :=
      List.mem_map_of_mem (h.mem_getAll hx)
    rw [values_others h, hname, hvalues, valuesOf_uriFields_other host key hname] at hmem
    exact List.not_mem_nil hmem
  have hvalue : ∀ x, valueOf headers x = (valuesOf (uriFields host key) x).head?.getD [] := by
    intro x
    rw [valueOf, h.get_map, hvalues]
  rw [requestFields, otherFields, hothers, List.map_nil, List.append_nil, necessaryFields]
  simp only [hvalue]
  rfl

/-- The fields of the request can stand in a head, and are visible. -/
theorem fine_uriFields {host key : Bytes} (hhost : ∀ b ∈ host, 33 ≤ b ∧ b < 127)
    (hkey : ∀ b ∈ key, 33 ≤ b ∧ b < 127) :
    ∀ f ∈ uriFields host key, Token f.1 ∧ (∀ b ∈ f.2, 32 ≤ b ∧ b < 127) ∧ Trimmed f.2 := by
  simp only [uriFields, List.forall_mem_cons]
  exact ⟨⟨by decide, visible_of_le hhost, trimmed_of_visible hhost⟩,
    ⟨by decide, visible_of_all (by decide), by decide⟩,
    ⟨by decide, visible_of_all (by decide), by decide⟩,
    ⟨by decide, visible_of_all (by decide), by decide⟩,
    ⟨by decide, visible_of_le hkey, trimmed_of_visible hkey⟩,
    fun f hf ↦ absurd hf List.not_mem_nil⟩

/-- **The request that is made for a URL.** -/
theorem intoClientRequest_eq (h : crates.HeaderLaws) {uri : RequestUri} {authority key : Bytes}
    (hauthority : uri.authority = some authority) (hne : hostOf authority ≠ [])
    (hhost : ∀ b ∈ hostOf authority, 33 ≤ b ∧ b < 127) (hkey : ∀ b ∈ key, 33 ≤ b ∧ b < 127) :
    ∃ headers : crates.HeaderMap,
      uri.intoClientRequest crates key = .ok ⟨.get, uri, .http11, headers, ()⟩ ∧
      ∀ header, values headers header = valuesOf (uriFields (hostOf authority) key) header := by
  have hfields := fine_uriFields hhost hkey
  obtain ⟨headers, hbuild, hvalues⟩ := buildHeaders_eq h (fun f hf ↦ (hfields f hf).1)
    (fun f hf ↦ (hfields f hf).2.1) (by change 5 ≤ maxEntries; decide)
  refine ⟨headers, ?_, hvalues⟩
  rw [uriFields] at hbuild
  rw [RequestUri.intoClientRequest, hauthority]
  simp only [if_neg hne, hbuild]

/-- Such a request can be written. -/
theorem writable_of_uriFields (h : crates.HeaderLaws) {host key : Bytes}
    (hpath : request.uri.pathAndQuery = some path)
    (hvalues : ∀ header, values request.headers header = valuesOf (uriFields host key) header)
    (hvisible : ∀ f ∈ uriFields host key, ∀ b ∈ f.2, 32 ≤ b ∧ b < 127) : Writable request where
  path := by
    rw [hpath]
    rfl
  necessary x hx := by
    have hone : ∃ value, values request.headers x = [value] := by
      simp only [websocketHeaders, List.mem_cons, List.not_mem_nil, or_false] at hx
      rcases hx with rfl | rfl | rfl | rfl | rfl <;> exact ⟨_, hvalues _⟩
    obtain ⟨value, hvalue⟩ := hone
    obtain ⟨v, hget, -⟩ := get_of_values h hvalue
    refine ⟨v, hget, isSome_toStr_of_fields h hvalues hvisible
      (show v ∈ crates.getAll request.headers x from ?_)⟩
    rw [h.get] at hget
    exact List.mem_of_mem_head? hget
  others _ _ _ hv := isSome_toStr_of_fields h hvalues hvisible hv

/-- And it arrives as it is. -/
theorem clean_of_uriFields (h : crates.HeaderLaws) {host key : Bytes}
    (hversion : request.version = .http11) (hpath : request.uri.pathAndQuery = some path)
    (htarget : Target path)
    (hvalues : ∀ header, values request.headers header = valuesOf (uriFields host key) header)
    (htrimmed : ∀ f ∈ uriFields host key, Trimmed f.2) : Clean request where
  version := hversion
  path path' hpath' := by
    cases hpath.symm.trans hpath'
    exact htarget
  trimmed := by
    rw [requestFields_of_values h hvalues]
    exact htrimmed
  few := by
    rw [requestFields_of_values h hvalues]
    change 5 ≤ maxHeaders
    decide

/-- **Every such URL opens a handshake**: with the request that is made for it a client can start,
the server accepts it, and the client verifies the response. -/
theorem uri_opens (hlawful : crates.Lawful) {uri : RequestUri} (huri : OpeningUri crates uri)
    (random : Bytes) :
    ∃ request data verify request' response,
      uri.intoClientRequest crates (generateKey crates random) = .ok request ∧
      startData request = .ok (data, verify) ∧
      Agreement request data verify request' ∧
      createResponse request' = .ok response := by
  have hlaws := hlawful.toHeaderLaws
  obtain ⟨mode, hmode⟩ := huri.mode
  obtain ⟨authority, hauthority, hne, hhost⟩ := huri.host
  obtain ⟨path, hpath, htarget⟩ := huri.path
  have hfields := fine_uriFields hhost (hlawful.base64 random)
  obtain ⟨headers, hrequest, hvalues⟩ :=
    intoClientRequest_eq hlaws hauthority hne hhost (hlawful.base64 random)
  let request : Request crates := ⟨.get, uri, .http11, headers, ()⟩
  have hwritable : Writable request :=
    writable_of_uriFields hlaws hpath hvalues fun f hf ↦ (hfields f hf).2.1
  have hclean : Clean request :=
    clean_of_uriFields hlaws rfl hpath htarget hvalues fun f hf ↦ (hfields f hf).2.2
  have hstart : startData request =
      .ok (Head.write (requestLine crates path .http11) (requestFields headers),
        ⟨deriveAcceptKey crates (valueOf headers keyHeadername)⟩) := by
    rw [startData, if_neg (not_not.2 rfl), if_neg (Nat.lt_irrefl _), hmode,
      (generateRequest_iff hlaws).2 ⟨hwritable, path, hpath, rfl, rfl⟩]
    rfl
  obtain ⟨request', hagree⟩ := agreement_of_start hlawful hclean hstart
  have hasks : AsksForUpgrade headers :=
    ⟨textIs_of_values hlaws (hvalues (Utf8.encode "Connection")) (visible_of_all (by decide)) _,
      textIs_of_values hlaws (hvalues (Utf8.encode "Upgrade")) (visible_of_all (by decide)) _,
      by rw [hlaws.get_map, hvalues]; rfl⟩
  obtain ⟨response, hresponse⟩ := hagree.accepted.2 hasks
  exact ⟨_, _, _, request', response, hrequest, hstart, hagree, hresponse⟩

/-- The sixteen bytes of the key in the tests of the source. -/
def sampleNonce : Bytes := Utf8.encode "the sample nonce"

/-- A URL, under that key. -/
theorem uri_opens_sample :
    generateKey plainCrates sampleNonce = sampleKey ∧
      ∃ request data verify request' response,
        plainRequest.uri.intoClientRequest plainCrates (generateKey plainCrates sampleNonce) =
          .ok request ∧
        startData request = .ok (data, verify) ∧
        Agreement request data verify request' ∧
        createResponse request' = .ok response := by
  have hall : (Utf8.encode "localhost").all (fun b ↦ decide (33 ≤ b ∧ b < 127)) = true := by decide
  have hhost : ∀ b ∈ hostOf (Utf8.encode "localhost"), 33 ≤ b ∧ b < 127 :=
    fun b hb ↦ of_decide_eq_true (List.all_eq_true.1 hall b hb)
  exact ⟨by decide, uri_opens lawful_plainCrates
    ⟨⟨.plain, rfl⟩, ⟨Utf8.encode "localhost", rfl, by decide, hhost⟩,
      ⟨Utf8.encode "/chat", rfl, by decide⟩⟩ sampleNonce⟩

/-! ## Refusal -/

section Refusal

variable {failure : Fault crates → Failure}
  {callback : Request crates → Response crates → Except (ErrorResponse crates) (Response crates)}
  {config : Option WebSocketConfig} {response : Response crates} {refusal : ErrorResponse crates}

/-- What a server does whose callback refuses: a refusal that is a success is not written. -/
theorem stageFinished_refuses (hcreate : createResponse request = .ok response)
    (hcallback : callback request response = .error refusal) (stream : Socket) :
    (server failure callback config).stageFinished (.doneReading request stream []) =
      if crates.isSuccess refusal.status then .error .customResponseSuccessful
      else ((writeErrorResponse refusal).mapError failure).map fun output ↦
        (.«continue» (.startWrite stream output), ⟨http failure, none, config, some refusal⟩) := by
  have hcreate' : (server failure callback config).http.createResponse request = .ok response := by
    change (createResponse request).mapError failure = _
    rw [hcreate]
    rfl
  have hrefuses : (server failure callback config).onRequest request response = .error refusal :=
    hcallback
  have hwrite : (server failure callback config).http.writeErrorResponse refusal =
      (writeErrorResponse refusal).mapError failure := rfl
  rw [ServerHandshake.stageFinished, if_neg (not_not.2 rfl), hcreate']
  simp only [bind, Except.bind, pure, Except.pure, hrefuses, hwrite]
  change (if crates.isSuccess refusal.status = true then _ else _) = _
  split
  · rfl
  · cases (writeErrorResponse refusal).mapError failure <;> rfl

/-- **A server that refuses is heard.**  It writes a head and the body; the client waits for the
head, and then reports the same status, the same values for each header and for a body what is
behind the head.  Only a refusal that is a success is not written. -/
theorem refusal_arrives (hlawful : crates.Lawful) (hcreate : createResponse request = .ok response)
    (hcallback : callback request response = .error refusal) (hclean : CleanResponse refusal)
    (hstatus : refusal.status.code ≠ StatusCode.switchingProtocols.code) (stream : Socket) :
    (crates.isSuccess refusal.status = true →
      (server failure callback config).stageFinished (.doneReading request stream []) =
        .error .customResponseSuccessful) ∧
    (crates.isSuccess refusal.status = false → ∃ head received role,
      (server failure callback config).stageFinished (.doneReading request stream []) =
        .ok (.«continue» (.startWrite stream (head ++ refusal.body.getD [])), role) ∧
      received.status = refusal.status ∧
      (∀ header, (values received.headers header).Perm (values refusal.headers header)) ∧
      (∀ n < head.length, HttpResponse.tryParse crates (head.take n) = .ok none) ∧
      (∀ tail, HttpResponse.tryParse crates (head ++ tail) = .ok (some (head.length, received))) ∧
      ∀ (verify : VerifyData) (tail : Bytes),
        verify.receive received tail = .error (.http { received with body := some tail })) := by
  rw [stageFinished_refuses hcreate hcallback]
  refine ⟨fun hsuccess ↦ if_pos hsuccess, fun hsuccess ↦ ?_⟩
  obtain ⟨head, headers, hwrite, hvalues, hparsed, hwaits⟩ := tryParse_response hlawful hclean
  refine ⟨head, ⟨refusal.status, .http11, headers, none⟩,
    ⟨http failure, none, config, some refusal⟩,
    ?_, rfl, hvalues, hwaits, hparsed, fun verify tail ↦ ?_⟩
  · rw [if_neg (Bool.eq_false_iff.1 hsuccess), writeErrorResponse, hwrite]
    rfl
  · rw [VerifyData.receive, VerifyData.verifyResponse, if_pos hstatus]

end Refusal

theorem bytes_of_mem_plainMap {x : PlainName × PlainValue} (hx : x ∈ plainMap fields) :
    ∃ f ∈ fields, x.2.bytes = f.2 := by
  obtain ⟨f, hf, heq⟩ := List.mem_filterMap.1 hx
  obtain ⟨name, -, heq⟩ := Option.bind_eq_some_iff.1 heq
  obtain ⟨value, hvalue, heq⟩ := Option.bind_eq_some_iff.1 heq
  cases heq
  refine ⟨f, hf, ?_⟩
  change (if h : f.2.all isValueByte = true then some (⟨f.2, h⟩ : PlainValue) else none) = _
    at hvalue
  split at hvalue
  · cases hvalue
    rfl
  · cases hvalue

/-- A server that does not know a path. -/
def notFound : ErrorResponse plainCrates where
  status := ⟨404, by decide⟩
  version := .http11
  headers := plainMap [(Utf8.encode "Origin", Utf8.encode "localhost")]
  body := some (Utf8.encode "no chat here")

/-- A server that lets everyone in but those without an origin. -/
def needsOrigin (request : Request plainCrates) (response : Response plainCrates) :
    Except (ErrorResponse plainCrates) (Response plainCrates) :=
  if (plainCrates.get request.headers (Utf8.encode "Origin")).isSome then .ok response
  else .error notFound

/-- A request without an origin. -/
def withoutOrigin : Request plainCrates :=
  { plainRequest with headers := (PlainMap.remove plainRequest.headers (Utf8.encode "Origin")).2 }

/-- The response to it, if it were let in. -/
theorem createResponse_withoutOrigin : ∃ response, createResponse withoutOrigin = .ok response :=
  ⟨_, rfl⟩

/-- A refusal over a stream that has taken nothing yet. -/
theorem refusal_arrives_notFound : ∃ head received role,
    (server (fun _ ↦ .httpFormat) needsOrigin none).stageFinished
        (.doneReading withoutOrigin (.new ⟨[], [], [], []⟩) []) =
      .ok (.«continue» (.startWrite (.new ⟨[], [], [], []⟩)
        (head ++ Utf8.encode "no chat here")), role) ∧
      received.status = notFound.status ∧
      (∀ header, (values received.headers header).Perm (values notFound.headers header)) ∧
      (∀ n < head.length, HttpResponse.tryParse plainCrates (head.take n) = .ok none) ∧
      (∀ tail, HttpResponse.tryParse plainCrates (head ++ tail) =
        .ok (some (head.length, received))) ∧
      ∀ (verify : VerifyData) (tail : Bytes),
        verify.receive received tail = .error (.http { received with body := some tail }) := by
  have hbytes : ∀ header, ∀ v ∈ plainCrates.getAll notFound.headers header,
      plainCrates.asBytes v = Utf8.encode "localhost" := by
    intro header v hv
    obtain ⟨x, hx, rfl⟩ := List.mem_map.1 hv
    obtain ⟨f, hf, heq⟩ := bytes_of_mem_plainMap (List.mem_filter.1 hx).1
    rw [List.mem_singleton.1 hf] at heq
    exact heq
  have hclean : CleanResponse notFound := by
    refine ⟨rfl, fun header v hv ↦ ?_, fun header v hv ↦ ?_, by decide⟩
    · rw [headerLaws_plainCrates.visible v (hbytes header v hv ▸ visible_of_all (by decide))]
      rfl
    · rw [hbytes header v hv]
      decide
  obtain ⟨response, hresponse⟩ := createResponse_withoutOrigin
  exact (refusal_arrives lawful_plainCrates hresponse rfl hclean (by decide)
    (.new ⟨[], [], [], []⟩)).2 rfl

end Opening

end Ws

end MessageIo
