import BatchExchange.Proofs.Outcome
import BatchExchange.Proofs.Written
import BatchExchange.Response.Reader
import BatchExchange.Response.Writer

/-!
# A written response is read back

A response is written as a header block of its part, a status line, a header block of its own and its body.
Reading it gives status and body back, each header under its joined value, the length of the body as content
length and the Content-ID of the part behind all other headers.

* `Response.Fits`: what the headers and the body of a response must be like.
* `Response.ReadAs`: what a client reads where a response was written.
* `Response.write_eq`: a response is written as a message.
* `Response.readPart_written`, `Response.readMember_written`: reading it.
* `Response.ReadAs.write_eq`: what was read is written as it was.
-/

namespace BatchExchange.Response

open Line (raw split IsOneLine)

/-- A response that can be told from the lines around it: its headers are written on a line each, no line of
its body is a delimiter, and the length of its body can be stated. -/
structure Fits (boundaries : List Text) (r : Response) : Prop where
  headers : ∀ f ∈ r.headers.fields, HeaderBlock.IsWritable f.name f.value
  body : ∀ b ∈ boundaries, Segment.Avoids b (r.body ++ crlf)
  length : r.body.length < ContentLength.bound

instance (boundaries : List Text) (r : Response) : Decidable (r.Fits boundaries) :=
  decidable_of_iff
    ((∀ f ∈ r.headers.fields, HeaderBlock.IsWritable f.name f.value) ∧
      (∀ b ∈ boundaries, Segment.Avoids b (r.body ++ crlf)) ∧ r.body.length < ContentLength.bound)
    ⟨fun ⟨h1, h2, h3⟩ => ⟨h1, h2, h3⟩, fun ⟨h1, h2, h3⟩ => ⟨h1, h2, h3⟩⟩

/-- What a client reads where `r` was written.  Repeated values come joined, the content length is that of
the body, and Content-ID stands last. -/
structure ReadAs (r r' : Response) : Prop where
  status : r'.status = r.status
  body : r'.body = r.body
  fields : r'.headers.fields.map (fun f => (f.name, f.values))
    = r.ownFields.map (fun f => (f.name, [f.value]))
      ++ (HeaderName.contentLength, [Decimal.write r.body.length])
      :: (r.contentId?.map fun id => (HeaderName.contentId, [id])).toList
  values : ∀ name, name.foldCase ≠ HeaderName.contentLength.foldCase →
    r'.headers.value? name = r.headers.value? name

/-- The headers of the part that holds a response. -/
def partHeaders (r : Response) : List (Text × Text) :=
  [(HeaderName.contentType, "application/http".toList),
    (HeaderName.contentTransferEncoding, "binary".toList)]
    ++ (r.contentId?.map fun id => (HeaderName.contentIdOfPart, id)).toList

/-- The headers that are written with the response itself. -/
def messageHeaders (r : Response) : List (Text × Text) :=
  r.ownFields.map (fun f => (f.name, f.value))
    ++ [(HeaderName.contentLength, Decimal.write r.body.length)]

/-- A response as it is written. -/
def message (r : Response) : Message where
  part := partHeaders r
  start := statusLine r
  headers := messageHeaders r
  body := r.body

theorem writePartHeaders_eq (r : Response) :
    writePartHeaders r = HeaderBlock.write (partHeaders r) := by
  rw [writePartHeaders, partHeaders, HeaderBlock.write]
  cases r.contentId? <;> simp

theorem write_eq (r : Response) : write r = (message r).write := by
  rw [write, writePartHeaders_eq, message, Message.write, messageHeaders, HeaderBlock.write,
    HeaderBlock.write, List.flatMap_append, List.flatMap_map]
  simp

/-! ### The status line -/

theorem isOneLine_reason (status : UInt16) : IsOneLine (Status.reason status) := by
  have listed : ∀ p ∈ Status.registered, IsOneLine p.2.toList := by decide +kernel
  rw [Status.reason]
  cases h : Status.registered.lookup status with
  | none => exact ⟨List.not_mem_nil, List.not_mem_nil⟩
  | some reason =>
    obtain ⟨s, t, hst, -⟩ := List.lookup_eq_some_iff.1 h
    exact listed (status, reason) (by rw [hst]; simp)

theorem isOneLine_write (n : Nat) : IsOneLine (Decimal.write n) :=
  ⟨fun h => absurd (Decimal.isDigit_of_mem_write h) (by decide),
    fun h => absurd (Decimal.isDigit_of_mem_write h) (by decide)⟩

/-- A status line is its status and, behind a space, the reason if there is one. -/
theorem statusLine_eq (r : Response) :
    ∃ tail, statusLine r = "HTTP/1.1".toList ++ ' ' :: (Decimal.write r.status.toNat ++ tail)
      ∧ tail <+: ' ' :: r.reason := by
  have hne := Decimal.write_ne_nil r.status.toNat
  have hdigit := fun c hc => Decimal.isDigit_of_mem_write (n := r.status.toNat) (c := c) hc
  rw [statusLine]
  generalize Decimal.write r.status.toNat = code at hne hdigit ⊢
  rcases List.eq_nil_or_concat' code with rfl | ⟨init, d, rfl⟩
  · exact absurd rfl hne
  · have hd : Text.isBlank d = false := Decimal.isBlank_of_isDigit (hdigit d (by simp))
    refine ⟨Text.trimEnd (' ' :: r.reason), ?_, dropTail_isPrefix _ _⟩
    have hassoc : "HTTP/1.1 ".toList ++ (init ++ [d]) ++ ' ' :: r.reason
        = ("HTTP/1.1 ".toList ++ init) ++ d :: ' ' :: r.reason := by simp
    rw [hassoc, Text.trimEnd, dropTail_append hd]
    simp [Text.trimEnd]

theorem isOneLine_statusLine (r : Response) : IsOneLine (statusLine r) := by
  obtain ⟨tail, hline, htail⟩ := statusLine_eq r
  have hreason : IsOneLine (' ' :: r.reason) :=
    IsOneLine.append (s := [' ']) (by decide) (isOneLine_reason r.status)
  have : IsOneLine tail :=
    ⟨fun h => hreason.1 (htail.subset h), fun h => hreason.2 (htail.subset h)⟩
  rw [hline, show "HTTP/1.1".toList ++ ' ' :: (Decimal.write r.status.toNat ++ tail)
    = "HTTP/1.1 ".toList ++ (Decimal.write r.status.toNat ++ tail) from rfl]
  exact IsOneLine.append (by decide) ((isOneLine_write _).append this)

theorem after?_hyphens_statusLine (r : Response) : after? "--".toList (statusLine r) = none := by
  obtain ⟨tail, hline, -⟩ := statusLine_eq r
  rw [hline]
  rfl

theorem isBlank_statusLine {l : Line} {r : Response} (hl : l.content = Utf8.encode (statusLine r)) :
    l.isBlank = false := by
  obtain ⟨tail, hline, -⟩ := statusLine_eq r
  rw [Line.isBlank, hl, hline]
  rfl

theorem readStatus_written {l : Line} {r : Response} (hl : l.text = statusLine r) :
    readStatus l = .ok r.status := by
  obtain ⟨tail, hline, htail⟩ := statusLine_eq r
  have htrim : Text.trimEnd l.text = statusLine r := by
    rw [hl, statusLine, Text.trimEnd_trimEnd]
  have hcut : cut? ' ' (statusLine r)
      = some ("HTTP/1.1".toList, Decimal.write r.status.toNat ++ tail) :=
    cut?_eq_some_iff.2 ⟨hline, by decide⟩
  have hcode : (Decimal.write r.status.toNat ++ tail).takeWhile (· ≠ ' ')
      = Decimal.write r.status.toNat := by
    have hdigit : ∀ c ∈ Decimal.write r.status.toNat, decide (c ≠ ' ') = true := by
      intro c hc
      rw [decide_eq_true_eq]
      rintro rfl
      exact absurd (Decimal.isDigit_of_mem_write hc) (by decide)
    rw [List.takeWhile_append_of_pos hdigit]
    cases tail with
    | nil => simp
    | cons c tail =>
      have hc : c = ' ' := (List.cons_prefix_cons.1 htail).1
      simp [hc]
  have hread : Decimal.read? 65536 (Decimal.write r.status.toNat) = some r.status.toNat :=
    Decimal.read?_write r.status.toNat_lt
  have hversion : (after? "HTTP/".toList "HTTP/1.1".toList).isSome := by decide
  simp only [readStatus, htrim, hcut, Option.bind_eq_bind, Option.bind_some, hcode, hread,
    hversion, if_true, UInt16.ofNat_toNat]

/-! ### The message -/

section Message

variable {boundaries : List Text} {r : Response} (h : r.Fits boundaries)

include h

theorem isWritable_contentId {id : Text} (hid : r.contentId? = some id) :
    HeaderBlock.IsWritable HeaderName.contentIdOfPart id := by
  rw [contentId?, Headers.value?, Option.map_eq_some_iff] at hid
  obtain ⟨f, hf, rfl⟩ := hid
  have hw := h.headers f (Headers.mem_of_get? hf)
  exact ⟨by decide, by decide, hw.oneLine, hw.trimmed⟩

theorem isWritable_partHeaders : ∀ p ∈ partHeaders r, HeaderBlock.IsWritable p.1 p.2 := by
  intro p hp
  rw [partHeaders, List.mem_append] at hp
  rcases hp with hp | hp
  · have fixed : ∀ p ∈ [(HeaderName.contentType, "application/http".toList),
        (HeaderName.contentTransferEncoding, "binary".toList)],
        HeaderBlock.IsWritable p.1 p.2 := by decide
    exact fixed p hp
  · rw [Option.mem_toList, Option.map_eq_some_iff] at hp
    obtain ⟨id, hid, rfl⟩ := hp
    exact isWritable_contentId h hid

theorem isWritable_messageHeaders : ∀ p ∈ messageHeaders r, HeaderBlock.IsWritable p.1 p.2 := by
  intro p hp
  rw [messageHeaders, List.mem_append, List.mem_map, List.mem_singleton] at hp
  rcases hp with ⟨f, hf, rfl⟩ | rfl
  · exact h.headers f (List.mem_of_mem_filter hf)
  · have hname : HeaderBlock.isName HeaderName.contentLength := by decide
    have hhyphens : after? "--".toList HeaderName.contentLength = none := by decide
    exact ⟨hname, hhyphens, isOneLine_write _, Decimal.trim_write _⟩

theorem fits_message : (message r).Fits boundaries where
  part := isWritable_partHeaders h
  oneLine := isOneLine_statusLine r
  hyphens := after?_hyphens_statusLine r
  headers := isWritable_messageHeaders h
  body := h.body

end Message

/-! ### What is read -/

theorem get?_ownFields {r : Response} {name : Text}
    (hname : name.foldCase ≠ HeaderName.contentId.foldCase)
    (hlength : name.foldCase ≠ HeaderName.contentLength.foldCase) :
    r.ownFields.find? (Field.named name) = r.headers.get? name := by
  rw [ownFields, List.find?_filter, Headers.get?]
  congr 1
  funext f
  by_cases hf : f.named name
  · rw [Field.named_iff] at hf
    simp [Field.named, hf, hname, hlength]
  · simp [hf]

theorem key_of_mem_ownFields {r : Response} {f : Field} (hf : f ∈ r.ownFields) :
    f.key ≠ HeaderName.contentId.foldCase ∧ f.key ≠ HeaderName.contentLength.foldCase := by
  rw [ownFields, List.mem_filter, Bool.and_eq_true, Bool.not_eq_true', Bool.not_eq_true',
    ← Bool.not_eq_true, ← Bool.not_eq_true, Field.named_iff, Field.named_iff] at hf
  exact hf.2

/-- The fields that are written for themselves are not among the others. -/
theorem find?_ownFields_eq_none (r : Response) {name : Text}
    (h : name.foldCase = HeaderName.contentId.foldCase ∨
      name.foldCase = HeaderName.contentLength.foldCase) :
    r.ownFields.find? (Field.named name) = none := by
  rw [List.find?_eq_none]
  intro f hf hn
  have hkey : f.key = name.foldCase := Field.named_iff.1 hn
  rcases h with h | h
  · exact (key_of_mem_ownFields hf).1 (hkey.trans h)
  · exact (key_of_mem_ownFields hf).2 (hkey.trans h)

theorem distinct_messageHeaders (r : Response) :
    ((messageHeaders r).map fun p => p.1.foldCase).Nodup := by
  rw [messageHeaders, List.map_append, List.map_map, List.nodup_append]
  refine ⟨r.headers.distinct.sublist (List.filter_sublist.map Field.key), by simp, ?_⟩
  intro k hk k' hk' hkk
  obtain ⟨f, hf, rfl⟩ := List.mem_map.1 hk
  rw [List.map_singleton, List.mem_singleton] at hk'
  exact (key_of_mem_ownFields hf).2 (hkk.trans hk')

section Read

variable {r : Response} {headers : Headers}
  (h : headers.unplaced = Headers.ofList (messageHeaders r))

include h

theorem fields_of_messageHeaders :
    headers.fields.map Field.unplaced
      = (messageHeaders r).map fun p => { name := p.1, first := p.2 } := by
  rw [← Headers.fields_ofList (distinct_messageHeaders r), ← h]
  rfl

/-- The header block of a written response answers as the response does. -/
theorem get?_of_messageHeaders (name : Text) :
    (headers.get? name).map Field.unplaced
      = if name.foldCase = HeaderName.contentLength.foldCase then
          some { name := HeaderName.contentLength, first := Decimal.write r.body.length }
        else if name.foldCase = HeaderName.contentId.foldCase then none
        else (r.headers.get? name).map fun f => { name := f.name, first := f.value } := by
  have hfind : (headers.get? name).map Field.unplaced
      = (headers.fields.map Field.unplaced).find? (Field.named name) := by
    rw [List.find?_map]
    rfl
  rw [hfind, fields_of_messageHeaders h, messageHeaders, List.map_append, List.map_map,
    List.find?_append, List.find?_map]
  show ((r.ownFields.find? (Field.named name)).map fun f => { name := f.name, first := f.value }).or
    ([{ name := HeaderName.contentLength, first := Decimal.write r.body.length }].find?
      (Field.named name)) = _
  by_cases hlength : name.foldCase = HeaderName.contentLength.foldCase
  · have hname : Field.named name
        { name := HeaderName.contentLength, first := Decimal.write r.body.length } :=
      Field.named_iff.2 hlength.symm
    rw [if_pos hlength, find?_ownFields_eq_none r (.inr hlength), List.find?_cons_of_pos hname]
    rfl
  · have hname : ¬Field.named name
        { name := HeaderName.contentLength, first := Decimal.write r.body.length } :=
      fun hn => hlength (Field.named_iff.1 hn).symm
    rw [if_neg hlength, List.find?_cons_of_neg hname, List.find?_nil, Option.or_none]
    by_cases hid : name.foldCase = HeaderName.contentId.foldCase
    · rw [if_pos hid, find?_ownFields_eq_none r (.inl hid)]
      rfl
    · rw [if_neg hid, get?_ownFields hid hlength]

theorem value?_of_messageHeaders {name : Text}
    (hlength : name.foldCase ≠ HeaderName.contentLength.foldCase)
    (hid : name.foldCase ≠ HeaderName.contentId.foldCase) :
    headers.value? name = r.headers.value? name := by
  rw [← Headers.value?_unplaced, Headers.value?, Headers.get?_unplaced, get?_of_messageHeaders h,
    if_neg hlength, if_neg hid, Option.map_map, Headers.value?]
  congr 1
  funext f
  exact Field.value_of_single f.name f.value 0

theorem get?_contentId_of_messageHeaders : headers.get? HeaderName.contentId = none := by
  have hget := get?_of_messageHeaders h HeaderName.contentId
  rwa [if_neg (by decide), if_pos rfl, Option.map_eq_none_iff] at hget

theorem values_of_messageHeaders :
    headers.fields.map (fun f => (f.name, f.values))
      = r.ownFields.map (fun f => (f.name, [f.value]))
        ++ [(HeaderName.contentLength, [Decimal.write r.body.length])] := by
  have hfields := congrArg (List.map fun f : Field => (f.name, f.values)) (fields_of_messageHeaders h)
  rw [List.map_map, messageHeaders, List.map_map, List.map_append, List.map_map] at hfields
  exact hfields

end Read

theorem value?_partHeaders (r : Response) :
    (Headers.ofList (partHeaders r)).value? HeaderName.contentId = r.contentId? := by
  rw [partHeaders]
  cases r.contentId? with
  | none => rfl
  | some id => exact congrArg some (Field.value_of_single HeaderName.contentIdOfPart id 0)

theorem nested?_partHeaders {r : Response} {mime : Headers}
    (hm : mime.unplaced = Headers.ofList (partHeaders r)) : nested? mime = none := by
  have hf : (mime.get? HeaderName.contentType).map Field.unplaced
      = some { name := HeaderName.contentType, first := "application/http".toList } := by
    rw [← Headers.get?_unplaced, hm, partHeaders]
    cases r.contentId? <;> rfl
  obtain ⟨f, hget, hplace⟩ := Option.map_eq_some_iff.1 hf
  rw [nested?, hget, Option.bind_some, ← Field.value_unplaced, hplace]
  rfl

theorem bodyOctets_written {r : Response} {headers : Headers}
    (hh : headers.unplaced = Headers.ofList (messageHeaders r))
    (hlength : r.body.length < ContentLength.bound) {lines : List Line}
    (hl : lines.map raw = split (r.body ++ crlf)) :
    bodyOctets headers (Segment.trimEnding lines) = .ok r.body := by
  have hf := get?_of_messageHeaders hh HeaderName.contentLength
  rw [if_pos rfl] at hf
  obtain ⟨f, hget, hplace⟩ := Option.map_eq_some_iff.1 hf
  have hstated : ContentLength.ofField? f = some r.body.length := by
    show ContentLength.ofField? f.unplaced = _
    rw [hplace]
    exact ContentLength.ofField?_write hlength _
  rw [bodyOctets, hget, Segment.join_trimEnding hl]
  simp [hstated, Option.filter]

/-- With the Content-ID of its part a response answers as it did before it was written. -/
theorem readAs_of_messageHeaders {r : Response} {headers : Headers}
    (hh : headers.unplaced = Headers.ofList (messageHeaders r)) :
    ReadAs r { status := r.status, body := r.body, headers := match r.contentId? with
      | none => headers
      | some id => headers.set HeaderName.contentId id } := by
  have hnone := get?_contentId_of_messageHeaders hh
  cases hid : r.contentId? with
  | none =>
    refine ⟨rfl, rfl, by rw [values_of_messageHeaders hh, hid]; rfl, ?_⟩
    intro name hlength
    by_cases hname : name.foldCase = HeaderName.contentId.foldCase
    · rw [Headers.value?, Headers.value?, headers.get?_congr hname, hnone, r.headers.get?_congr hname,
        ← Headers.value?, ← contentId?, hid]
      rfl
    · exact value?_of_messageHeaders hh hlength hname
  | some id =>
    refine ⟨rfl, rfl, ?_, ?_⟩
    · show (headers.set HeaderName.contentId id).fields.map _ = _
      rw [Headers.set, Headers.fields_put_of_none hnone, List.map_append,
        values_of_messageHeaders hh, hid, List.append_assoc]
      rfl
    · intro name hlength
      show (headers.set HeaderName.contentId id).value? name = _
      rw [Headers.value?, Headers.get?_set]
      by_cases hname : HeaderName.contentId.foldCase = name.foldCase
      · rw [if_pos hname, Option.map_some, Field.value_of_single, Headers.value?,
          r.headers.get?_congr hname.symm, ← Headers.value?, ← contentId?, hid]
      · rw [if_neg hname, ← Headers.value?]
        exact value?_of_messageHeaders hh hlength fun hn => hname hn.symm

section Written

variable {boundaries : List Text} {r : Response} (h : r.Fits boundaries)

include h

/-- Behind the header block of its part, a written response is read back. -/
theorem read_written {lines : List Line} (hl : lines.map raw = split (write r)) (context : Nat) :
    ∃ mime rest r', HeaderBlock.read false context (Segment.trimEnding lines) = .ok (mime, rest) ∧
      mime.unplaced = Headers.ofList (partHeaders r) ∧ readAfter mime rest = .ok r' ∧ ReadAs r r' := by
  rw [write_eq] at hl
  obtain ⟨mime, start, rest, hmime, hm, hstart, headers, body, hread, hh, hbody⟩ :=
    Message.read_write (fits_message h) hl false context
  have hid : mime.value? HeaderName.contentId = r.contentId? := by
    rw [← Headers.value?_unplaced, hm]
    exact value?_partHeaders r
  refine ⟨mime, start :: rest, _, hmime, hm, ?_, readAs_of_messageHeaders hh⟩
  rw [readAfter, List.dropWhile_cons, isBlank_statusLine (congrArg Prod.fst hstart)]
  refine Outcome.bind_eq_ok.2 ⟨_, readStatus_written (Line.text_of_raw hstart), ?_⟩
  refine Outcome.bind_eq_ok.2 ⟨_, hread, ?_⟩
  refine Outcome.bind_eq_ok.2 ⟨_, bodyOctets_written hh h.length hbody, ?_⟩
  rw [hid]
  rfl

/-- **A written member of a change set is read back.** -/
theorem readMember_written {lines : List Line} (hl : lines.map raw = split (write r))
    (context : Nat) :
    ∃ r', readMember context (Segment.trimEnding lines) = .ok r' ∧ ReadAs r r' := by
  obtain ⟨mime, rest, r', hread, -, hr', has⟩ :=
    read_written h hl (Line.firstNumber context (Segment.trimEnding lines))
  exact ⟨r', Outcome.bind_eq_ok.2 ⟨_, hread, hr'⟩, has⟩

/-- **A written response that stands alone is read back.** -/
theorem readPart_written {lines : List Line} (hl : lines.map raw = split (write r)) :
    ∃ r', readPart (Segment.trimEnding lines) = .ok (.single r') ∧ ReadAs r r' := by
  obtain ⟨mime, rest, r', hread, hm, hr', has⟩ :=
    read_written h hl (Line.firstNumber 1 (Segment.trimEnding lines))
  refine ⟨r', Outcome.bind_eq_ok.2 ⟨_, hread, ?_⟩, has⟩
  simp only [nested?_partHeaders hm]
  exact Outcome.bind_eq_ok.2 ⟨r', hr', rfl⟩

end Written

/-! ### Writing what was read -/

theorem named_ownFields (r : Response) :
    r.ownFields.map (fun f => (f.name, f.value))
      = ((r.headers.fields.map fun f => (f.name, f.values)).filter fun p =>
          !(p.1.foldCase == HeaderName.contentId.foldCase)
            && !(p.1.foldCase == HeaderName.contentLength.foldCase)).map
          fun p => (p.1, ", ".toList.intercalate p.2) := by
  rw [List.filter_map, List.map_map]
  rfl

/-- **What was read is written as it was.** -/
theorem ReadAs.write_eq {r r' : Response} (h : ReadAs r r') : write r' = write r := by
  have hid : r'.contentId? = r.contentId? := h.values HeaderName.contentId (by decide)
  have hown : r'.ownFields.map (fun f => (f.name, f.value))
      = r.ownFields.map fun f => (f.name, f.value) := by
    have own : ∀ p ∈ r.ownFields.map (fun f => (f.name, [f.value])),
        (!(p.1.foldCase == HeaderName.contentId.foldCase)
          && !(p.1.foldCase == HeaderName.contentLength.foldCase)) = true := by
      intro p hp
      obtain ⟨f, hf, rfl⟩ := List.mem_map.1 hp
      simpa [Field.key] using key_of_mem_ownFields hf
    rw [named_ownFields r', h.fields, List.filter_append, List.filter_eq_self.2 own]
    cases r.contentId? <;> simp
  have hstatus : statusLine r' = statusLine r := by
    rw [statusLine, statusLine, reason, reason, h.status]
  rw [Response.write_eq, Response.write_eq, message, message, partHeaders, partHeaders, messageHeaders,
    messageHeaders, hid, hown, hstatus, h.body]

end BatchExchange.Response
