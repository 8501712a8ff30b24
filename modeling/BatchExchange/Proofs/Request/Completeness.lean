import BatchExchange.Proofs.BodyPart
import BatchExchange.Proofs.Request.Acceptance
import BatchExchange.Proofs.Request.Draft

/-!
# Batches of well-formed requests are accepted

A batch of drafts is read, strictly and leniently, as the requests that the drafts stand for: none is lost,
doubled, moved or refused, whatever octets their bodies hold.

* `Draft.request_found`: the operation found of a draft is accepted.
* `DraftSet.members_found`: so are the members of a change set with their Content-IDs.
* `Request.readBatch_drafts`: so is a batch, whatever stands in front of it and behind it.
-/

namespace BatchExchange

open Line (raw split IsWhole)
open Segment (Avoids frame trimEnding)
open Headers (given)

namespace Draft

/-! ### The operation of a draft -/

theorem checkContentType_found {d : Draft} {e : Embedded} (he : d.Found e) {v : Text}
    (hv : given d.mime HeaderName.contentType = [v]) (hhttp : MediaType.isHttp v) :
    Acceptance.checkContentType MediaType.isHttp e.mime = .ok () := by
  obtain ⟨f, hf, hfirst, hothers⟩ := Headers.get?_of_given he.mime hv
  refine Acceptance.checkContentType_eq_ok_iff.2 ⟨f, hf, ?_⟩
  rw [Field.value_of_others_nil hothers, hfirst, hhttp]

theorem checkTransferEncoding_found {d : Draft} {e : Embedded} (he : d.Found e) {v : Text}
    (hv : given d.mime HeaderName.contentTransferEncoding = [v]) (hbinary : MediaType.isBinary v) :
    Acceptance.checkTransferEncoding e.mime = .ok () := by
  obtain ⟨f, hf, hfirst, hothers⟩ := Headers.get?_of_given he.mime hv
  refine Acceptance.checkTransferEncoding_eq_ok_iff.2 ⟨f, hf, ?_⟩
  rw [Field.value_of_others_nil hothers, hfirst, hbinary]

theorem contentIdField_found {h : Headers} {pairs : List (Text × Text)}
    (hh : h.unplaced = Headers.ofList pairs) {id : Text} (hid : id? pairs = some id) :
    ∃ f, Acceptance.contentIdField h = .ok (some (f, id)) ∧
      (Headers.ofList pairs).get? HeaderName.contentId = some f.unplaced := by
  rw [id?] at hid
  split at hid
  · rename_i v hv
    split at hid
    · cases hid
    · rename_i hcomma
      cases hid
      obtain ⟨f, hf, hfirst, hothers⟩ := Headers.get?_of_given hh hv
      have hsingle : f.single? = some id := by
        rw [Field.single?, if_pos ⟨hothers, hfirst ▸ hcomma⟩, hfirst]
      refine ⟨f, Acceptance.contentIdField_eq_some_iff.2 ⟨hf, hsingle⟩, ?_⟩
      rw [← hh, Headers.get?_unplaced, hf, Option.map_some]
  · cases hid

theorem contentIdField_of_given_nil {h : Headers} {pairs : List (Text × Text)}
    (hh : h.unplaced = Headers.ofList pairs) (hnil : given pairs HeaderName.contentId = []) :
    Acceptance.contentIdField h = .ok none :=
  Acceptance.contentIdField_eq_none_iff.2 (Headers.get?_of_given_nil hh hnil)

theorem get?_finalHeaders (member : Bool) (d : Draft) {name : Text}
    (hname : HeaderName.contentId.foldCase ≠ name.foldCase) :
    (d.finalHeaders member).get? name = (Headers.ofList d.headers).get? name := by
  rw [finalHeaders]
  cases hf : (Headers.ofList d.mime).get? HeaderName.contentId with
  | none => rfl
  | some f =>
    have hkey : f.key ≠ name.foldCase := by
      rw [Headers.key_of_get? hf]
      exact hname
    dsimp only
    split
    · rw [Headers.get?_put, if_neg hkey]
    · rfl

section Fits

variable {options : Options} {boundaries : List Text} {d : Draft} (h : d.Fits options boundaries)

include h

theorem readRequestLine (ht : d.target ≠ []) {l : Line} (hl : l.text = d.requestLine) :
    RequestLine.read l = .ok ⟨d.method, d.target, l.number⟩ := by
  have token : ∀ m ∈ Method.supported, (m.token.all fun c => decide (Text.isBlank c = false)) ∧
      m.token ≠ [] ∧ Method.ofToken? m.token = some m := by
    decide
  obtain ⟨hall, hne, hof⟩ := token d.method h.method
  have hblank : ∀ c ∈ d.method.token, Text.isBlank c = false := forall_mem_of_all hall
  have hversion : ∀ c ∈ RequestLine.version, Text.isBlank c = false :=
    forall_mem_of_all (by decide)
  have hwords : Text.words l.text = [d.method.token, d.target, RequestLine.version] := by
    rw [hl, requestLine]
    exact Text.words_of_spaced hblank h.visible hversion hne ht (by decide)
  rw [RequestLine.read, hwords]
  simp only [hof, if_true]

theorem checkForbidden_found {member : Bool} {headers : Headers}
    (hh : headers.unplaced = d.finalHeaders member) : Acceptance.checkForbidden headers = .ok () := by
  rw [Acceptance.checkForbidden_eq_ok_iff]
  intro name hname
  have other : ∀ name ∈ HeaderName.forbidden, HeaderName.contentId.foldCase ≠ name.foldCase := by
    decide
  have hget := Headers.get?_ofList_eq_none_iff.2 (h.allowed name hname)
  rwa [← get?_finalHeaders member d (other name hname), ← hh, Headers.get?_unplaced,
    Option.map_eq_none_iff] at hget

theorem bodyOctets_found {member : Bool} {headers : Headers}
    (hh : headers.unplaced = d.finalHeaders member) {body : List Line} (hb : Line.join body = d.body) :
    Acceptance.bodyOctets headers body = .ok d.body := by
  have hget : (headers.get? HeaderName.contentLength).map Field.unplaced
      = (Headers.ofList d.headers).get? HeaderName.contentLength := by
    rw [← Headers.get?_unplaced, hh, get?_finalHeaders member d (by decide)]
  rw [Acceptance.bodyOctets, hb]
  cases hf : headers.get? HeaderName.contentLength with
  | none => rfl
  | some f =>
    rw [hf, Option.map_some] at hget
    have hlength : ContentLength.ofField? f = some d.body.length := h.length f.unplaced hget.symm
    simp [hlength]

/-- **The operation of a draft is accepted**, as the request that the draft stands for. -/
theorem request_found (ht : d.target ≠ []) {member : Bool} (hm : member → d.method ≠ .get) {op : Operation}
    (hline : op.requestLine.text = d.requestLine) (hbody : Line.join op.body = d.body)
    (hno : d.body = [] → Acceptance.isBody op.body = false)
    (hh : op.headers.unplaced = d.finalHeaders member) :
    ∃ r, Acceptance.request options member op = .ok r ∧ d.ReadAs options member r := by
  obtain ⟨t, htarget⟩ := h.resolves
  have hresolve : RequestLine.resolve ⟨d.method, d.target, op.requestLine.number⟩ options.base options.parse
      = .ok t := by
    rw [RequestLine.resolve, htarget]
    rfl
  have hoctets : if d.method = .get then Acceptance.isBody op.body = false ∧ d.body = []
      else Acceptance.bodyOctets op.headers op.body = .ok d.body := by
    split
    · rename_i hget
      exact ⟨hno (h.bodyless hget), h.bodyless hget⟩
    · exact bodyOctets_found h hh hbody
  refine ⟨_, Acceptance.request_eq_ok_iff.2 ⟨_, t, d.body, readRequestLine h ht hline, hm, hresolve,
    checkForbidden_found h hh, hoctets, rfl⟩, ?_⟩
  exact ⟨rfl, htarget, rfl, rfl, hh, rfl⟩

end Fits

/-! ### The Content-ID of a draft -/

/-- Outside change sets the operation found of a draft gets the final headers. -/
theorem withPartId_found {d : Draft} (h : d.IdFits) {e : Embedded} (he : d.Found e) :
    ∃ op, Acceptance.withPartId e = .ok op ∧ op.requestLine = e.operation.requestLine ∧
      op.body = e.operation.body ∧ op.headers.unplaced = d.finalHeaders false := by
  rw [finalHeaders]
  rcases h with hnil | ⟨hsome, hown⟩
  · refine ⟨e.operation, Acceptance.withPartId_eq_ok_iff.2 (.inl ⟨?_, rfl⟩), rfl, rfl, ?_⟩
    · exact contentIdField_of_given_nil he.mime hnil
    · rw [Headers.get?_ofList_eq_none_iff.2 hnil, he.headers]
  · obtain ⟨id, hid⟩ := Option.isSome_iff_exists.1 hsome
    obtain ⟨f, hf, hget⟩ := contentIdField_found he.mime hid
    rw [hget]
    rcases hown with hnil | hown
    · refine ⟨{ e.operation with headers := e.operation.headers.put f },
        Acceptance.withPartId_eq_ok_iff.2 (.inr ⟨f, id, hf, .inl ⟨?_, rfl⟩⟩), rfl, rfl, ?_⟩
      · exact contentIdField_of_given_nil he.headers hnil
      · rw [Headers.unplaced_put, he.headers, Headers.contains,
          Headers.get?_ofList_eq_none_iff.2 hnil]
        rfl
    · obtain ⟨own, hown⟩ := Option.isSome_iff_exists.1 hown
      obtain ⟨g, hg, hgetown⟩ := contentIdField_found he.headers hown
      refine ⟨e.operation, Acceptance.withPartId_eq_ok_iff.2 (.inr ⟨f, id, hf, .inr ⟨(g, own), hg, rfl⟩⟩),
        rfl, rfl, ?_⟩
      rw [he.headers, Headers.contains, hgetown]
      rfl

/-- In a change set the operation found of a draft gets the final headers. -/
theorem withMemberId_found {d : Draft} {id : Text} (hid : id? d.mime = some id) {e : Embedded}
    (he : d.Found e) :
    ∃ line op, Acceptance.withMemberId e = .ok (id, line, op) ∧
      op.requestLine = e.operation.requestLine ∧ op.body = e.operation.body ∧
      op.headers.unplaced = d.finalHeaders true := by
  obtain ⟨f, hf, hget⟩ := contentIdField_found he.mime hid
  refine ⟨f.line, { e.operation with headers := e.operation.headers.put f },
    Acceptance.withMemberId_eq_ok_iff.2 (.inl ⟨f, hf, rfl, rfl⟩), rfl, rfl, ?_⟩
  rw [finalHeaders, hget, Headers.unplaced_put, he.headers]
  rfl

end Draft

/-! ### Parts -/

/-- The members of a change set are accepted one after the other, none with the Content-ID of one before. -/
theorem DraftSet.members_found {options : Options} {boundaries : List Text} {ds : List Draft}
    {es : List Embedded} (hf : List.Forall₂ Draft.Found ds es)
    (h : ∀ d ∈ ds, d.Fits options boundaries ∧ d.method ≠ .get) (ht : ∀ d ∈ ds, d.target ≠ [])
    (hids : ∀ d ∈ ds, (Draft.id? d.mime).isSome) (hd : (ds.map fun d => Draft.id? d.mime).Nodup)
    {seen : List Text} (hseen : ∀ d ∈ ds, ∀ id ∈ seen, Draft.id? d.mime ≠ some id) :
    ∃ rs, Acceptance.members options seen es = .ok rs ∧
      List.Forall₂ (Draft.ReadAs options true) ds rs := by
  induction hf generalizing seen with
  | nil => exact ⟨[], rfl, .nil⟩
  | @cons d e ds es he _ ih =>
    rw [List.forall_mem_cons] at h ht hids hseen
    rw [List.map_cons, List.nodup_cons] at hd
    obtain ⟨id, hid⟩ := Option.isSome_iff_exists.1 hids.1
    obtain ⟨line, op, hop, hline, hbody, hheaders⟩ := Draft.withMemberId_found hid he
    obtain ⟨r, hr, has⟩ := Draft.request_found h.1.1 ht.1 (fun _ => h.1.2)
      (by rw [hline, he.requestLine]) (by rw [hbody, he.body]) (by rw [hbody]; exact he.noBody)
      hheaders
    have hrest : ∀ d ∈ ds, ∀ id' ∈ id :: seen, Draft.id? d.mime ≠ some id' := by
      intro d' hd' id' hid' heq
      rcases List.mem_cons.1 hid' with rfl | hid'
      · exact hd.1 (hid ▸ heq ▸ List.mem_map_of_mem hd')
      · exact hseen.2 d' hd' id' hid' heq
    obtain ⟨rs, hrs, hall⟩ := ih h.2 ht.2 hids.2 hd.2 hrest
    obtain ⟨v, hv, hhttp⟩ := h.1.1.contentType
    obtain ⟨w, hw, hbinary⟩ := h.1.1.transferEncoding
    refine ⟨r :: rs, Acceptance.members_cons_eq_ok_iff.2 ⟨?_, ?_, id, line, op, r, rs, hop, ?_, hr, hrs,
      rfl⟩, .cons has hall⟩
    · exact Draft.checkContentType_found he hv hhttp
    · exact Draft.checkTransferEncoding_found he hw hbinary
    · exact fun hmem => hseen.1 id hmem hid

namespace DraftPart

theorem readPart_single {options : Options} {boundaries : List Text} {d : Draft}
    (h : d.Fits options boundaries) (hid : d.IdFits) (ht : d.target ≠ []) {lines : List Line}
    (hl : lines.map raw = split d.message.write) :
    ∃ r, Request.readPart options (trimEnding lines) = .ok (.single r) ∧ d.ReadAs options false r := by
  obtain ⟨mime, rest, e, hmime, he, rfl, hfound⟩ := Draft.read_write h hl options.strict
    (Line.firstNumber 1 (trimEnding lines))
  obtain ⟨v, hv, hhttp⟩ := h.contentType
  obtain ⟨w, hw, hbinary⟩ := h.transferEncoding
  have htype : ∀ f, e.mime.get? HeaderName.contentType = some f → ¬MediaType.isMultipart f.value := by
    intro g hg
    obtain ⟨f, hf, hfirst, hothers⟩ := Headers.get?_of_given hfound.mime hv
    obtain rfl : f = g := Option.some.inj (hf.symm.trans hg)
    rw [Field.value_of_others_nil hothers, hfirst]
    rw [MediaType.isHttp, Text.same_iff] at hhttp
    rw [MediaType.isMultipart, Text.same_iff, hhttp]
    decide
  have hpart := BodyPart.read_eq_ok_iff.2 ⟨_, rest, hmime, .inl ⟨htype, e, he, rfl⟩⟩
  obtain ⟨op, hop, hline, hbody, hheaders⟩ := Draft.withPartId_found hid hfound
  have alone : false = true → d.method ≠ .get := fun hfalse => absurd hfalse (by decide)
  obtain ⟨r, hr, has⟩ := Draft.request_found h ht alone
    (by rw [hline, hfound.requestLine]) (by rw [hbody, hfound.body]) (by rw [hbody]; exact hfound.noBody)
    hheaders
  refine ⟨r, Request.readPart_eq_ok_iff.2 ⟨_, hpart, ?_⟩, has⟩
  exact Acceptance.part_single_eq_ok_iff.2 ⟨Draft.checkContentType_found hfound hv hhttp,
    Draft.checkTransferEncoding_found hfound hw hbinary, op, r, hop, hr, rfl⟩

theorem readPart_changeSet {options : Options} {outer : Text} {s : DraftSet}
    (h : s.Fits options outer) (ht : ∀ d ∈ s.members, d.target ≠ []) {lines : List Line}
    (hl : lines.map raw = split s.nested.write) :
    ∃ rs, Request.readPart options (trimEnding lines) = .ok (.changeSet rs) ∧
      List.Forall₂ (Draft.ReadAs options true) s.members rs := by
  obtain ⟨mime, rest, hmime, hm, framed, hcut, hframed⟩ := Nested.read_write (DraftSet.fits_nested h) hl
    options.strict (Line.firstNumber 1 (trimEnding lines))
  have hread : List.Forall₂ (fun ls d => ∃ e, Embedded.read options.strict
      (Line.firstNumber mime.line ls) ls = .ok e ∧ d.Found e) (framed.map trimEnding) s.members := by
    rw [DraftSet.nested, List.forall₂_map_right_iff] at hframed
    rw [List.forall₂_map_left_iff]
    refine Outcome.forall₂_imp_of_mem hframed fun ls d hd hls => ?_
    obtain ⟨mime', rest', e, hmime', he, -, hfound⟩ := Draft.read_write (h.members d hd).1 hls
      options.strict (Line.firstNumber mime.line (trimEnding ls))
    exact ⟨e, Outcome.bind_eq_ok.2 ⟨_, hmime', he⟩, hfound⟩
  have hsegments : framed.map trimEnding ≠ [] := by
    intro hnil
    rw [hnil] at hread
    exact h.nonempty (List.forall₂_nil_left_iff.1 hread)
  obtain ⟨es, hes, hfound⟩ := Outcome.exists_mapM_eq_ok hread
  have unseen : ∀ d ∈ s.members, ∀ id ∈ ([] : List Text), Draft.id? d.mime ≠ some id :=
    fun _ _ _ hid => (nomatch hid)
  obtain ⟨rs, hrs, has⟩ := DraftSet.members_found hfound h.members ht h.ids h.distinct unseen
  obtain ⟨f, hf, hfirst, hothers⟩ := Headers.get?_of_given hm h.contentType
  have hvalue : f.value = Boundary.contentType s.boundary := by
    rw [Field.value_of_others_nil hothers, hfirst]
  have hmulti : MediaType.isMultipart f.value := by
    rw [hvalue]
    exact MediaType.isMultipart_contentType s.boundary
  have hboundary : MediaType.boundary? f.value = some s.boundary := by
    rw [hvalue]
    exact MediaType.boundary?_contentType h.valid h.head
  have hmembers := BodyPart.readMembers_eq_ok_iff.2
    ⟨_, hcut, hsegments, Outcome.mapM_eq_ok_iff.1 hes⟩
  have hpart := BodyPart.read_eq_ok_iff.2
    ⟨_, rest, hmime, .inr ⟨s.boundary, es, ⟨f, hf, hmulti, hboundary⟩, h.valid, hmembers, rfl⟩⟩
  refine ⟨rs, Request.readPart_eq_ok_iff.2 ⟨_, hpart, ?_⟩, has⟩
  exact Acceptance.part_changeSet_eq_ok_iff.2
    ⟨Acceptance.checkContentType_eq_ok_iff.2 ⟨f, hf, hmulti⟩, rs, hrs, rfl⟩

/-- **A written part is read and accepted.** -/
theorem readPart_write {options : Options} {boundary : Text} {p : DraftPart}
    (h : p.Fits options boundary) (ht : ∀ d ∈ p.drafts, d.target ≠ []) {lines : List Line}
    (hl : lines.map raw = split p.write) :
    ∃ part, Request.readPart options (trimEnding lines) = .ok part ∧ p.ReadAs options part := by
  cases p with
  | single d =>
    obtain ⟨r, hr, has⟩ := readPart_single h.1 h.2 (ht d (List.mem_singleton_self d)) hl
    exact ⟨.single r, hr, .single has⟩
  | changeSet s =>
    obtain ⟨rs, hrs, has⟩ := readPart_changeSet h ht hl
    exact ⟨.changeSet rs, hrs, .changeSet has⟩

end DraftPart

/-- **A batch of well-formed requests is accepted**, strictly and leniently: behind any front of whole lines
without delimiters, and in front of anything, its parts are read in their order and their shape, each request
as its draft has it. -/
theorem Request.readBatch_drafts {options : Options} {boundary : Text} (hb : Boundary.isValid boundary)
    {front tail : Bytes} (hwhole : IsWhole front) (hfree : Avoids boundary front)
    (htail : ∀ o ∈ tail.head?, o = 10 ∨ o = 13) {parts : List DraftPart} (hne : parts ≠ [])
    (h : ∀ p ∈ parts, p.Fits options boundary)
    (ht : ∀ p ∈ parts, ∀ d ∈ p.drafts, d.target ≠ []) :
    ∃ parts', Request.readBatch options boundary
        (front ++ frame boundary (parts.map DraftPart.write) ++ tail) = .ok parts' ∧
      List.Forall₂ (DraftPart.ReadAs options) parts parts' := by
  have hsegments : ∀ s ∈ parts.map DraftPart.write, IsWhole s ∧ Avoids boundary s := by
    intro s hs
    obtain ⟨p, hp, rfl⟩ := List.mem_map.1 hs
    exact DraftPart.avoids_write (h p hp)
  obtain ⟨-, framed, hcut, hframed⟩ := Segment.ofLines_frame hb hwhole hfree hsegments htail
    (Line.map_raw_readAll _) 1
  have hparts : List.Forall₂ (fun ls p => ∃ part, Request.readPart options ls = .ok part ∧
      p.ReadAs options part) (framed.map trimEnding) parts := by
    rw [List.forall₂_map_right_iff] at hframed
    rw [List.forall₂_map_left_iff]
    exact Outcome.forall₂_imp_of_mem hframed fun ls p hp hls =>
      DraftPart.readPart_write (h p hp) (ht p hp) hls
  obtain ⟨parts', hall, has⟩ := Outcome.exists_mapM_eq_ok hparts
  have hne' : parts' ≠ [] := by
    rintro rfl
    exact hne (List.forall₂_nil_right_iff.1 has)
  refine ⟨parts', Request.readBatch_eq_ok_iff.2 ⟨hb, hne', _, hcut, ?_⟩, has⟩
  exact Outcome.mapM_eq_ok_iff.1 hall

/-- A query alone, behind a preamble, and a change set with one body of mixed line ends. -/
theorem Request.readBatch_drafts_mixed :
    let binary : List (Text × Text) :=
      [("Content-Type".toList, "application/http".toList),
        ("content-transfer-encoding".toList, "binary".toList)]
    let query : Draft := { mime := binary, method := .get, target := "Items?top=1".toList }
    let change : Draft := {
      mime := binary ++ [("Content-ID".toList, "1".toList)]
      method := .post
      target := "/Items".toList
      headers := [("Content-Length".toList, "4".toList)]
      body := [13, 255, 10, 45] }
    let changes : DraftSet := {
      mime := [("Content-Type".toList, Boundary.contentType "c".toList)]
      boundary := "c".toList
      members := [change] }
    let parts : List DraftPart := [.single query, .changeSet changes]
    Boundary.isValid "b".toList ∧ IsWhole [42, 13, 10] ∧ Avoids "b".toList [42, 13, 10] ∧
      (∀ o ∈ ([13, 10, 42] : Bytes).head?, o = 10 ∨ o = 13) ∧ parts ≠ [] ∧
      (∀ p ∈ parts, p.Fits {} "b".toList) ∧ (∀ p ∈ parts, ∀ d ∈ p.drafts, d.target ≠ []) ∧
      ∃ parts', Request.readBatch {} "b".toList
          ([42, 13, 10] ++ frame "b".toList (parts.map DraftPart.write) ++ [13, 10, 42]) = .ok parts' ∧
        List.Forall₂ (DraftPart.ReadAs {}) parts parts' := by
  intro binary query change changes parts
  have hb : Boundary.isValid "b".toList := by decide
  have hwhole : IsWhole [42, 13, 10] := Line.isWhole_crlf [42]
  have hfree : Avoids "b".toList [42, 13, 10] := by decide
  have htail : ∀ o ∈ ([13, 10, 42] : Bytes).head?, o = 10 ∨ o = 13 := Line.head?_crlf
  have hquery : query.Fits {} ["b".toList] := {
    mime := by decide
    contentType := ⟨_, rfl, by decide⟩
    transferEncoding := ⟨_, rfl, by decide⟩
    method := by decide
    visible := forall_mem_of_all (by decide)
    resolves := ⟨_, rfl⟩
    headers := by decide
    allowed := by decide
    length := fun f hf => (nomatch hf)
    bodyless := fun _ => rfl
    body := by decide }
  have hchange : change.Fits {} ["b".toList, "c".toList] := {
    mime := by decide
    contentType := ⟨_, rfl, by decide⟩
    transferEncoding := ⟨_, rfl, by decide⟩
    method := by decide
    visible := forall_mem_of_all (by decide)
    resolves := ⟨_, rfl⟩
    headers := by decide
    allowed := by decide
    length := by
      intro f hf
      cases hf
      decide
    bodyless := fun h => (nomatch h)
    body := by decide }
  have hchanges : changes.Fits {} "b".toList := {
    mime := by decide
    contentType := rfl
    valid := by decide
    head := by decide
    delimiter := by decide
    close := by decide
    nonempty := List.cons_ne_nil _ _
    members := by
      intro d hd
      rw [List.mem_singleton.1 hd]
      exact ⟨hchange, by decide⟩
    ids := by decide
    distinct := by decide }
  have hfits : ∀ p ∈ parts, p.Fits {} "b".toList := by
    intro p hp
    rcases List.mem_pair.1 hp with rfl | rfl
    · exact ⟨hquery, .inl rfl⟩
    · exact hchanges
  have htargets : ∀ p ∈ parts, ∀ d ∈ p.drafts, d.target ≠ [] := by decide
  exact ⟨hb, hwhole, hfree, htail, List.cons_ne_nil _ _, hfits, htargets,
    Request.readBatch_drafts hb hwhole hfree htail (List.cons_ne_nil _ _) hfits htargets⟩

/-- A draft without a target resolves, but its request line has two words only and is refused. -/
theorem Request.readBatch_without_target :
    let d : Draft := {
      mime := [("Content-Type".toList, "application/http".toList),
        ("Content-Transfer-Encoding".toList, "binary".toList)]
      method := .post
      target := [] }
    (DraftPart.single d).Fits {} "b".toList ∧
      Request.readBatch {} "b".toList (frame "b".toList [(DraftPart.single d).write] ++ Response.crlf)
        = .error ⟨.malformedRequestLine "POST  HTTP/1.1".toList, some 5⟩ := by
  intro d
  refine ⟨⟨?_, .inl rfl⟩, by decide +kernel⟩
  exact {
    mime := by decide
    contentType := ⟨_, rfl, by decide⟩
    transferEncoding := ⟨_, rfl, by decide⟩
    method := by decide
    visible := forall_mem_of_all (by decide)
    resolves := ⟨_, rfl⟩
    headers := by decide
    allowed := by decide
    length := fun f hf => (nomatch hf)
    bodyless := fun _ => rfl
    body := by decide }

end BatchExchange
