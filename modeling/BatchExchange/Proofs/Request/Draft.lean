import BatchExchange.Proofs.Outcome
import BatchExchange.Proofs.Written
import BatchExchange.Request.Acceptance

/-!
# Requests as clients write them

A draft is a request before it is written into a batch.  Written, it is found again by the structural
reading of its part, strict or lenient.

* `Draft.Fits`: what a draft must be like to be accepted, but for the Content-ID.
* `Draft.ReadAs`: the request that a draft stands for.
* `Draft.read_write`: the operation that is read where a draft was written.
-/

namespace BatchExchange

open Line (raw split IsWhole IsOneLine)
open Segment (Avoids trimEnding)
open Headers (given)

/-- A request as a client writes it, with the headers of the part around it. -/
structure Draft where
  mime : List (Text × Text)
  method : Method
  target : Text
  headers : List (Text × Text) := []
  body : Bytes := []

namespace Draft

def requestLine (d : Draft) : Text := d.method.token ++ ' ' :: (d.target ++ ' ' :: RequestLine.version)

def message (d : Draft) : Message where
  part := d.mime
  start := d.requestLine
  headers := d.headers
  body := d.body

/-- A draft that keeps the rules of the format, among the delimiters of `boundaries`. -/
structure Fits (options : Options) (boundaries : List Text) (d : Draft) : Prop where
  mime : ∀ p ∈ d.mime, HeaderBlock.IsWritable p.1 p.2
  contentType : ∃ v, given d.mime HeaderName.contentType = [v] ∧ MediaType.isHttp v
  transferEncoding : ∃ v, given d.mime HeaderName.contentTransferEncoding = [v] ∧ MediaType.isBinary v
  method : d.method ∈ Method.supported
  visible : ∀ c ∈ d.target, Text.isBlank c = false
  resolves : ∃ t, Target.resolve d.target options.base options.parse = .ok t
  headers : ∀ p ∈ d.headers, HeaderBlock.IsWritable p.1 p.2
  allowed : ∀ name ∈ HeaderName.forbidden, given d.headers name = []
  length : ∀ f, (Headers.ofList d.headers).get? HeaderName.contentLength = some f →
    ContentLength.ofField? f = some d.body.length
  bodyless : d.method = .get → d.body = []
  body : ∀ b ∈ boundaries, Avoids b (d.body ++ Response.crlf)

/-- The Content-ID among some headers, if there is just one and it is no list. -/
def id? (pairs : List (Text × Text)) : Option Text :=
  match given pairs HeaderName.contentId with
  | [id] => if ',' ∈ id then none else some id
  | _ => none

/-- A draft outside change sets whose Content-IDs, if the part has any, are single. -/
def IdFits (d : Draft) : Prop :=
  given d.mime HeaderName.contentId = [] ∨
    (id? d.mime).isSome ∧
      (given d.headers HeaderName.contentId = [] ∨ (id? d.headers).isSome)

/-- The headers of the request: those of the draft, with the Content-ID field of the part in the place of
its own in a change set, and where it has none of its own elsewhere. -/
def finalHeaders (member : Bool) (d : Draft) : Headers :=
  let own := Headers.ofList d.headers
  match (Headers.ofList d.mime).get? HeaderName.contentId with
  | none => own
  | some f => if member || !own.contains HeaderName.contentId then own.put f else own

/-- The request that a draft stands for. -/
structure ReadAs (options : Options) (member : Bool) (d : Draft) (r : Request) : Prop where
  method : r.method = d.method
  target : Target.resolve d.target options.base options.parse = .ok ⟨r.base, r.path, r.query⟩
  uri : r.uri = Request.assemble r.base r.path r.query
  resolution : r.resolution = options.resolution
  headers : r.headers.unplaced = d.finalHeaders member
  body : r.body = d.body

/-- What the structural reading finds of a draft. -/
structure Found (d : Draft) (e : Embedded) : Prop where
  mime : e.mime.unplaced = Headers.ofList d.mime
  requestLine : e.operation.requestLine.text = d.requestLine
  headers : e.operation.headers.unplaced = Headers.ofList d.headers
  body : Line.join e.operation.body = d.body
  noBody : d.body = [] → Acceptance.isBody e.operation.body = false

theorem isOneLine_of_visible {t : Text} (h : ∀ c ∈ t, Text.isBlank c = false) : IsOneLine t :=
  ⟨fun hc => absurd (h _ hc) (by decide), fun hc => absurd (h _ hc) (by decide)⟩

section Fits

variable {options : Options} {boundaries : List Text} {d : Draft} (h : d.Fits options boundaries)

include h

theorem isOneLine_requestLine : IsOneLine d.requestLine := by
  have token : ∀ m ∈ Method.supported, IsOneLine m.token := by decide
  have htarget : IsOneLine (d.target ++ ' ' :: RequestLine.version) :=
    (isOneLine_of_visible h.visible).append (by decide)
  exact (token d.method h.method).append (IsOneLine.append (s := [' ']) (by decide) htarget)

theorem after?_hyphens_requestLine : after? "--".toList d.requestLine = none := by
  obtain ⟨mime, method, target, headers, body⟩ := d
  have hm := h.method
  simp only [Method.supported, List.mem_cons, List.not_mem_nil, or_false] at hm
  rcases hm with rfl | rfl | rfl | rfl | rfl | rfl <;> rfl

theorem isBlank_requestLine {l : Line} (hl : l.content = Utf8.encode d.requestLine) :
    l.isBlank = false := by
  obtain ⟨mime, method, target, headers, body⟩ := d
  have hm := h.method
  rw [Line.isBlank, hl]
  simp only [Method.supported, List.mem_cons, List.not_mem_nil, or_false] at hm
  rcases hm with rfl | rfl | rfl | rfl | rfl | rfl <;> rfl

theorem fits_message : d.message.Fits boundaries where
  part := h.mime
  oneLine := isOneLine_requestLine h
  hyphens := after?_hyphens_requestLine h
  headers := h.headers
  body := h.body

/-- **A written draft is found again.** -/
theorem read_write {lines : List Line} (hl : lines.map raw = split d.message.write) (strict : Bool)
    (context : Nat) :
    ∃ mime rest e, HeaderBlock.read strict context (trimEnding lines) = .ok (mime, rest) ∧
      Embedded.readAfter strict mime rest = .ok e ∧ e.mime = mime ∧ d.Found e := by
  obtain ⟨mime, start, rest, hmime, hm, hstart, headers, body, hread, hh, hbody⟩ :=
    Message.read_write (fits_message h) hl strict context
  have hblank : start.isBlank = false := isBlank_requestLine h (congrArg Prod.fst hstart)
  have hop : Operation.read strict mime.line (start :: rest)
      = .ok ⟨start, headers, trimEnding body⟩ := by
    have hlines : (if strict then start :: rest else (start :: rest).dropWhile Line.isBlank)
        = start :: rest := by
      rw [List.dropWhile_cons, hblank]
      simp
    rw [Operation.read, hlines]
    simp only [hblank, Bool.false_eq_true, if_false]
    exact Outcome.bind_eq_ok.2 ⟨_, hread, rfl⟩
  refine ⟨mime, start :: rest, ⟨mime, ⟨start, headers, trimEnding body⟩⟩, hmime, ?_, rfl, hm,
    Line.text_of_raw hstart, hh, Segment.join_trimEnding hbody, ?_⟩
  · exact Outcome.bind_eq_ok.2 ⟨_, hop, rfl⟩
  · intro hnil
    have hb : body.map raw = [([], .crlf)] := by
      rw [hbody]
      show split (d.body ++ Response.crlf) = _
      rw [hnil]
      rfl
    obtain ⟨l, tail, rfl, hl, htail⟩ := List.map_eq_cons_iff.1 hb
    have hcontent : l.content = [] := congrArg Prod.fst hl
    rw [List.map_eq_nil_iff.1 htail]
    show (!l.withoutEnding.isBlank) = false
    rw [Line.isBlank, show l.withoutEnding.content = [] from hcontent]
    rfl

end Fits

end Draft

/-! ### Parts -/

/-- A change set as a client writes it, with the headers of the part around it. -/
structure DraftSet where
  mime : List (Text × Text)
  boundary : Text
  members : List Draft

namespace DraftSet

def nested (s : DraftSet) : Nested where
  part := s.mime
  boundary := s.boundary
  members := s.members.map fun d => d.message.write

/-- A change set that keeps the rules of the format, among the delimiters of `outer`. -/
structure Fits (options : Options) (outer : Text) (s : DraftSet) : Prop where
  mime : ∀ p ∈ s.mime, HeaderBlock.IsWritable p.1 p.2
  contentType : given s.mime HeaderName.contentType = [Boundary.contentType s.boundary]
  valid : Boundary.isValid s.boundary
  head : s.boundary.head? ≠ some ' '
  delimiter : Avoids outer (Response.writeDelimiter s.boundary)
  close : Avoids outer (Response.writeClose s.boundary)
  nonempty : s.members ≠ []
  members : ∀ d ∈ s.members, d.Fits options [outer, s.boundary] ∧ d.method ≠ .get
  ids : ∀ d ∈ s.members, (Draft.id? d.mime).isSome
  distinct : (s.members.map fun d => Draft.id? d.mime).Nodup

theorem fits_nested {options : Options} {outer : Text} {s : DraftSet} (h : s.Fits options outer) :
    s.nested.Fits outer where
  part := h.mime
  valid := h.valid
  delimiter := h.delimiter
  close := h.close
  members m hm := by
    obtain ⟨d, hd, rfl⟩ := List.mem_map.1 hm
    have hfits := Draft.fits_message (h.members d hd).1
    have hinner : s.boundary ∈ [outer, s.boundary] := by simp
    have houter : outer ∈ [outer, s.boundary] := by simp
    exact ⟨Message.isWhole_write _, Message.avoids_write hfits hinner,
      Message.avoids_write hfits houter⟩

end DraftSet

/-- A part as a client writes it. -/
inductive DraftPart where
  | single (d : Draft)
  | changeSet (s : DraftSet)

namespace DraftPart

def drafts : DraftPart → List Draft
  | single d => [d]
  | changeSet s => s.members

/-- The inside of a written part. -/
def write : DraftPart → Bytes
  | single d => d.message.write
  | changeSet s => s.nested.write

/-- A part that keeps the rules of the format. -/
def Fits (options : Options) (boundary : Text) : DraftPart → Prop
  | single d => d.Fits options [boundary] ∧ d.IdFits
  | changeSet s => s.Fits options boundary

/-- The part that a written part stands for. -/
inductive ReadAs (options : Options) : DraftPart → Part Request → Prop
  | single {d : Draft} {r : Request} (h : d.ReadAs options false r) : ReadAs options (single d) (.single r)
  | changeSet {s : DraftSet} {rs : List Request}
      (h : List.Forall₂ (Draft.ReadAs options true) s.members rs) :
      ReadAs options (changeSet s) (.changeSet rs)

theorem avoids_write {options : Options} {boundary : Text} {p : DraftPart} (h : p.Fits options boundary) :
    IsWhole p.write ∧ Avoids boundary p.write := by
  cases p with
  | single d =>
    exact ⟨Message.isWhole_write _,
      Message.avoids_write (Draft.fits_message h.1) (List.mem_singleton_self boundary)⟩
  | changeSet s => exact ⟨Nested.isWhole_write _, Nested.avoids_write (DraftSet.fits_nested h)⟩

end DraftPart

end BatchExchange
