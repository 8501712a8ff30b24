import BatchExchange.Proofs.Service

/-!
# Announced boundaries

A content type announces a boundary as it is, without quotes, and whoever reads the content type trims what it
finds there.  So a boundary that begins with a space is announced as another one.  Sources write no spaces
behind a stem, and a stem that can be configured may begin with one: the boundaries of a service are
announced as they are written if its stems do not begin with a space, and only then.

* `Boundary.IsAnnounced`: a content type names the boundary that it announces.
* `BoundarySource.Extends`: what sources write behind stems.
* `Service.announced_iff`: what the answers of a service announce, and the change sets in them.
-/

namespace BatchExchange

namespace Boundary

/-- Whether the content type that announces a boundary is read as one that names this boundary. -/
def IsAnnounced (b : Text) : Prop := MediaType.boundary? (contentType b) = some b

/-- **Only a space in front** keeps a valid boundary from being announced. -/
theorem isAnnounced_iff {b : Text} (hb : isValid b) : IsAnnounced b ↔ b.head? ≠ some ' ' := by
  rw [IsAnnounced, MediaType.boundary?_contentType_eq_trim hb, Option.some.injEq]
  exact trim_eq_self_iff hb

end Boundary

/-! ### Boundaries that are drawn -/

namespace BoundarySource

/-- In this state the source writes some token characters behind every stem, as many as an identifier has at
most and none of them a space. -/
def Extends {β : Type} (source : BoundarySource β) (b : β) : Prop :=
  ∀ stem, ∃ tail, (source.draw stem b).1 = stem ++ tail ∧ tail ≠ [] ∧
    tail.length ≤ nilIdentifier.length ∧ ∀ c ∈ tail, Boundary.isTokenChar c ∧ c ≠ ' '

theorem extends_sequential {n : Nat} (hn : n + 1 < Nat.pow 10 36) : sequential.Extends n := by
  intro stem
  refine ⟨Decimal.write (n + 1), rfl, Decimal.write_ne_nil _, ?_, ?_⟩
  · exact Decimal.length_write_le (d := 35) hn
  · exact fun c hc => Boundary.isTokenChar_of_mem_write hc

theorem isTokenChar_of_mem_identifier {octets : Bytes} {c : Char} (hc : c ∈ identifier octets) :
    Boundary.isTokenChar c ∧ c ≠ ' ' := by
  have digit : ∀ n < 16, Boundary.isTokenChar (Hexadecimal.lower n) ∧ Hexadecimal.lower n ≠ ' ' := by
    decide
  have octet : ∀ octets : Bytes, c ∈ octets.flatMap (Hexadecimal.octet Hexadecimal.lower) →
      Boundary.isTokenChar c ∧ c ≠ ' ' := by
    intro octets hc
    obtain ⟨b, -, hb⟩ := List.mem_flatMap.1 hc
    have hlt := b.toNat_lt
    simp only [Hexadecimal.octet, List.mem_cons, List.not_mem_nil, or_false] at hb
    rcases hb with rfl | rfl
    · exact digit _ (by omega)
    · exact digit _ (by omega)
  have hyphen : Boundary.isTokenChar '-' ∧ '-' ≠ ' ' := by decide
  simp only [identifier, List.mem_append, List.mem_cons] at hc
  rcases hc with (((hc | rfl | hc) | rfl | hc) | rfl | hc) | rfl | hc
  · exact octet _ hc
  · exact hyphen
  · exact octet _ hc
  · exact hyphen
  · exact octet _ hc
  · exact hyphen
  · exact octet _ hc
  · exact hyphen
  · exact octet _ hc

theorem length_identifier {octets : Bytes} (h : octets.length = 16) :
    (identifier octets).length = nilIdentifier.length := by
  have octet : ∀ octets : Bytes,
      (octets.flatMap (Hexadecimal.octet Hexadecimal.lower)).length = 2 * octets.length := by
    intro octets
    induction octets with
    | nil => rfl
    | cons b octets ih =>
      rw [List.flatMap_cons, List.length_append, ih, List.length_cons]
      show 2 + _ = _
      omega
  have hnil : nilIdentifier.length = 36 := by decide
  simp only [hnil, identifier, List.length_append, List.length_cons, octet, List.length_take,
    List.length_drop, h]
  omega

theorem extends_random (octets : Nat → UInt8) : random.Extends octets := by
  intro stem
  have hlength : (markRandom ((List.range 16).map octets)).length = 16 := by
    rw [markRandom, List.length_mapIdx, List.length_map, List.length_range]
  have hidentifier := length_identifier hlength
  refine ⟨_, rfl, ?_, Nat.le_of_eq hidentifier, fun c hc => isTokenChar_of_mem_identifier hc⟩
  rw [← List.length_pos_iff, hidentifier]
  decide

end BoundarySource

namespace Config

/-- A stem that can be configured leaves room for an identifier. -/
theorem length_le_of_isStem {stem : Text} (h : isStem stem) :
    stem.all Boundary.isTokenChar ∧ stem.length + BoundarySource.nilIdentifier.length ≤ 70 := by
  simp only [isStem, Boundary.isValid, Bool.and_eq_true, decide_eq_true_eq, List.length_append,
    List.all_append] at h
  exact ⟨h.1.2.1, h.1.1⟩

theorem isStem_of_check {config : Config} (h : config.check = .ok ()) :
    isStem config.responseStem ∧ isStem config.changeSetStem := by
  obtain ⟨_, hresponse, hchangeSet⟩ := Outcome.bind_eq_ok.1 h
  exact ⟨Outcome.ite_eq_ok_iff.1 hresponse, Outcome.ite_eq_ok_iff.1 hchangeSet⟩

end Config

namespace BoundarySource.Extends

variable {β : Type} {source : BoundarySource β} {b : β} (h : source.Extends b) {stem : Text}

include h

/-- What is drawn begins with a space if its stem does. -/
theorem head?_draw_eq_space_iff : (source.draw stem b).1.head? = some ' ' ↔ stem.head? = some ' ' := by
  obtain ⟨tail, hdraw, hne, -, htail⟩ := h stem
  rw [hdraw]
  cases stem with
  | nil =>
    cases tail with
    | nil => exact absurd rfl hne
    | cons c tail => simpa using (htail c List.mem_cons_self).2
  | cons c stem => exact Iff.rfl

theorem isValid_draw (hstem : Config.isStem stem) : Boundary.isValid (source.draw stem b).1 := by
  obtain ⟨tail, hdraw, hne, hlength, htail⟩ := h stem
  obtain ⟨hchars, hroom⟩ := Config.length_le_of_isStem hstem
  rw [hdraw]
  exact Boundary.isValid_append hchars htail hne (by omega)

/-- **A boundary that is drawn is announced** if its stem does not begin with a space. -/
theorem isAnnounced_draw_iff (hstem : Config.isStem stem) :
    Boundary.IsAnnounced (source.draw stem b).1 ↔ stem.head? ≠ some ' ' := by
  rw [Boundary.isAnnounced_iff (h.isValid_draw hstem), ne_eq, h.head?_draw_eq_space_iff]

end BoundarySource.Extends

/-! ### Content types that are written -/

/-- The header block of a written change set, and the members behind it. -/
theorem Response.read_writePart {β : Type} {source : BoundarySource β} {stem : Text} {b : β}
    (hvalid : Boundary.isValid (source.draw stem b).1) (rs : List Response) :
    ∃ mime rest, HeaderBlock.read true 1
        (Line.readAll (writePart source stem (.changeSet rs) b).1) = .ok (mime, rest) ∧
      Line.join rest = writeMembers (source.draw stem b).1 rs ∧
      ∀ nested, BodyPart.Announces mime nested ↔
        MediaType.boundary? (Boundary.contentType (source.draw stem b).1) = some nested := by
  generalize hnested : (source.draw stem b).1 = boundary at hvalid ⊢
  have hwritten : (writePart source stem (.changeSet rs) b).1
      = HeaderBlock.write [(HeaderName.contentType, Boundary.contentType boundary)]
        ++ (crlf ++ writeMembers boundary rs) := by
    rw [← hnested, writePart, HeaderBlock.write, List.flatMap_singleton, ← List.append_assoc]
  have hpart : ∀ p ∈ [(HeaderName.contentType, Boundary.contentType boundary)],
      HeaderBlock.IsWritable p.1 p.2 := by
    intro p hp
    rw [List.mem_singleton.1 hp]
    have hname : HeaderBlock.isName HeaderName.contentType := by decide
    have hhyphens : after? "--".toList HeaderName.contentType = none := by decide
    exact ⟨hname, hhyphens, Boundary.isOneLine_contentType hvalid, Boundary.trim_contentType hvalid⟩
  have hraw := Line.map_raw_readAll (writePart source stem (.changeSet rs) b).1
  rw [hwritten, HeaderBlock.split_write hpart] at hraw
  obtain ⟨part, behind, hlines, hpartRaw, hbehind⟩ := List.map_eq_append_iff.1 hraw
  obtain ⟨blank, rest, rfl, hblank, hrest⟩ := List.map_eq_cons_iff.1 hbehind
  obtain ⟨mime, hread, hmime⟩ :=
    HeaderBlock.read_written hpart hpartRaw (congrArg Prod.fst hblank) true 1 rest
  refine ⟨mime, rest, ?_, Line.join_of_map_raw hrest, ?_⟩
  · rw [hwritten, hlines]
    exact hread
  · have hget : (mime.get? HeaderName.contentType).map Field.unplaced
        = some { name := HeaderName.contentType, first := Boundary.contentType boundary } := by
      rw [← Headers.get?_unplaced, hmime]
      rfl
    obtain ⟨f, hf, hplace⟩ := Option.map_eq_some_iff.1 hget
    have hvalue : f.value = Boundary.contentType boundary := by
      rw [← Field.value_unplaced, hplace, Field.value_of_single]
    intro nested
    rw [BodyPart.Announces, hf]
    constructor
    · rintro ⟨g, hg, -, hboundary⟩
      rwa [← Option.some.inj hg, hvalue] at hboundary
    · intro hboundary
      refine ⟨f, rfl, ?_, ?_⟩
      · rw [hvalue]
        exact MediaType.isMultipart_contentType boundary
      · rw [hvalue]
        exact hboundary

namespace Service

/-- What an answer is made of, whatever the batch. -/
theorem exists_of_handle_eq_ok {σ β : Type} {service : Service σ β} {envelope : Outer.Envelope}
    {body : Bytes} {s s' : σ} {b b' : β} {a : Outer.Answer}
    (h : service.handle envelope body s b = (.ok a, s', b')) :
    ∃ outcomes, a = answer envelope.continueOnError (service.write outcomes b).1.1
      (service.write outcomes b).1.2 ∧ b' = (service.write outcomes b).2 := by
  rw [handle] at h
  split at h
  · cases h
  · split at h
    · cases h
    · rename_i outcomes _ _
      cases h
      exact ⟨outcomes, rfl, rfl⟩

/-- **What is announced.**  A content type names a valid boundary without the spaces that the boundary begins
with.  Sources that number boundaries or write identifiers extend the stems that a service is configured with:
the content type of an answer then names the boundary that its body is written with if the stem of batches
does not begin with a space, and only then, and likewise the content type of a change set. -/
theorem announced_iff (token : Text) {σ β : Type} (service : Service σ β) (b : β) :
    (Boundary.isValid token →
      MediaType.boundary? (Boundary.contentType token) = some (Text.trim token) ∧
        (Boundary.IsAnnounced token ↔ token.head? ≠ some ' ')) ∧
    (∀ octets, BoundarySource.random.Extends octets) ∧
    (∀ n, n + 1 < Nat.pow 10 36 → BoundarySource.sequential.Extends n) ∧
    (service.config.check = .ok () → service.source.Extends b →
      (∀ envelope body s a s' b', service.handle envelope body s b = (.ok a, s', b') →
        ∃ outcomes boundary, service.write outcomes b = ((boundary, a.body), b') ∧
          ((a.header? HeaderName.contentType).bind MediaType.boundary? = some boundary
            ↔ service.config.responseStem.head? ≠ some ' ')) ∧
      ∀ rs, ∃ mime rest nested, HeaderBlock.read true 1 (Line.readAll
            (Response.writePart service.source service.config.changeSetStem (.changeSet rs) b).1)
          = .ok (mime, rest) ∧
        Line.join rest = Response.writeMembers nested rs ∧
        (BodyPart.Announces mime nested ↔ service.config.changeSetStem.head? ≠ some ' ')) := by
  refine ⟨fun hb => ⟨MediaType.boundary?_contentType_eq_trim hb, Boundary.isAnnounced_iff hb⟩,
    BoundarySource.extends_random, fun n hn => BoundarySource.extends_sequential hn, ?_⟩
  intro hconfig hsource
  obtain ⟨hresponse, hchangeSet⟩ := Config.isStem_of_check hconfig
  constructor
  · intro envelope body s a s' b' hhandle
    obtain ⟨outcomes, rfl, rfl⟩ := exists_of_handle_eq_ok hhandle
    obtain ⟨-, hheader, hbody⟩ := answer_carries envelope.continueOnError
      (service.write outcomes b).1.1 (service.write outcomes b).1.2
    refine ⟨outcomes, (service.write outcomes b).1.1, ?_, ?_⟩
    · rw [hbody]
    · rw [hheader]
      exact hsource.isAnnounced_draw_iff hresponse
  · intro rs
    obtain ⟨mime, rest, hread, hjoin, hannounces⟩ :=
      Response.read_writePart (hsource.isValid_draw hchangeSet) rs
    exact ⟨mime, rest, _, hread, hjoin, (hannounces _).trans (hsource.isAnnounced_draw_iff hchangeSet)⟩

/-- A change set in an answer, under stems of which that of batches begins with a space. -/
theorem announced_iff_numbered :
    let config : Config := { responseStem := " b".toList, changeSetStem := "c d".toList }
    let service : Service Nat Nat :=
      { processor := { answer := fun _ s => ({ status := 204 }, s) }, source := .sequential, config }
    let body : Bytes := Utf8.encode ("--b\r\nContent-Type: application/http\r\n".toList
      ++ "Content-Transfer-Encoding: binary\r\n\r\nGET Items HTTP/1.1\r\n\r\n\r\n--b--\r\n".toList)
    Boundary.isValid " b1".toList ∧ ¬Boundary.IsAnnounced " b1".toList ∧
    config.check = .ok () ∧ ∃ a s' n, service.handle { boundary := some ['b'] } body 0 0 = (.ok a, s', n) ∧
      (∃ outcomes boundary, service.write outcomes 0 = ((boundary, a.body), n) ∧
        (a.header? HeaderName.contentType).bind MediaType.boundary? ≠ some boundary) ∧
      ∀ rs, ∃ mime rest nested, HeaderBlock.read true 1 (Line.readAll
            (Response.writePart .sequential config.changeSetStem (.changeSet rs) 0).1) = .ok (mime, rest) ∧
        Line.join rest = Response.writeMembers nested rs ∧ BodyPart.Announces mime nested := by
  intro config service body
  have hconfig : config.check = .ok () := by decide +kernel
  have hok : (service.handle { boundary := some ['b'] } body 0 0).1.isOk := by decide +kernel
  have hvalid : Boundary.isValid " b1".toList := by decide +kernel
  obtain ⟨htoken, -, hsource, hannounced⟩ := announced_iff " b1".toList service 0
  obtain ⟨hanswer, hchangeSet⟩ := hannounced hconfig (hsource 0 (by decide))
  refine ⟨hvalid, fun hnamed => (htoken hvalid).2.1 hnamed rfl, hconfig, ?_⟩
  rcases hhandle : service.handle { boundary := some ['b'] } body 0 0 with ⟨outcome, s', n⟩
  rw [hhandle] at hok
  cases outcome with
  | error f => cases hok
  | ok a =>
    obtain ⟨outcomes, boundary, hwrite, hiff⟩ := hanswer _ _ _ _ _ _ hhandle
    refine ⟨a, s', n, rfl, ⟨outcomes, boundary, hwrite, fun hnamed => hiff.1 hnamed rfl⟩, ?_⟩
    intro rs
    obtain ⟨mime, rest, nested, hread, hjoin, hiff⟩ := hchangeSet rs
    exact ⟨mime, rest, nested, hread, hjoin, hiff.2 (by decide)⟩

/-- A stem that can be configured, a boundary drawn with it, and the other one that its content type names. -/
theorem boundary_misnamed :
    let stem : Text := " b".toList
    let boundary : Text := (BoundarySource.sequential.draw stem 0).1
    Config.isStem stem ∧ Boundary.isValid boundary ∧ boundary = " b1".toList ∧
      MediaType.boundary? (Boundary.contentType boundary) = some "b1".toList ∧
      ¬Boundary.IsAnnounced boundary := by
  intro stem boundary
  have hvalid : Boundary.isValid boundary := by decide +kernel
  have hnamed : MediaType.boundary? (Boundary.contentType boundary) = some "b1".toList := by
    decide +kernel
  refine ⟨by decide +kernel, hvalid, by decide +kernel, hnamed, ?_⟩
  rw [Boundary.isAnnounced_iff hvalid]
  decide

end Service

end BatchExchange
