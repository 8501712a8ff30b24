import BatchExchange.Proofs.Response.Message

/-!
# A written batch of responses is read back

The parts of a written batch are cut at its delimiters, and the members of a change set at those of the
boundary that was drawn for it, as long as no line of a body and no delimiter of a change set is mistaken for
a delimiter around it.  Bodies are arbitrary octets otherwise.

* `Response.PartsFit`: parts that can be told from the delimiters around them.
* `Response.readBatch_writeBatch`: such parts come back in order and shape, and are written again as they were.
-/

namespace BatchExchange.Response

open Line (raw split IsWhole)
open Segment (Avoids frame trimEnding)

/-- A change set that can be told from the delimiters around it and between its members. -/
structure NestedFits (boundary nested : Text) (rs : List Response) : Prop where
  valid : Boundary.isValid nested
  head : nested.head? ≠ some ' '
  delimiter : Avoids boundary (writeDelimiter nested)
  close : Avoids boundary (writeClose nested)
  members : ∀ r ∈ rs, r.Fits [boundary, nested]

instance (boundary nested : Text) (rs : List Response) : Decidable (NestedFits boundary nested rs) :=
  decidable_of_iff
    (Boundary.isValid nested ∧ nested.head? ≠ some ' ' ∧ Avoids boundary (writeDelimiter nested) ∧
      Avoids boundary (writeClose nested) ∧ ∀ r ∈ rs, r.Fits [boundary, nested])
    ⟨fun ⟨h1, h2, h3, h4, h5⟩ => ⟨h1, h2, h3, h4, h5⟩, fun ⟨h1, h2, h3, h4, h5⟩ => ⟨h1, h2, h3, h4, h5⟩⟩

/-! ### Change sets -/

/-- A change set as it is written. -/
def changeSet (nested : Text) (rs : List Response) : Nested where
  part := [(HeaderName.contentType, Boundary.contentType nested)]
  boundary := nested
  members := rs.map write

theorem writeMembers_eq (nested : Text) (rs : List Response) :
    writeMembers nested rs = frame nested (rs.map write) ++ crlf := by
  rw [writeMembers, frame, List.flatMap_map, List.append_assoc]
  rfl

section Nested

variable {boundary nested : Text} {rs : List Response} (h : NestedFits boundary nested rs)

include h

theorem fits_nested : (changeSet nested rs).Fits boundary where
  part p hp := by
    rw [changeSet, List.mem_singleton] at hp
    subst hp
    have hname : HeaderBlock.isName HeaderName.contentType := by decide
    have hhyphens : after? "--".toList HeaderName.contentType = none := by decide
    exact ⟨hname, hhyphens, Boundary.isOneLine_contentType h.valid, Boundary.trim_contentType h.valid⟩
  valid := h.valid
  delimiter := h.delimiter
  close := h.close
  members s hs := by
    obtain ⟨r, hr, rfl⟩ := List.mem_map.1 hs
    have hfits := fits_message (h.members r hr)
    have hinner : nested ∈ [boundary, nested] := by simp
    have houter : boundary ∈ [boundary, nested] := by simp
    rw [write_eq]
    exact ⟨Message.isWhole_write _, Message.avoids_write hfits hinner,
      Message.avoids_write hfits houter⟩

theorem nested?_changeSet {mime : Headers}
    (hm : mime.unplaced = Headers.ofList (changeSet nested rs).part) : nested? mime = some nested := by
  have hf : (mime.get? HeaderName.contentType).map Field.unplaced
      = some { name := HeaderName.contentType, first := Boundary.contentType nested } := by
    rw [← Headers.get?_unplaced, hm]
    rfl
  obtain ⟨f, hget, hplace⟩ := Option.map_eq_some_iff.1 hf
  rw [nested?, hget, Option.bind_some, ← Field.value_unplaced, hplace, Field.value_of_single]
  exact MediaType.boundary?_contentType h.valid h.head

/-- **A written change set is read back.** -/
theorem readPart_changeSet {lines : List Line} (hl : lines.map raw = split (changeSet nested rs).write) :
    ∃ rs', readPart (trimEnding lines) = .ok (.changeSet rs') ∧ List.Forall₂ ReadAs rs rs' := by
  obtain ⟨mime, rest, hread, hm, framed, hcut, hframed⟩ := Nested.read_write (fits_nested h) hl false
    (Line.firstNumber 1 (trimEnding lines))
  have hmembers : List.Forall₂
      (fun ls r => ∃ r', readMember mime.line ls = .ok r' ∧ ReadAs r r') (framed.map trimEnding) rs := by
    rw [changeSet, List.forall₂_map_right_iff] at hframed
    rw [List.forall₂_map_left_iff]
    exact Outcome.forall₂_imp_of_mem hframed fun ls r hr hls =>
      readMember_written (h.members r hr) hls mime.line
  obtain ⟨rs', hall, has⟩ := Outcome.exists_mapM_eq_ok hmembers
  refine ⟨rs', Outcome.bind_eq_ok.2 ⟨_, hread, ?_⟩, has⟩
  simp only [nested?_changeSet h hm]
  refine Outcome.bind_eq_ok.2 ⟨_, hcut, ?_⟩
  exact Outcome.bind_eq_ok.2 ⟨rs', hall, rfl⟩

end Nested

/-! ### Batches -/

section Source

variable {σ : Type} (source : BoundarySource σ) (stem boundary : Text)

/-- A part that can be told from the delimiters around it, if boundaries are drawn from `s`. -/
def PartFits (s : σ) : Part Response → Prop
  | .single r => r.Fits [boundary]
  | .changeSet rs => NestedFits boundary (source.draw stem s).1 rs

/-- Parts that can be told from the delimiters around them, if they are written from `s` on. -/
def PartsFit : List (Part Response) → σ → Prop
  | [], _ => True
  | part :: parts, s =>
    PartFits source stem boundary s part ∧ PartsFit parts (writePart source stem part s).2

instance (s : σ) (part : Part Response) : Decidable (PartFits source stem boundary s part) :=
  match part with
  | .single r => inferInstanceAs (Decidable (r.Fits [boundary]))
  | .changeSet rs => inferInstanceAs (Decidable (NestedFits boundary (source.draw stem s).1 rs))

instance decidablePartsFit (parts : List (Part Response)) (s : σ) :
    Decidable (PartsFit source stem boundary parts s) :=
  match parts with
  | [] => .isTrue trivial
  | part :: parts =>
    have := decidablePartsFit parts (writePart source stem part s).2
    inferInstanceAs (Decidable (PartFits source stem boundary s part ∧ PartsFit source stem boundary
      parts (writePart source stem part s).2))

/-- What is written inside of each part. -/
def insides : List (Part Response) → σ → List Bytes
  | [], _ => []
  | part :: parts, s =>
    (writePart source stem part s).1 :: insides parts (writePart source stem part s).2

theorem writeParts_eq (parts : List (Part Response)) (s : σ) :
    (writeParts source stem boundary parts s).1
      = (insides source stem parts s).flatMap fun bytes => writeDelimiter boundary ++ bytes := by
  induction parts generalizing s with
  | nil => rfl
  | cons part parts ih =>
    rw [insides, List.flatMap_cons, ← ih]
    rfl

theorem writeBatch_eq (parts : List (Part Response)) (s : σ) :
    (writeBatch source stem boundary parts s).1
      = frame boundary (insides source stem parts s) ++ crlf := by
  show (writeParts source stem boundary parts s).1 ++ writeClose boundary = _
  rw [writeParts_eq, frame, List.append_assoc]
  rfl

variable {source stem boundary} {s : σ}

theorem writePart_changeSet (rs : List Response) :
    (writePart source stem (.changeSet rs) s).1 = (changeSet (source.draw stem s).1 rs).write := by
  show writeHeader _ _ ++ crlf ++ writeMembers _ rs = _
  rw [writeMembers_eq, Nested.write, changeSet, HeaderBlock.write, List.flatMap_cons, List.flatMap_nil,
    List.append_nil, List.append_assoc]

theorem avoids_writePart {part : Part Response} (h : PartFits source stem boundary s part) :
    IsWhole (writePart source stem part s).1 ∧ Avoids boundary (writePart source stem part s).1 := by
  cases part with
  | single r =>
    show IsWhole (write r) ∧ Avoids boundary (write r)
    rw [write_eq]
    exact ⟨Message.isWhole_write _, Message.avoids_write (fits_message h) (List.mem_singleton_self _)⟩
  | changeSet rs =>
    rw [writePart_changeSet]
    exact ⟨Nested.isWhole_write _, Nested.avoids_write (fits_nested h)⟩

/-- **A written part is read back.** -/
theorem readPart_writePart {part : Part Response} (h : PartFits source stem boundary s part)
    {lines : List Line} (hl : lines.map raw = split (writePart source stem part s).1) :
    ∃ part', readPart (trimEnding lines) = .ok part' ∧ Part.Rel ReadAs part part' := by
  cases part with
  | single r =>
    have hfits : r.Fits [boundary] := h
    obtain ⟨r', hr', has⟩ := readPart_written hfits hl
    exact ⟨.single r', hr', .single has⟩
  | changeSet rs =>
    rw [writePart_changeSet] at hl
    obtain ⟨rs', hrs', has⟩ := readPart_changeSet h hl
    exact ⟨.changeSet rs', hrs', .changeSet has⟩

theorem avoids_insides {parts : List (Part Response)} (h : PartsFit source stem boundary parts s) :
    ∀ bytes ∈ insides source stem parts s, IsWhole bytes ∧ Avoids boundary bytes := by
  induction parts generalizing s with
  | nil => exact fun _ hb => (nomatch hb)
  | cons part parts ih =>
    rw [insides, List.forall_mem_cons]
    exact ⟨avoids_writePart h.1, ih h.2⟩

theorem forall_readPart {parts : List (Part Response)} (h : PartsFit source stem boundary parts s)
    {framed : List (List Line)}
    (hf : List.Forall₂ (fun ls bytes => ls.map raw = split bytes) framed (insides source stem parts s)) :
    List.Forall₂ (fun ls part => ∃ part', readPart ls = .ok part' ∧ Part.Rel ReadAs part part')
      (framed.map trimEnding) parts := by
  induction parts generalizing s framed with
  | nil =>
    rw [insides, List.forall₂_nil_right_iff] at hf
    rw [hf]
    exact .nil
  | cons part parts ih =>
    rw [insides, List.forall₂_cons_right_iff] at hf
    obtain ⟨ls, rest, hls, hrest, rfl⟩ := hf
    exact .cons (readPart_writePart h.1 hls) (ih h.2 hrest)

/-- What stands between the delimiters of a written batch is read part by part. -/
theorem exists_readBatch (hb : Boundary.isValid boundary) {parts : List (Part Response)}
    (h : PartsFit source stem boundary parts s) :
    ∃ parts', readBatch boundary (writeBatch source stem boundary parts s).1 = .ok parts' ∧
      List.Forall₂ (Part.Rel ReadAs) parts parts' := by
  have hlines : (Line.readAll (writeBatch source stem boundary parts s).1).map raw
      = split ([] ++ frame boundary (insides source stem parts s) ++ crlf) := by
    rw [Line.map_raw_readAll, writeBatch_eq, List.nil_append]
  obtain ⟨-, framed, hcut, hframed⟩ := Segment.ofLines_frame hb Line.isWhole_nil
    (Segment.avoids_nil boundary) (avoids_insides h) Line.head?_crlf hlines 1
  obtain ⟨parts', hall, has⟩ := Outcome.exists_mapM_eq_ok (forall_readPart h hframed)
  have hcheck : Boundary.check boundary = .ok () := Boundary.check_eq_ok_iff.2 hb
  exact ⟨parts', Outcome.bind_eq_ok.2 ⟨(), hcheck, Outcome.bind_eq_ok.2 ⟨_, hcut, hall⟩⟩, has⟩

theorem writePart_of_rel {part part' : Part Response} (h : Part.Rel ReadAs part part') :
    writePart source stem part' s = writePart source stem part s := by
  cases h with
  | single h => rw [writePart, writePart, h.write_eq]
  | changeSet h =>
    rename_i rs rs'
    have hmembers : ∀ nested, writeMembers nested rs' = writeMembers nested rs := by
      intro nested
      rw [writeMembers_eq, writeMembers_eq]
      congr 2
      clear nested
      induction h with
      | nil => rfl
      | cons h _ ih => rw [List.map_cons, List.map_cons, h.write_eq, ih]
    rw [writePart, writePart]
    simp only [hmembers]

/-- **Parts that were read are written as they were.** -/
theorem writeParts_of_rel {parts parts' : List (Part Response)}
    (h : List.Forall₂ (Part.Rel ReadAs) parts parts') :
    writeParts source stem boundary parts' s = writeParts source stem boundary parts s := by
  induction h generalizing s with
  | nil => rfl
  | cons hpart _ ih => simp only [writeParts, writePart_of_rel hpart, ih]

/-- **A written batch of responses is read back**: its parts come in their order and their shape, each
response as `ReadAs` has it, and they are written again as they were. -/
theorem readBatch_writeBatch (hb : Boundary.isValid boundary) {parts : List (Part Response)}
    (h : PartsFit source stem boundary parts s) :
    ∃ parts', readBatch boundary (writeBatch source stem boundary parts s).1 = .ok parts' ∧
      List.Forall₂ (Part.Rel ReadAs) parts parts' ∧
      writeBatch source stem boundary parts' s = writeBatch source stem boundary parts s := by
  obtain ⟨parts', hread, has⟩ := exists_readBatch hb h
  refine ⟨parts', hread, has, ?_⟩
  rw [writeBatch, writeBatch, writeParts_of_rel has]

end Source

/-- A response alone, a change set with a body of mixed line ends and an empty change set. -/
theorem readBatch_writeBatch_mixed :
    let parts : List (Part Response) :=
      [.single { status := 204 },
        .changeSet [{
          status := 201
          headers := .ofList [("content-id".toList, "1".toList), ("ETag".toList, "W".toList)]
          body := [13, 255, 45, 45, 98, 10] }],
        .changeSet []]
    Boundary.isValid "b".toList ∧ PartsFit .sequential changeSetStem "b".toList parts 0 ∧
      ∃ parts', readBatch "b".toList (writeBatch .sequential changeSetStem "b".toList parts 0).1
          = .ok parts' ∧
        List.Forall₂ (Part.Rel ReadAs) parts parts' ∧
        writeBatch .sequential changeSetStem "b".toList parts' 0
          = writeBatch .sequential changeSetStem "b".toList parts 0 := by
  intro parts
  have hb : Boundary.isValid "b".toList := by decide
  have h : PartsFit .sequential changeSetStem "b".toList parts 0 := by decide +kernel
  exact ⟨hb, h, readBatch_writeBatch hb h⟩

end BatchExchange.Response
