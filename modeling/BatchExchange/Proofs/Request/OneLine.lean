import BatchExchange.Proofs.Extent
import BatchExchange.Proofs.HeaderBlock
import BatchExchange.Proofs.Request.ContentId

/-!
# Content-IDs stay on one line

A line is read up to its end, so no text of a line has a line end, and no value of a header block that is
read, even if the value is continued.  So a Content-ID of an accepted request can be written as a header again.

* `HeaderBlock.isOneLine_read`: what header blocks hold.
* `Request.isOneLine_of_readBatch`: the Content-IDs of an accepted batch.
-/

namespace BatchExchange

open Line (IsOneLine)

/-- All values stay on one line. -/
def Headers.IsOneLine (h : Headers) : Prop := ∀ f ∈ h.fields, ∀ value ∈ f.values, Line.IsOneLine value

theorem Field.isOneLine_extend {f : Field} {more : Text} (hf : ∀ value ∈ f.values, IsOneLine value)
    (hmore : IsOneLine more) : ∀ value ∈ (f.extend more).values, IsOneLine value := by
  have hjoin : ∀ value, IsOneLine value →
      IsOneLine (if value = [] then more else value ++ ' ' :: more) := by
    intro value hvalue
    split
    · exact hmore
    · exact hvalue.append (IsOneLine.append (s := [' ']) (by decide) hmore)
  obtain ⟨name, first, others, line⟩ := f
  rw [values, List.forall_mem_cons] at hf
  rw [extend]
  cases hlast : others.getLast? with
  | none =>
    rw [List.getLast?_eq_none_iff] at hlast
    subst hlast
    rw [values, List.forall_mem_cons]
    exact ⟨hjoin first hf.1, hf.2⟩
  | some last =>
    rw [values, List.forall_mem_cons, List.forall_mem_append, List.forall_mem_singleton]
    have hothers := hf.2
    exact ⟨hf.1, fun value hvalue => hothers value (List.dropLast_subset _ hvalue),
      hjoin last (hothers last (List.mem_of_getLast? hlast))⟩

namespace HeaderBlock

/-- What a line adds to a block stays on one line, as the line does. -/
theorem isOneLine_addLine? {h h' : Headers} {l : Line} (hh : h.IsOneLine) (hl : IsOneLine l.text)
    (hadd : addLine? h l = some h') : h'.IsOneLine := by
  rw [addLine?] at hadd
  split_ifs at hadd with hcontinues hnil
  -- the line continues the last value of the last field
  · rw [Option.some.injEq] at hadd
    subst hadd
    have hmore : IsOneLine (Text.trim l.text) := hl.of_subset (Text.trim_subset _)
    intro f hf
    rw [Headers.extendLast] at hf
    dsimp only at hf
    cases hlast : h.fields.getLast? with
    | none =>
      rw [hlast] at hf
      cases hf
    | some last =>
      rw [hlast, List.mem_append, List.mem_singleton] at hf
      rcases hf with hf | rfl
      · exact hh f (List.dropLast_subset _ hf)
      · exact Field.isOneLine_extend (hh last (List.mem_of_getLast? hlast)) hmore
  -- the line gives a value of its own
  · obtain ⟨⟨name, value⟩, hfield, rfl⟩ := Option.map_eq_some_iff.1 hadd
    rw [field?, Option.map_eq_some_iff] at hfield
    obtain ⟨⟨name', rest⟩, hcut, hvalue⟩ := hfield
    obtain ⟨rfl, rfl⟩ := Prod.mk.inj hvalue
    obtain ⟨hcut, -⟩ := Option.filter_eq_some_iff.1 hcut
    obtain ⟨htext, -⟩ := cut?_eq_some_iff.1 hcut
    have hrest : rest ⊆ l.text := by
      rw [htext]
      exact fun c hc => List.mem_append_right _ (List.mem_cons_of_mem ':' hc)
    have hone : IsOneLine (Text.trim rest) :=
      hl.of_subset (List.Subset.trans (Text.trim_subset rest) hrest)
    intro f hf
    rcases Headers.mem_fields_alter hf with hf | rfl | ⟨g, hg, rfl⟩
    · exact hh f hf
    · exact List.forall_mem_singleton.2 hone
    · intro v hv
      rw [Field.values, Field.push, ← List.cons_append, List.mem_append, List.mem_singleton] at hv
      rcases hv with hv | rfl
      · exact hh g hg v hv
      · exact hone

/-- **A header block has values of one line each**, and what is left behind it are lines of the part. -/
theorem isOneLine_read {strict : Bool} {context : Nat} {h : Headers} {lines rest : List Line}
    (hlines : ∀ l ∈ lines, IsOneLine l.text) (hread : read strict context lines = .ok (h, rest)) :
    h.IsOneLine ∧ ∀ l ∈ rest, IsOneLine l.text := by
  refine ⟨?_, fun l hl => hlines l (subset_of_read hread hl)⟩
  refine read_preserves (I := Headers.IsOneLine) (fun _ _ hf => (nomatch hf)) ?_ hread
  exact fun l hl _ _ hh => isOneLine_addLine? hh (hlines l hl)

end HeaderBlock

theorem Segment.isOneLine_ofLines {b : Text} {context : Nat} {lines : List Line}
    {segments : List (List Line)} (hlines : ∀ l ∈ lines, IsOneLine l.text)
    (h : ofLines b context lines = .ok segments) :
    ∀ segment ∈ segments, ∀ l ∈ segment, IsOneLine l.text :=
  forall_mem_ofLines (P := fun l => IsOneLine l.text) (fun _ hone => hone) hlines h

/-! ### Operations and their requests -/

/-- An operation whose header values, and those of the part around it, stay on one line. -/
structure Embedded.IsOneLine (e : Embedded) : Prop where
  mime : e.mime.IsOneLine
  own : e.operation.headers.IsOneLine

namespace Embedded

theorem isOneLine_readAfter {strict : Bool} {mime : Headers} {rest : List Line} {e : Embedded}
    (hmime : mime.IsOneLine) (hrest : ∀ l ∈ rest, Line.IsOneLine l.text)
    (h : readAfter strict mime rest = .ok e) : e.IsOneLine := by
  obtain ⟨op, hop, h⟩ := Outcome.bind_eq_ok.1 h
  obtain rfl := Except.ok.inj h
  refine ⟨hmime, ?_⟩
  obtain ⟨blanks, behind, rfl, -, -, hread⟩ := Operation.exists_of_read hop
  have hbehind : ∀ l ∈ behind, Line.IsOneLine l.text :=
    fun l hl => hrest l (List.mem_append_right _ (List.mem_cons_of_mem _ hl))
  exact (HeaderBlock.isOneLine_read hbehind hread).1

theorem isOneLine_read {strict : Bool} {context : Nat} {lines : List Line} {e : Embedded}
    (hlines : ∀ l ∈ lines, Line.IsOneLine l.text) (h : read strict context lines = .ok e) :
    e.IsOneLine := by
  obtain ⟨⟨mime, rest⟩, hmime, h⟩ := Outcome.bind_eq_ok.1 h
  obtain ⟨hone, hrest⟩ := HeaderBlock.isOneLine_read hlines hmime
  exact isOneLine_readAfter hone hrest h

end Embedded

namespace Request

theorem isOneLine_contentId?_of_request {options : Options} {member : Bool} {op : Operation} {r : Request}
    (hop : op.headers.IsOneLine) (h : Acceptance.request options member op = .ok r) {id : Text}
    (hid : r.contentId? = some id) : IsOneLine id := by
  rw [contentId?_of_request h] at hid
  obtain ⟨f, hf, hsingle⟩ := Option.bind_eq_some_iff.1 hid
  obtain ⟨hvalues, -⟩ := Field.single?_eq_some_iff.1 hsingle
  refine hop f (Headers.mem_of_get? hf) id ?_
  rw [hvalues]
  exact List.mem_singleton_self id

theorem isOneLine_put {h mime : Headers} {f : Field} {id : Text} (hh : h.IsOneLine)
    (hmime : mime.IsOneLine) (hf : Acceptance.contentIdField mime = .ok (some (f, id))) :
    (h.put f).IsOneLine := by
  intro g hg
  rcases Headers.mem_fields_put hg with hg | rfl
  · exact hh g hg
  · exact hmime g (Headers.mem_of_get? (Acceptance.contentIdField_eq_some_iff.1 hf).1)

theorem isOneLine_of_members {options : Options} {seen : List Text} {es : List Embedded}
    {rs : List Request} (hes : ∀ e ∈ es, e.IsOneLine) (h : Acceptance.members options seen es = .ok rs) :
    ∀ r ∈ rs, ∀ id, r.contentId? = some id → IsOneLine id := by
  induction es generalizing seen rs with
  | nil =>
    cases h
    exact fun _ hr => (nomatch hr)
  | cons e es ih =>
    rw [List.forall_mem_cons] at hes
    obtain ⟨-, -, id, line, op, r, rs', hop, -, hr, hrs, rfl⟩ := Acceptance.members_cons_eq_ok_iff.1 h
    have hone : op.headers.IsOneLine := by
      rcases Acceptance.withMemberId_eq_ok_iff.1 hop with ⟨f, hf, -, rfl⟩ | ⟨-, f, -, -, rfl⟩
      · exact isOneLine_put hes.1.own hes.1.mime hf
      · exact hes.1.own
    exact List.forall_mem_cons.2 ⟨fun _ => isOneLine_contentId?_of_request hone hr, ih hes.2 hrs⟩

theorem isOneLine_of_readPart {options : Options} {lines : List Line} {p : Part Request}
    (hlines : ∀ l ∈ lines, IsOneLine l.text) (h : readPart options lines = .ok p) :
    ∀ r ∈ p.items, ∀ id, r.contentId? = some id → IsOneLine id := by
  obtain ⟨part, hread, haccept⟩ := readPart_eq_ok_iff.1 h
  obtain ⟨mime, rest, hmime, ⟨-, e, he, rfl⟩ | ⟨nested, es, -, -, hes, rfl⟩⟩ :=
    BodyPart.read_eq_ok_iff.1 hread
  · obtain ⟨hone, hrest⟩ := HeaderBlock.isOneLine_read hlines hmime
    have he := Embedded.isOneLine_readAfter hone hrest he
    obtain ⟨-, -, op, r, hop, hr, rfl⟩ := Acceptance.part_single_eq_ok_iff.1 haccept
    have hown : op.headers.IsOneLine := by
      rcases Acceptance.withPartId_eq_ok_iff.1 hop with
        ⟨-, rfl⟩ | ⟨f, id, hf, ⟨-, rfl⟩ | ⟨own, -, rfl⟩⟩
      · exact he.own
      · exact isOneLine_put he.own he.mime hf
      · exact he.own
    exact List.forall_mem_singleton.2 fun _ => isOneLine_contentId?_of_request hown hr
  · obtain ⟨-, hrest⟩ := HeaderBlock.isOneLine_read hlines hmime
    obtain ⟨segments, hsegments, -, hall⟩ := BodyPart.readMembers_eq_ok_iff.1 hes
    have hone : ∀ e ∈ es, e.IsOneLine := by
      intro e he
      obtain ⟨segment, hs, hread⟩ := Outcome.exists_of_mem_right hall he
      exact Embedded.isOneLine_read (Segment.isOneLine_ofLines hrest hsegments segment hs) hread
    obtain ⟨-, rs, hrs, rfl⟩ := Acceptance.part_changeSet_eq_ok_iff.1 haccept
    exact isOneLine_of_members hone hrs

/-- **The Content-IDs of an accepted batch stay on one line**, whatever octets it is made of. -/
theorem isOneLine_of_readBatch {options : Options} {boundary : Text} {body : Bytes}
    {parts : List (Part Request)} (h : readBatch options boundary body = .ok parts) :
    ∀ q ∈ parts, ∀ r ∈ q.items, ∀ id, r.contentId? = some id → IsOneLine id := by
  obtain ⟨-, -, segments, hsegments, hparts⟩ := readBatch_eq_ok_iff.1 h
  intro q hq
  obtain ⟨segment, hs, hread⟩ := Outcome.exists_of_mem_right hparts hq
  have hlines := Segment.isOneLine_ofLines
    (fun l hl => Line.isOneLine_text_of_mem_readAll hl) hsegments segment hs
  exact isOneLine_of_readPart hlines hread

end Request

end BatchExchange
