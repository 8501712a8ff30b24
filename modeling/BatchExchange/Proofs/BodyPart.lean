import BatchExchange.BodyPart
import BatchExchange.Proofs.Outcome

/-!
# The structure of a part

Exactly when lines are read as a body part, and as which one (`BodyPart.read_eq_ok_iff`), and exactly when
the members of a change set are (`BodyPart.readMembers_eq_ok_iff`).
-/

namespace BatchExchange.BodyPart

open Outcome (bind_eq_ok)

theorem readMembers_eq_ok_iff {strict : Bool} {boundary : Text} {context : Nat} {lines : List Line}
    {es : List Embedded} :
    readMembers strict boundary context lines = .ok es ↔
      ∃ segments, Segment.ofLines boundary context lines = .ok segments ∧ segments ≠ [] ∧
        List.Forall₂ (fun s e => Embedded.read strict (Line.firstNumber context s) s = .ok e)
          segments es := by
  rw [readMembers, bind_eq_ok]
  refine exists_congr fun segments => and_congr_right fun _ => ?_
  by_cases hnil : segments = []
  · rw [if_pos hnil]
    exact ⟨fun h => (nomatch h), fun h => absurd hnil h.1⟩
  · rw [if_neg hnil, Outcome.mapM_eq_ok_iff]
    exact ⟨fun h => ⟨hnil, h⟩, fun h => h.2⟩

/-- The boundary that a header block announces parts with. -/
def Announces (mime : Headers) (boundary : Text) : Prop :=
  ∃ f, mime.get? HeaderName.contentType = some f ∧ MediaType.isMultipart f.value ∧
    MediaType.boundary? f.value = some boundary

theorem Announces.unique {mime : Headers} {b b' : Text} (h : Announces mime b)
    (h' : Announces mime b') : b = b' := by
  obtain ⟨f, hf, -, hb⟩ := h
  obtain ⟨g, hg, -, hb'⟩ := h'
  rw [hf] at hg
  cases hg
  exact Option.some.inj (hb.symm.trans hb')

/-- **What a part is read as**: one operation, or a change set if it has a multipart content type. -/
theorem read_eq_ok_iff {strict : Bool} {context : Nat} {lines : List Line} {part : BodyPart} :
    read strict context lines = .ok part ↔
      ∃ mime rest, HeaderBlock.read strict context lines = .ok (mime, rest) ∧
        ((∀ f, mime.get? HeaderName.contentType = some f → ¬MediaType.isMultipart f.value) ∧
            (∃ e, Embedded.readAfter strict mime rest = .ok e ∧ part = .single e) ∨
          ∃ boundary es, Announces mime boundary ∧ Boundary.isValid boundary ∧
            readMembers strict boundary mime.line rest = .ok es ∧
            part = .changeSet mime boundary es) := by
  rw [read, bind_eq_ok, Prod.exists]
  refine exists_congr fun mime => exists_congr fun rest => and_congr_right fun _ => ?_
  dsimp only
  cases htype : (mime.get? HeaderName.contentType).filter (fun f => MediaType.isMultipart f.value) with
  | none =>
    rw [Option.filter_eq_none_iff] at htype
    have hno : ∀ boundary, ¬Announces mime boundary :=
      fun _ ⟨f, hf, hmulti, _⟩ => htype f hf hmulti
    rw [bind_eq_ok]
    constructor
    · rintro ⟨e, he, h⟩
      exact .inl ⟨htype, e, he, (Except.ok.inj h).symm⟩
    · rintro (⟨-, e, he, rfl⟩ | ⟨boundary, es, hannounces, -⟩)
      · exact ⟨e, he, rfl⟩
      · exact absurd hannounces (hno boundary)
  | some f =>
    rw [Option.filter_eq_some_iff] at htype
    dsimp only
    constructor
    · intro h
      cases hboundary : MediaType.boundary? f.value with
      | none =>
        rw [hboundary] at h
        cases h
      | some boundary =>
        rw [hboundary] at h
        obtain ⟨_, hcheck, h⟩ := bind_eq_ok.1 h
        obtain ⟨es, hes, h⟩ := bind_eq_ok.1 h
        have hvalid : Boundary.isValid boundary :=
          Boundary.check_eq_ok_iff.1 (Outcome.mapError_eq_ok.1 hcheck)
        exact .inr ⟨boundary, es, ⟨f, htype.1, htype.2, hboundary⟩, hvalid, hes, (Except.ok.inj h).symm⟩
    · rintro (⟨hno, -⟩ | ⟨boundary, es, ⟨g, hg, -, hboundary⟩, hvalid, hes, rfl⟩)
      · exact absurd htype.2 (hno f htype.1)
      · obtain rfl : f = g := Option.some.inj (htype.1.symm.trans hg)
        have hcheck := Outcome.mapError_eq_ok (f := Rejection.orAt f.line).2
          (Boundary.check_eq_ok_iff.2 hvalid)
        rw [hboundary]
        exact bind_eq_ok.2 ⟨(), hcheck, bind_eq_ok.2 ⟨es, hes, rfl⟩⟩

/-- A change set that is read has members. -/
theorem ne_nil_of_read {strict : Bool} {context : Nat} {lines : List Line} {mime : Headers}
    {boundary : Text} {es : List Embedded}
    (h : read strict context lines = .ok (.changeSet mime boundary es)) : es ≠ [] := by
  obtain ⟨mime', rest, -, ⟨-, e, -, hpart⟩ | ⟨boundary', es', -, -, hmembers, hpart⟩⟩ :=
    read_eq_ok_iff.1 h
  · cases hpart
  · cases hpart
    obtain ⟨segments, -, hne, hall⟩ := readMembers_eq_ok_iff.1 hmembers
    rintro rfl
    exact hne (List.forall₂_nil_right_iff.1 hall)

end BatchExchange.BodyPart
