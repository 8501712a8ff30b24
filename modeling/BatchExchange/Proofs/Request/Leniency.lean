import BatchExchange.Proofs.Request.Acceptance

/-!
# Lenient reading gives what strict reading gives

Leniency skips malformed header lines, accepts header blocks without their blank line and skips blank lines in
front of a request line.  Strict reading refuses each of these, so lenient reading does none of it where strict
reading succeeds, and what is read there is the same.

* `HeaderBlock.read_refines`, `Operation.read_refines`, `BodyPart.read_refines`: the structure of a part.
* `Acceptance.part_strict`: acceptance does not ask how a part was read.
* `Request.strict_refines_lenient`: whole batches.
-/

namespace BatchExchange

open Outcome (Refines refines_error refines_mapM)

theorem HeaderBlock.readFrom_refines (h : Headers) (last : Nat) (lines : List Line) :
    Refines (readFrom true h last lines) (readFrom false h last lines) := by
  induction lines generalizing h last with
  | nil => exact refines_error _ _
  | cons l lines ih =>
    rw [readFrom, readFrom]
    split
    · exact Refines.refl _
    split
    · exact Refines.refl _
    cases addLine? h l with
    | some next => exact ih next l.number
    -- strict reading refuses the line that lenient reading skips
    | none => exact refines_error _ _

theorem HeaderBlock.read_refines (context : Nat) (lines : List Line) :
    Refines (read true context lines) (read false context lines) :=
  readFrom_refines _ context lines

/-- An operation is read alike in both ways, if there is no blank line in front of it. -/
theorem Operation.read_cons {l : Line} (hl : l.isBlank = false) (strict : Bool) (context : Nat)
    (rest : List Line) :
    read strict context (l :: rest) = do
      let (headers, body) ← HeaderBlock.read strict l.number rest
      return ⟨l, headers, body⟩ := by
  have hlines : (if strict then l :: rest else (l :: rest).dropWhile Line.isBlank) = l :: rest := by
    rw [List.dropWhile_cons_of_neg (by simp [hl]), ite_self]
  rw [read, hlines]
  dsimp only
  rw [hl, if_neg (by decide)]

theorem Operation.read_refines (context : Nat) (lines : List Line) :
    Refines (read true context lines) (read false context lines) := by
  cases lines with
  | nil => exact Refines.refl _
  | cons l rest =>
    by_cases hl : l.isBlank
    · rw [read, if_pos rfl]
      dsimp only
      rw [if_pos hl]
      exact refines_error _ _
    · rw [Bool.not_eq_true] at hl
      rw [read_cons hl, read_cons hl]
      exact (HeaderBlock.read_refines l.number rest).bind fun _ => Refines.refl _

namespace Embedded

theorem readAfter_refines (mime : Headers) (rest : List Line) :
    Refines (readAfter true mime rest) (readAfter false mime rest) :=
  (Operation.read_refines mime.line rest).bind fun _ => Refines.refl _

theorem read_refines (context : Nat) (lines : List Line) :
    Refines (read true context lines) (read false context lines) :=
  (HeaderBlock.read_refines context lines).bind fun p => readAfter_refines p.1 p.2

end Embedded

namespace BodyPart

theorem readMembers_refines (boundary : Text) (context : Nat) (lines : List Line) :
    Refines (readMembers true boundary context lines) (readMembers false boundary context lines) := by
  refine (Refines.refl (Segment.ofLines boundary context lines)).bind fun segments => ?_
  split
  · exact Refines.refl _
  · exact refines_mapM (fun segment => Embedded.read_refines _ segment) segments

/-- **A part that is read strictly is read leniently**, and as the same. -/
theorem read_refines (context : Nat) (lines : List Line) :
    Refines (read true context lines) (read false context lines) := by
  refine (HeaderBlock.read_refines context lines).bind fun p => ?_
  dsimp only
  split
  · exact (Embedded.readAfter_refines p.1 p.2).bind fun _ => Refines.refl _
  split
  · exact Refines.refl _
  · refine (Refines.refl _).bind fun _ => ?_
    exact (readMembers_refines _ p.1.line p.2).bind fun _ => Refines.refl _

end BodyPart

namespace Acceptance

theorem members_strict (options : Options) (strict : Bool) (seen : List Text) (es : List Embedded) :
    members { options with strict } seen es = members options seen es := by
  induction es generalizing seen with
  | nil => rfl
  | cons e es ih =>
    rw [members, members]
    simp only [ih]
    rfl

/-- Acceptance does not ask how a part was read. -/
theorem part_strict (options : Options) (strict : Bool) (part : BodyPart) :
    Acceptance.part { options with strict } part = Acceptance.part options part := by
  cases part with
  | single e => rfl
  | changeSet mime boundary es =>
    rw [Acceptance.part, Acceptance.part, members_strict]

end Acceptance

namespace Request

theorem readPart_refines (options : Options) (lines : List Line) :
    Refines (readPart { options with strict := true } lines)
      (readPart { options with strict := false } lines) := by
  refine (BodyPart.read_refines (Line.firstNumber 1 lines) lines).bind fun part => ?_
  rw [Acceptance.part_strict options true, Acceptance.part_strict options false]
  exact Refines.refl _

theorem readBatch_refines (options : Options) (boundary : Text) (body : Bytes) :
    Refines (readBatch { options with strict := true } boundary body)
      (readBatch { options with strict := false } boundary body) := by
  refine (Refines.refl (Boundary.check boundary)).bind fun _ => ?_
  refine (Refines.refl (Segment.ofLines boundary 1 (Line.readAll body))).bind fun segments => ?_
  exact (refines_mapM (readPart_refines options) segments).bind fun _ => Refines.refl _

/-- **What strict reading accepts, lenient reading accepts as the same parts**, so what lenient reading refuses
strict reading refuses. -/
theorem strict_refines_lenient (options : Options) (boundary : Text) (body : Bytes) :
    (∀ parts, readBatch { options with strict := true } boundary body = .ok parts →
        readBatch { options with strict := false } boundary body = .ok parts) ∧
      ∀ r, readBatch { options with strict := false } boundary body = .error r →
        ∃ r', readBatch { options with strict := true } boundary body = .error r' := by
  have hrefines := readBatch_refines options boundary body
  refine ⟨hrefines, fun r hr => ?_⟩
  cases hstrict : readBatch { options with strict := true } boundary body with
  | error r' => exact ⟨r', rfl⟩
  | ok parts =>
    rw [hrefines parts hstrict] at hr
    cases hr

/-- A query and a change set that are read strictly, and a batch that not even lenient reading accepts. -/
theorem strict_refines_lenient_mixed :
    let part (content : Text) : Text :=
      "--b\r\nContent-Type: application/http\r\n".toList
        ++ "Content-Transfer-Encoding: binary\r\n\r\n".toList ++ content
    let accepted : Bytes := Utf8.encode (part "GET Items?top=1 HTTP/1.1\r\n".toList
      ++ "Accept: a,\r\n b\r\n\r\n\r\n".toList
      ++ "--b\r\nContent-Type: multipart/mixed; boundary=c\r\n\r\n".toList
      ++ "--c\r\nContent-Type: application/http\r\nContent-Transfer-Encoding: binary\r\n".toList
      ++ "Content-ID: 1\r\n\r\nPOST Items HTTP/1.1\r\n\r\n\r\nbody\r\n--c--\r\n--b--\r\n".toList)
    let refused : Bytes := Utf8.encode (part "GET Items HTTP/1.1\r\n--c\r\n\r\n--b--\r\n".toList)
    (∃ parts, readBatch { strict := true } "b".toList accepted = .ok parts ∧ parts.length = 2 ∧
        readBatch { strict := false } "b".toList accepted = .ok parts) ∧
      ∃ r r', readBatch { strict := false } "b".toList refused = .error r ∧
        readBatch { strict := true } "b".toList refused = .error r' := by
  intro part accepted refused
  have haccepted : (readBatch { strict := true } "b".toList accepted).toOption.map List.length = some 2 := by
    decide +kernel
  have hrefused : (readBatch { strict := false } "b".toList refused).isOk = false := by decide +kernel
  refine ⟨?_, ?_⟩
  · cases h : readBatch { strict := true } "b".toList accepted with
    | error r =>
      rw [h] at haccepted
      cases haccepted
    | ok parts =>
      rw [h] at haccepted
      exact ⟨parts, rfl, Option.some.inj haccepted,
        (strict_refines_lenient {} "b".toList accepted).1 parts h⟩
  · cases h : readBatch { strict := false } "b".toList refused with
    | error r =>
      obtain ⟨r', hr'⟩ := (strict_refines_lenient {} "b".toList refused).2 r h
      exact ⟨r, r', rfl, hr'⟩
    | ok parts =>
      rw [h] at hrefused
      cases hrefused

end Request

end BatchExchange
