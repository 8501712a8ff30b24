import BatchExchange.Proofs.Request.ContentId
import BatchExchange.Proofs.Request.Dispatch

/-!
# Content lengths agree with bodies

A request that was accepted has as many octets of body as its content length says, since the body is cut to
that length, and replacing references in the body writes the length anew.  So a processor can rely on it.  A
content length that cannot be kept, because it is repeated, no number or too large for the body, makes the whole
batch refused.

* `Decimal.value?`: numerals of any size.
* `Field.States`, `Field.Misstates`: a field that gives a length, and one that cannot.
* `Request.Measured`: the content length is that of the body.
* `Request.measured_of_accepted`, `Request.Measured.expand`: accepted requests are measured and stay so.
* `Request.contentLength_agrees`: so is all that a processor is given, and what misstates a length is refused.
-/

namespace BatchExchange

/-! ### Lengths -/

namespace Decimal

/-- The number that a numeral writes, of whatever size. -/
def value? (t : Text) : Option Nat :=
  let digits := (after? ['+'] t).getD t
  if digits = [] then none else readDigits 0 digits

theorem read?_eq_filter (bound : Nat) (t : Text) : read? bound t = (value? t).filter (· < bound) := by
  unfold read? value?
  dsimp only
  split
  · rfl
  · rfl

theorem value?_of_read? {bound n : Nat} {t : Text} (h : read? bound t = some n) : value? t = some n := by
  rw [read?_eq_filter, Option.filter_eq_some_iff] at h
  exact h.1

theorem value?_write (n : Nat) : value? (write n) = some n :=
  value?_of_read? (read?_write (Nat.lt_succ_self n))

theorem comma_not_mem_write (n : Nat) : ',' ∉ write n :=
  fun hmem => absurd (isDigit_of_mem_write hmem) (by decide)

end Decimal

namespace Field

/-- The field gives the length `n`: its only value is no list and writes this number. -/
def States (f : Field) (n : Nat) : Prop :=
  ∃ v, f.values = [v] ∧ ',' ∉ v ∧ Decimal.value? (Text.trim v) = some n

/-- The field gives no length that `available` octets can have. -/
inductive Misstates (f : Field) (available : Nat) : Prop
  | repeated (h : 1 < f.values.length)
  | malformed {v : Text} (hv : v ∈ f.values) (h : ',' ∈ v ∨ Decimal.value? (Text.trim v) = none)
  | excessive {v : Text} {n : Nat} (hv : v ∈ f.values) (hn : Decimal.value? (Text.trim v) = some n)
      (h : available < n)

/-- A field that gives a length which is available does not misstate it. -/
theorem States.not_misstates {f : Field} {n available : Nat} (h : f.States n) (hle : n ≤ available) :
    ¬f.Misstates available := by
  obtain ⟨v, hvalues, hcomma, hn⟩ := h
  intro hwrong
  cases hwrong with
  | repeated hmore =>
    rw [hvalues] at hmore
    exact absurd hmore (by simp)
  | malformed hw hbad =>
    rw [hvalues, List.mem_singleton] at hw
    subst hw
    rcases hbad with hbad | hbad
    · exact hcomma hbad
    · rw [hn] at hbad
      cases hbad
  | excessive hw hm hmore =>
    rw [hvalues, List.mem_singleton] at hw
    subst hw
    rw [hn] at hm
    cases hm
    omega

end Field

theorem ContentLength.states_of_ofField? {f : Field} {n : Nat} (h : ofField? f = some n) : f.States n := by
  obtain ⟨v, hv, hread⟩ := Option.bind_eq_some_iff.1 h
  obtain ⟨hvalues, hcomma⟩ := Field.single?_eq_some_iff.1 hv
  exact ⟨v, hvalues, hcomma, Decimal.value?_of_read? hread⟩

/-! ### Requests -/

namespace Request

/-- The content length of a request, if it has one, stands in one field and is the length of its body.  A GET
request has no body that it could speak of. -/
def Measured (r : Request) : Prop :=
  r.method ≠ .get → ∀ f ∈ r.headers.fields, f.named HeaderName.contentLength →
    r.headers.fields.filter (Field.named HeaderName.contentLength) = [f] ∧ f.States r.body.length

theorem measured_of_get? {r : Request}
    (h : r.method ≠ .get → ∀ f, r.headers.get? HeaderName.contentLength = some f →
      f.States r.body.length) : r.Measured := by
  intro hget f hf hnamed
  have hfound := Headers.get?_of_mem hf hnamed
  exact ⟨Headers.filter_named_of_get? hfound, h hget f hfound⟩

/-- **An accepted request is measured**, since its body was cut to the length. -/
theorem measured_of_request {options : Options} {member : Bool} {op : Operation} {r : Request}
    (h : Acceptance.request options member op = .ok r) : r.Measured := by
  obtain ⟨line, target, body, -, -, -, -, hbody, rfl⟩ := Acceptance.request_eq_ok_iff.1 h
  apply measured_of_get?
  intro hget f hf
  rw [if_neg hget] at hbody
  rcases Acceptance.bodyOctets_eq_ok_iff.1 hbody with ⟨hnone, -⟩ | ⟨g, n, hg, hn, hle, rfl⟩
  · rw [show op.headers.get? _ = _ from hf] at hnone
    cases hnone
  · rw [show op.headers.get? _ = _ from hf] at hg
    cases hg
    show f.States (List.take n (Line.join op.body)).length
    rw [List.length_take, Nat.min_eq_left hle]
    exact ContentLength.states_of_ofField? hn

theorem measured_of_accepted {options : Options} {member : Bool} {e : Embedded} {r : Request}
    (h : e.Accepted options member r) : r.Measured := by
  obtain ⟨op, -, hr⟩ := h
  exact measured_of_request hr

theorem Measured.expandPath {r : Request} (h : r.Measured) (table : ReferenceTable) :
    (r.expandPath table).Measured := by
  obtain heq | ⟨path, heq⟩ := expandPath_eq table r
  · rw [heq]
    exact h
  · rw [heq]
    exact h

theorem Measured.expandBody {r : Request} (h : r.Measured) (table : ReferenceTable) :
    (r.expandBody table).Measured := by
  obtain heq | ⟨body, -, heq⟩ := expandBody_eq table r
  · rw [heq]
    exact h
  · rw [heq, withBody]
    apply measured_of_get?
    intro _ f hf
    dsimp only at hf ⊢
    by_cases hhas : r.headers.contains HeaderName.contentLength
    · rw [if_pos hhas, Headers.get?_set, if_pos rfl] at hf
      cases hf
      refine ⟨Decimal.write body.length, rfl, Decimal.comma_not_mem_write _, ?_⟩
      rw [Decimal.trim_write, Decimal.value?_write]
    · rw [if_neg hhas] at hf
      rw [Headers.contains, hf] at hhas
      exact absurd rfl hhas

/-- **Replacing references keeps a request measured**, however long the locations are. -/
theorem Measured.expand {r : Request} (h : r.Measured) (table : ReferenceTable) :
    (r.expand table).Measured :=
  expand_induction (P := Measured) table h (fun _ hr => hr.expandPath table) fun _ hr => hr.expandBody table

end Request

/-! ### Operations -/

/-- The operation of a part, or of a member of a change set, in a batch. -/
inductive HasOperation (strict : Bool) (boundary : Text) (body : Bytes) : Operation → Prop
  | single {parts : List (List Line)} {lines : List Line} {e : Embedded}
      (hparts : Segment.ofLines boundary 1 (Line.readAll body) = .ok parts) (hlines : lines ∈ parts)
      (he : BodyPart.read strict (Line.firstNumber 1 lines) lines = .ok (.single e)) :
      HasOperation strict boundary body e.operation
  | member {context : Nat} {members : List (List Line)} {lines : List Line} {e : Embedded}
      (hset : HasChangeSet strict boundary body context members) (hlines : lines ∈ members)
      (he : ReadsAs strict context lines e) : HasOperation strict boundary body e.operation

/-- An operation that is no GET and misstates the length of its body. -/
def Operation.MisstatesLength (op : Operation) : Prop :=
  (∀ line, RequestLine.read op.requestLine = .ok line → line.method ≠ .get) ∧
    ∃ f, op.headers.get? HeaderName.contentLength = some f ∧ f.Misstates (Line.join op.body).length

/-- No request comes of a misstated length. -/
theorem Embedded.Accepted.not_misstatesLength {options : Options} {member : Bool} {e : Embedded}
    {r : Request} (h : e.Accepted options member r) : ¬e.operation.MisstatesLength := by
  obtain ⟨op, hid, hr⟩ := h
  obtain ⟨line, -, octets, hline, -, -, -, hbody, -⟩ := Acceptance.request_eq_ok_iff.1 hr
  rw [hid.requestLine_eq] at hline
  rintro ⟨hmethod, f, hf, hwrong⟩
  have hother : HeaderName.contentId.foldCase ≠ HeaderName.contentLength.foldCase := by decide
  rw [if_neg (hmethod line hline), hid.body_eq, Acceptance.bodyOctets_eq_ok_iff, hid.get?_eq hother,
    hf] at hbody
  rcases hbody with ⟨hnone, -⟩ | ⟨g, n, hg, hn, hle, -⟩
  · cases hnone
  · cases hg
    exact (ContentLength.states_of_ofField? hn).not_misstates hle hwrong

namespace Request

/-- In an accepted batch every operation becomes a request. -/
theorem exists_accepted_of_hasOperation {options : Options} {boundary : Text} {body : Bytes}
    {parts : List (Part Request)} (h : readBatch options boundary body = .ok parts) {op : Operation}
    (hop : HasOperation options.strict boundary body op) :
    ∃ e member r, e.operation = op ∧ Embedded.Accepted options member e r := by
  cases hop with
  | @single _ lines e hcut hlines he =>
    obtain ⟨-, -, segments, hsegments, hparts⟩ := readBatch_eq_ok_iff.1 h
    obtain rfl := Except.ok.inj (hcut.symm.trans hsegments)
    obtain ⟨p, -, hp⟩ := Outcome.exists_of_mem_left hparts hlines
    obtain ⟨part, hpart, haccept⟩ := readPart_eq_ok_iff.1 hp
    obtain rfl := Except.ok.inj (he.symm.trans hpart)
    obtain ⟨r, -, hr⟩ := Acceptance.accepted_of_single haccept
    exact ⟨e, false, r, rfl, hr⟩
  | @member _ _ lines e hset hlines he =>
    obtain ⟨-, es, rs, hall, hrs⟩ := members_of_hasChangeSet h hset
    obtain ⟨e', hmem, he'⟩ := Outcome.exists_of_mem_left hall hlines
    obtain rfl : e = e' := Except.ok.inj (he.symm.trans he')
    obtain ⟨r, -, hr⟩ := Outcome.exists_of_mem_left (Acceptance.accepted_of_members hrs) hmem
    exact ⟨e, true, r, rfl, hr⟩

/-- **Content lengths agree with bodies**: whatever a processor is given while the parts of an accepted batch
are handled is measured, and a batch with an operation that misstates its length is refused. -/
theorem contentLength_agrees (options : Options) (boundary : Text) (body : Bytes) :
    (∀ parts, readBatch options boundary body = .ok parts →
      ∀ (σ : Type) (answer : Request → σ → Response × σ) (continueOnError : Bool) (s : σ),
        ((recording answer).parts continueOnError parts (s, [])).1
            = (({ answer } : Processor σ).parts continueOnError parts s).1 ∧
          ((recording answer).parts continueOnError parts (s, [])).2.1
            = (({ answer } : Processor σ).parts continueOnError parts s).2 ∧
          ∀ p ∈ ((recording answer).parts continueOnError parts (s, [])).2.2, p.2.Measured) ∧
      ∀ op, HasOperation options.strict boundary body op → op.MisstatesLength →
        ∃ rejection, readBatch options boundary body = .error rejection := by
  refine ⟨?_, fun op hop hwrong => ?_⟩
  · intro parts h σ answer continueOnError s
    exact forall_recorded (P := fun _ r => r.Measured) (fun _ _ _ he => measured_of_accepted he)
      (fun _ table hr => hr.expand table) h answer continueOnError s
  · cases h : readBatch options boundary body with
    | error rejection => exact ⟨rejection, rfl⟩
    | ok parts =>
      obtain ⟨e, member, r, rfl, hr⟩ := exists_accepted_of_hasOperation h hop
      exact absurd hwrong hr.not_misstatesLength

/-- A change set whose second member refers to the first one in a body with a content length, and a request
whose content length is stated twice. -/
theorem contentLength_agrees_expanded :
    let part : Text := "Content-Type: application/http\r\nContent-Transfer-Encoding: binary\r\n".toList
    let linked : Bytes := Utf8.encode ("--b\r\nContent-Type: multipart/mixed; boundary=c\r\n\r\n--c\r\n".toList
      ++ part ++ "Content-ID: 1\r\n\r\nPOST Items HTTP/1.1\r\n\r\n\r\n--c\r\n".toList
      ++ part ++ "Content-ID: 2\r\n\r\nPOST Links HTTP/1.1\r\nContent-Length: 4\r\n\r\n<$1>\r\n".toList
      ++ "--c--\r\n--b--\r\n".toList)
    let twice : Bytes := Utf8.encode ("--b\r\n".toList
      ++ part ++ "\r\nPOST Items HTTP/1.1\r\nContent-Length: 1\r\ncontent-length: 1\r\n\r\nab\r\n".toList
      ++ "--b--\r\n".toList)
    (∃ parts, readBatch {} "b".toList linked = .ok parts ∧
      ∀ (σ : Type) (answer : Request → σ → Response × σ) (continueOnError : Bool) (s : σ),
        ((recording answer).parts continueOnError parts (s, [])).1
            = (({ answer } : Processor σ).parts continueOnError parts s).1 ∧
          ((recording answer).parts continueOnError parts (s, [])).2.1
            = (({ answer } : Processor σ).parts continueOnError parts s).2 ∧
          ∀ p ∈ ((recording answer).parts continueOnError parts (s, [])).2.2, p.2.Measured) ∧
      ∃ op, HasOperation true "b".toList twice op ∧ op.MisstatesLength ∧
        ∃ rejection, readBatch {} "b".toList twice = .error rejection := by
  intro part linked twice
  constructor
  · have hok : (readBatch {} "b".toList linked).isOk := by decide +kernel
    cases h : readBatch {} "b".toList linked with
    | error e =>
      rw [h] at hok
      cases hok
    | ok parts => exact ⟨parts, rfl, (contentLength_agrees {} "b".toList linked).1 parts h⟩
  · let lines := Segment.trimEnding (((Line.readAll twice).drop 1).take 8)
    let e : Embedded := {
      mime := {
        fields := [
          ⟨"Content-Type".toList, "application/http".toList, [], 2⟩,
          ⟨"Content-Transfer-Encoding".toList, "binary".toList, [], 3⟩]
        line := 2
        distinct := by decide }
      operation := {
        requestLine := ⟨Utf8.encode "POST Items HTTP/1.1".toList, .crlf, 5⟩
        headers := {
          fields := [⟨"Content-Length".toList, "1".toList, ["1".toList], 6⟩]
          line := 6
          distinct := by decide }
        body := lines.drop 7 } }
    have hcut : Segment.ofLines "b".toList 1 (Line.readAll twice) = .ok [lines] := by decide +kernel
    have he : BodyPart.read true (Line.firstNumber 1 lines) lines = .ok (.single e) := by
      decide +kernel
    have hop : HasOperation true "b".toList twice e.operation :=
      .single hcut (List.mem_singleton_self lines) he
    have hline : RequestLine.read e.operation.requestLine
        = .ok { method := .post, target := "Items".toList, line := 5 } := by decide +kernel
    have hwrong : e.operation.MisstatesLength := by
      refine ⟨?_, _, rfl, .repeated (by decide)⟩
      intro line hread
      rw [hline] at hread
      cases hread
      decide
    exact ⟨_, hop, hwrong, (contentLength_agrees {} "b".toList twice).2 _ hop hwrong⟩

end Request

end BatchExchange
