import BatchExchange.Proofs.Boundary
import BatchExchange.Segment

/-!
# Delimiter lines

Only the content of a line decides whether it is a delimiter: it writes the boundary behind two hyphens, and
two more if it is a closing one, with any spaces and tabs behind.

* `Line.opens_iff`, `Line.closes_iff`: what opening and closing delimiters write.
* `Line.isPrefix_of_delimits`, `Line.text_of_delimits`: what a delimiter line begins with.
-/

namespace BatchExchange

namespace Line

theorem delimiterTail?_congr {l m : Line} (h : l.content = m.content) (b : Text) :
    l.delimiterTail? b = m.delimiterTail? b := by
  rw [delimiterTail?, delimiterTail?, h]

theorem opens_congr {l m : Line} (h : l.content = m.content) (b : Text) :
    l.opens b = m.opens b := by
  rw [opens, opens, delimiterTail?_congr h]

theorem closes_congr {l m : Line} (h : l.content = m.content) (b : Text) :
    l.closes b = m.closes b := by
  rw [closes, closes, delimiterTail?_congr h]

theorem delimits_congr {l m : Line} (h : l.content = m.content) (b : Text) :
    l.delimits b = m.delimits b := by
  rw [delimits, delimits, opens_congr h, closes_congr h]

theorem not_opens_of_delimits {l : Line} {b : Text} (h : l.delimits b = false) : l.opens b = false := by
  rw [delimits, Bool.or_eq_false_iff] at h
  exact h.1

theorem not_closes_of_delimits {l : Line} {b : Text} (h : l.delimits b = false) : l.closes b = false := by
  rw [delimits, Bool.or_eq_false_iff] at h
  exact h.2

theorem closes_eq_false_of_opens {l : Line} {b : Text} (h : l.opens b) : l.closes b = false := by
  rw [opens, beq_iff_eq] at h
  rw [closes, h]
  decide

/-! ### What delimiter lines write -/

/-- Spaces and tabs. -/
def isPadding (o : UInt8) : Bool := o = 32 || o = 9

/-- A line writes a text with any number of spaces and tabs behind it. -/
def Pads (t : Text) (l : Line) : Prop :=
  ∃ padding : Bytes, (∀ o ∈ padding, isPadding o) ∧ l.content = Utf8.encode t ++ padding

/-- The octets of a text end with padding when the text does. -/
theorem isPadding_getLast?_encode {t : Text} {c : Char} :
    (∀ o ∈ (Utf8.encode (t ++ [c])).getLast?, isPadding o = false) ↔ c ≠ ' ' ∧ c ≠ '\t' := by
  constructor
  · intro h
    have hne : ∀ d : Char, d.toNat < 0x80 → isPadding (.ofNat d.toNat) → c ≠ d := by
      rintro d hd hpadding rfl
      rw [Utf8.encode_concat hd, List.getLast?_concat] at h
      rw [h _ rfl] at hpadding
      cases hpadding
    exact ⟨hne ' ' (by decide) (by decide), hne '\t' (by decide) (by decide)⟩
  · rintro ⟨hspace, htab⟩ o ho
    have hmem : o ∈ Utf8.encodeChar c := by
      have hone : Utf8.encode [c] = Utf8.encodeChar c := by simp
      rw [Utf8.encode_append, hone, List.getLast?_append_of_ne_nil _ (Utf8.encodeChar_ne_nil c)] at ho
      exact List.mem_of_getLast? ho
    rw [isPadding, Bool.or_eq_false_iff, decide_eq_false_iff_not, decide_eq_false_iff_not]
    constructor
    · rintro rfl
      exact hspace (Utf8.mem_of_mem_encodeChar (by decide) hmem).symm
    · rintro rfl
      exact htab (Utf8.mem_of_mem_encodeChar (by decide) hmem).symm

theorem delimiterTail?_eq_some_iff {b t : Text} {l : Line} :
    l.delimiterTail? b = some (Utf8.encode t) ↔
      (∀ o ∈ (Utf8.encode ("--".toList ++ b ++ t)).getLast?, isPadding o = false) ∧
        l.Pads ("--".toList ++ b ++ t) := by
  rw [delimiterTail?, after?_eq_some_iff, ← Utf8.encode_append]
  exact dropTail_eq_iff

/-- **An opening delimiter** writes two hyphens and the boundary.  No line does so if the boundary ends with
padding, which is taken for padding of the line. -/
theorem opens_iff {b : Text} {l : Line} :
    l.opens b ↔ (∀ c ∈ b.getLast?, c ≠ ' ' ∧ c ≠ '\t') ∧ l.Pads ("--".toList ++ b) := by
  have hlast : (∀ o ∈ (Utf8.encode ("--".toList ++ b)).getLast?, isPadding o = false)
      ↔ ∀ c ∈ b.getLast?, c ≠ ' ' ∧ c ≠ '\t' := by
    rcases List.eq_nil_or_concat' b with rfl | ⟨s, c, rfl⟩
    · refine ⟨fun _ c hc => (nomatch hc), fun _ => ?_⟩
      exact isPadding_getLast?_encode (t := ['-']) (c := '-').2 (by decide)
    · rw [← List.append_assoc, isPadding_getLast?_encode, List.getLast?_concat]
      simp
  have htail := delimiterTail?_eq_some_iff (b := b) (t := []) (l := l)
  rw [List.append_nil, hlast] at htail
  rw [opens, beq_iff_eq]
  exact htail

/-- **A closing delimiter** writes two hyphens on either side of the boundary. -/
theorem closes_iff {b : Text} {l : Line} : l.closes b ↔ l.Pads ("--".toList ++ b ++ "--".toList) := by
  have hlast : ∀ o ∈ (Utf8.encode ("--".toList ++ b ++ "--".toList)).getLast?, isPadding o = false := by
    rw [show "--".toList ++ b ++ "--".toList = "--".toList ++ b ++ ['-'] ++ ['-'] by simp]
    exact isPadding_getLast?_encode.2 (by decide)
  rw [closes, beq_iff_eq, delimiterTail?_eq_some_iff]
  exact and_iff_right hlast

/-- A valid boundary does not end with padding. -/
theorem not_padded_of_isValid {b : Text} (hb : Boundary.isValid b) : ∀ c ∈ b.getLast?, c ≠ ' ' ∧ c ≠ '\t' := by
  obtain ⟨t, c, rfl, hc, hspace⟩ := Boundary.exists_eq_concat hb
  rw [List.getLast?_concat]
  rintro _ ⟨⟩
  refine ⟨hspace, ?_⟩
  rintro rfl
  exact absurd hc (by decide)

/-- A delimiter line begins with the octets of the delimiter. -/
theorem isPrefix_of_delimits {l : Line} {b : Text} (h : l.delimits b) :
    Utf8.encode ("--".toList ++ b) <+: l.content := by
  rw [delimits, Bool.or_eq_true] at h
  rcases h with hopen | hclose
  · obtain ⟨-, padding, -, hcontent⟩ := opens_iff.1 hopen
    exact ⟨padding, hcontent.symm⟩
  · obtain ⟨padding, -, hcontent⟩ := closes_iff.1 hclose
    rw [Utf8.encode_append, List.append_assoc] at hcontent
    exact ⟨_, hcontent.symm⟩

/-- So it begins with two hyphens. -/
theorem text_of_delimits {l : Line} {b : Text} (h : l.delimits b) :
    ∃ t, l.text = '-' :: '-' :: t := by
  obtain ⟨rest, hrest⟩ := isPrefix_of_delimits h
  refine ⟨Utf8.decode (Utf8.encode b ++ rest), ?_⟩
  rw [text, ← hrest, Utf8.encode_append, List.append_assoc, Utf8.decode_encode_append]
  rfl

theorem delimits_eq_false_of_text {l : Line} (h : after? "--".toList l.text = none) (b : Text) :
    l.delimits b = false := by
  by_contra hd
  obtain ⟨t, ht⟩ := text_of_delimits (b := b) (by simpa using hd)
  rw [ht] at h
  cases h

theorem opens_of_content {l : Line} {b : Text} (hb : Boundary.isValid b)
    (hl : l.content = Utf8.encode ("--".toList ++ b)) : l.opens b := by
  refine opens_iff.2 ⟨not_padded_of_isValid hb, [], ?_, ?_⟩
  · simp
  · rw [hl, List.append_nil]

theorem closes_of_content {l : Line} {b : Text}
    (hl : l.content = Utf8.encode ("--".toList ++ b ++ "--".toList)) : l.closes b := by
  refine closes_iff.2 ⟨[], ?_, ?_⟩
  · simp
  · rw [hl, List.append_nil]

end Line

end BatchExchange
