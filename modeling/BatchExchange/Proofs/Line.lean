import BatchExchange.Line
import BatchExchange.Proofs.Text
import BatchExchange.Response.Writer

/-!
# Reading lines one after the other

`Line.split` reads a body from its beginning, so what stands behind a line feed is read as if nothing
stood in front of it.

* `Line.IsWhole`: octets that are empty or end with a line feed.
* `Line.split_append`: whole octets and what follows them are split apart from each other.
* `Line.split_ended`: a content without line ends, up to its terminator, is read as one line, and so is a written
  line, by `Line.split_writeLine`.
* `Line.getLast?_split_crlf`: what ends with `\r\n` has a last line that ends with `\r\n`.
* `Line.isOneLine_text_of_mem_readAll`: the text of a line has no line ends.

Places play no part here: `Line.raw` is a line without its place.
-/

namespace BatchExchange

namespace Line

/-- A line without its place. -/
def raw (l : Line) : Bytes × Ending := (l.content, l.ending)

@[simp] theorem map_raw_numberFrom (n : Nat) (s : List (Bytes × Ending)) :
    (numberFrom n s).map raw = s := by
  induction s generalizing n with
  | nil => rfl
  | cons p s ih =>
    obtain ⟨content, ending⟩ := p
    rw [numberFrom, List.map_cons, ih]
    rfl

@[simp] theorem map_raw_readAll (bytes : Bytes) : (readAll bytes).map raw = split bytes :=
  map_raw_numberFrom 1 _

theorem raw_mem_split {bytes : Bytes} {l : Line} (hl : l ∈ readAll bytes) : l.raw ∈ split bytes := by
  rw [← map_raw_readAll]
  exact List.mem_map_of_mem hl

theorem map_number_numberFrom (n : Nat) (s : List (Bytes × Ending)) :
    (numberFrom n s).map number = List.range' n (numberFrom n s).length := by
  induction s generalizing n with
  | nil => rfl
  | cons p s ih => rw [numberFrom, List.map_cons, ih (n + 1), List.length_cons, List.range'_succ]

/-- Lines with the numbers from `n` on are numbered as they are. -/
theorem numberFrom_map_raw {n : Nat} {lines : List Line}
    (h : lines.map number = List.range' n lines.length) : numberFrom n (lines.map raw) = lines := by
  induction lines generalizing n with
  | nil => rfl
  | cons l lines ih =>
    rw [List.map_cons, List.length_cons, List.range'_succ, List.cons.injEq] at h
    obtain ⟨rfl, hlines⟩ := h
    exact congrArg (l :: ·) (ih hlines)

theorem join_eq_flatMap_raw (lines : List Line) :
    join lines = (lines.map raw).flatMap fun p => p.1 ++ p.2.octets := by
  rw [join, List.flatMap_map]
  rfl

theorem join_of_map_raw {lines : List Line} {bytes : Bytes} (h : lines.map raw = split bytes) :
    join lines = bytes := by
  rw [join_eq_flatMap_raw, h, ← map_raw_readAll, ← join_eq_flatMap_raw, join_readAll]

/-- Lines without places are known by what they hold. -/
theorem text_of_raw {l : Line} {t : Text} {e : Ending} (h : l.raw = (Utf8.encode t, e)) :
    l.text = t := by
  have hc : l.content = Utf8.encode t := congrArg Prod.fst h
  rw [text, hc, Utf8.decode_encode]

/-! ### Whole lines -/

/-- Nothing, or octets that end with a line feed. -/
def IsWhole (bytes : Bytes) : Prop := ∀ b ∈ bytes.getLast?, b = 10

theorem isWhole_nil : IsWhole [] := by simp [IsWhole]

theorem head?_crlf : ∀ o ∈ Response.crlf.head?, o = 10 ∨ o = 13 := by
  intro o ho
  obtain rfl : 13 = o := Option.some.inj ho
  exact .inr rfl

theorem isWhole_crlf (bytes : Bytes) : IsWhole (bytes ++ Response.crlf) := by
  simp [IsWhole, Response.crlf]

theorem IsWhole.append {s t : Bytes} (hs : IsWhole s) (ht : IsWhole t) : IsWhole (s ++ t) := by
  intro b hb
  cases t with
  | nil => exact hs b (by simpa using hb)
  | cons c t =>
    refine ht b ?_
    rw [List.getLast?_append] at hb
    simpa using hb

theorem IsWhole.tail {b : UInt8} {bytes : Bytes} (h : IsWhole (b :: bytes)) : IsWhole bytes := by
  intro d hd
  cases bytes with
  | nil => cases hd
  | cons c bytes => exact h d (by rwa [List.getLast?_cons_cons])

theorem split_ne_nil {bytes : Bytes} (h : bytes ≠ []) : split bytes ≠ [] := by
  fun_cases split bytes <;> simp_all

/-- An octet that ends no line belongs to the content of the next one. -/
theorem split_cons {b : UInt8} (h10 : b ≠ 10) (h13 : b ≠ 13) (bytes : Bytes) :
    split (b :: bytes) =
      match split bytes with
      | [] => [([b], .missing)]
      | (content, ending) :: lines => (b :: content, ending) :: lines := by
  rewrite [split]
  · rfl
  · exact h10
  · exact fun _ h _ => h13 h
  · exact h13

/-- A carriage return alone ends a line. -/
theorem split_cr {bytes : Bytes} (h : bytes.head? ≠ some 10) :
    split (13 :: bytes) = ([], .cr) :: split bytes := by
  rw [split]
  rintro rest rfl
  exact h rfl

/-- **Lines are read one after the other.** -/
theorem split_append {s : Bytes} (hs : IsWhole s) (t : Bytes) : split (s ++ t) = split s ++ split t := by
  fun_induction split s with
  | case1 => rfl
  | case2 s ih =>
    rw [List.cons_append, split, ih hs.tail]
    rfl
  | case3 s ih =>
    rw [List.cons_append, List.cons_append, split, ih hs.tail.tail]
    rfl
  | case4 s hne ih =>
    cases s with
    | nil => exact absurd (hs 13 rfl) (by decide)
    | cons c s =>
      have hc : (c :: s ++ t).head? ≠ some 10 := fun h => hne s (by rw [Option.some.inj h])
      rw [List.cons_append, split_cr hc, ih hs.tail]
      rfl
  | case5 b s h10 _ h13 hnil _ =>
    cases s with
    | nil => exact absurd (hs b rfl) h10
    | cons c s => exact absurd hnil (split_ne_nil (by simp))
  | case6 b s h10 _ h13 content ending lines hsplit ih =>
    rw [List.cons_append, split_cons h10 h13, ih hs.tail, hsplit]
    rfl

/-! ### One line -/

/-- **A content up to its terminator is the first line**, if the terminator is not a `\r` that has its `\n` behind
it. -/
theorem split_ended {content : Bytes} (h10 : 10 ∉ content) (h13 : 13 ∉ content) (ending : Ending)
    (hended : ending ≠ .missing) {rest : Bytes} (hrest : ending = .cr → rest.head? ≠ some 10) :
    split (content ++ (ending.octets ++ rest)) = (content, ending) :: split rest := by
  induction content with
  | nil =>
    cases ending with
    | crlf => rfl
    | lf => rfl
    | cr => exact split_cr (hrest rfl)
    | missing => exact absurd rfl hended
  | cons b content ih =>
    simp only [List.mem_cons, not_or] at h10 h13
    rw [List.cons_append, split_cons (Ne.symm h10.1) (Ne.symm h13.1), ih h10.2 h13.2]

/-- A content with no terminator behind it is the only line. -/
theorem split_unended {content : Bytes} (h10 : 10 ∉ content) (h13 : 13 ∉ content) (hne : content ≠ []) :
    split content = [(content, .missing)] := by
  induction content with
  | nil => exact absurd rfl hne
  | cons b content ih =>
    simp only [List.mem_cons, not_or] at h10 h13
    rw [split_cons (Ne.symm h10.1) (Ne.symm h13.1)]
    by_cases hc : content = []
    · subst hc
      rfl
    · rw [ih h10.2 h13.2 hc]

theorem split_line {content : Bytes} (h10 : 10 ∉ content) (h13 : 13 ∉ content) (rest : Bytes) :
    split (content ++ Response.crlf ++ rest) = (content, .crlf) :: split rest := by
  rw [List.append_assoc]
  exact split_ended h10 h13 .crlf nofun nofun

/-- A content with nothing or a line end behind it. -/
theorem split_content {content : Bytes} (h10 : 10 ∉ content) (h13 : 13 ∉ content)
    (hne : content ≠ []) {tail : Bytes} (htail : ∀ b ∈ tail.head?, b = 10 ∨ b = 13) :
    ∃ ending after, split (content ++ tail) = (content, ending) :: after := by
  cases tail with
  | nil => exact ⟨.missing, [], by rw [List.append_nil, split_unended h10 h13 hne]⟩
  | cons b tail =>
    obtain rfl | rfl := htail b rfl
    · exact ⟨.lf, split tail, split_ended h10 h13 .lf nofun nofun⟩
    · by_cases hlf : tail.head? = some 10
      · obtain ⟨tail, rfl⟩ := List.head?_eq_some_iff.1 hlf
        exact ⟨.crlf, split tail, split_ended h10 h13 .crlf nofun nofun⟩
      · exact ⟨.cr, split tail, split_ended h10 h13 .cr nofun fun _ => hlf⟩

/-- A text that stays on one line. -/
def IsOneLine (t : Text) : Prop := '\n' ∉ t ∧ '\r' ∉ t

instance (t : Text) : Decidable (IsOneLine t) := inferInstanceAs (Decidable (_ ∧ _))

theorem IsOneLine.append {s t : Text} (hs : IsOneLine s) (ht : IsOneLine t) : IsOneLine (s ++ t) := by
  simp only [IsOneLine, List.mem_append, not_or] at *
  exact ⟨⟨hs.1, ht.1⟩, hs.2, ht.2⟩

theorem IsOneLine.encode {t : Text} (h : IsOneLine t) :
    (10 : UInt8) ∉ Utf8.encode t ∧ (13 : UInt8) ∉ Utf8.encode t :=
  ⟨fun hb => h.1 (Utf8.mem_of_mem_encode (by decide) hb),
    fun hb => h.2 (Utf8.mem_of_mem_encode (by decide) hb)⟩

/-- **A written line is read as that line.** -/
theorem split_writeLine {t : Text} (h : IsOneLine t) (rest : Bytes) :
    split (Response.writeLine t ++ rest) = (Utf8.encode t, .crlf) :: split rest :=
  split_line h.encode.1 h.encode.2 rest

theorem isWhole_writeLine (t : Text) : IsWhole (Response.writeLine t) := isWhole_crlf _

theorem getLast?_split_cons {b : UInt8} (h10 : b ≠ 10) (h13 : b ≠ 13) {bytes content : Bytes}
    {ending : Ending} (h : (split bytes).getLast? = some (content, ending)) :
    ∃ content', (split (b :: bytes)).getLast? = some (content', ending) := by
  rw [split_cons h10 h13]
  cases hs : split bytes with
  | nil => simp [hs] at h
  | cons p lines =>
    cases lines with
    | nil =>
      rw [hs, List.getLast?_singleton, Option.some.injEq] at h
      exact ⟨b :: p.1, by simp [h]⟩
    | cons q lines =>
      refine ⟨content, ?_⟩
      rw [hs, List.getLast?_cons_cons] at h
      show ((b :: p.1, p.2) :: q :: lines).getLast? = some (content, ending)
      rw [List.getLast?_cons_cons, h]

theorem head?_append_crlf {s : Bytes} (h : ∀ t, s = 10 :: t → False) :
    (s ++ Response.crlf).head? ≠ some 10 := by
  cases s with
  | nil => decide
  | cons c s =>
    intro hc
    exact h s (by rw [Option.some.inj hc])

/-- What ends with `\r\n` is never empty, and its last line ends so. -/
theorem getLast?_split_crlf (bytes : Bytes) :
    ∃ content, (split (bytes ++ Response.crlf)).getLast? = some (content, .crlf) := by
  fun_induction split bytes with
  | case1 => exact ⟨[], rfl⟩
  | case2 s ih =>
    obtain ⟨content, ih⟩ := ih
    refine ⟨content, ?_⟩
    rw [List.cons_append, split, List.getLast?_cons, ih]
    rfl
  | case3 s ih =>
    obtain ⟨content, ih⟩ := ih
    refine ⟨content, ?_⟩
    rw [List.cons_append, List.cons_append, split, List.getLast?_cons, ih]
    rfl
  | case4 s hne ih =>
    obtain ⟨content, ih⟩ := ih
    refine ⟨content, ?_⟩
    rw [List.cons_append, split_cr (head?_append_crlf hne), List.getLast?_cons, ih]
    rfl
  | case5 b s h10 _ h13 _ ih =>
    obtain ⟨content, ih⟩ := ih
    exact getLast?_split_cons h10 h13 ih
  | case6 b s h10 _ h13 _ _ _ _ ih =>
    obtain ⟨content, ih⟩ := ih
    exact getLast?_split_cons h10 h13 ih

/-! ### What lines hold -/

theorem IsOneLine.of_subset {s t : Text} (h : IsOneLine t) (hst : s ⊆ t) : IsOneLine s :=
  ⟨fun hs => h.1 (hst hs), fun hs => h.2 (hst hs)⟩

/-- The content of a line has no line ends. -/
theorem not_mem_of_mem_split {bytes : Bytes} : ∀ p ∈ split bytes, 10 ∉ p.1 ∧ 13 ∉ p.1 := by
  have hempty : (10 : UInt8) ∉ ([] : Bytes) ∧ (13 : UInt8) ∉ ([] : Bytes) := by simp
  fun_induction split bytes with
  | case1 => simp
  | case2 s ih => exact List.forall_mem_cons.2 ⟨hempty, ih⟩
  | case3 s ih => exact List.forall_mem_cons.2 ⟨hempty, ih⟩
  | case4 s _ ih => exact List.forall_mem_cons.2 ⟨hempty, ih⟩
  | case5 b s h10 _ h13 _ _ =>
    rw [List.forall_mem_singleton, List.mem_singleton, List.mem_singleton]
    exact ⟨Ne.symm h10, Ne.symm h13⟩
  | case6 b s h10 _ h13 content ending lines hsplit ih =>
    rw [hsplit, List.forall_mem_cons] at ih
    obtain ⟨⟨h10', h13'⟩, hlines⟩ := ih
    refine List.forall_mem_cons.2 ⟨?_, hlines⟩
    simp only [List.mem_cons, not_or]
    exact ⟨⟨Ne.symm h10, h10'⟩, Ne.symm h13, h13'⟩

/-- **The text of a line stays on one line**, whatever its octets are. -/
theorem isOneLine_text_of_mem_readAll {bytes : Bytes} {l : Line} (hl : l ∈ readAll bytes) :
    IsOneLine l.text := by
  obtain ⟨h10, h13⟩ := not_mem_of_mem_split _ (raw_mem_split hl)
  exact ⟨fun h => h10 (Utf8.mem_of_mem_decode (by decide) (by decide) h),
    fun h => h13 (Utf8.mem_of_mem_decode (by decide) (by decide) h)⟩

/-- A line end behind octets changes no content of their lines, and makes at most an empty line. -/
theorem contents_crlf (bytes : Bytes) :
    (split (bytes ++ Response.crlf)).map Prod.fst = (split bytes).map Prod.fst ∨
      (split (bytes ++ Response.crlf)).map Prod.fst = (split bytes).map Prod.fst ++ [[]] := by
  have hcons : ∀ {first : Bytes} {s t : List Bytes}, s = t ∨ s = t ++ [[]] →
      first :: s = first :: t ∨ first :: s = first :: t ++ [[]] :=
    fun h => h.imp (congrArg _) (congrArg _)
  fun_induction split bytes with
  | case1 => exact .inr rfl
  | case2 s ih =>
    rw [List.cons_append, split]
    exact hcons ih
  | case3 s ih =>
    rw [List.cons_append, List.cons_append, split]
    exact hcons ih
  | case4 s hne ih =>
    rw [List.cons_append, split_cr (head?_append_crlf hne)]
    exact hcons ih
  | case5 b s h10 _ h13 hnil _ =>
    have hs : s = [] := by
      by_contra hs
      exact split_ne_nil hs hnil
    subst hs
    rw [List.cons_append, split_cons h10 h13]
    exact .inl rfl
  | case6 b s h10 _ h13 content ending lines hsplit ih =>
    rw [List.cons_append, split_cons h10 h13]
    rw [hsplit] at ih
    cases hs : split (s ++ Response.crlf) with
    | nil => exact absurd hs (split_ne_nil (by simp [Response.crlf]))
    | cons p rest =>
      rw [hs] at ih
      simp only [List.map_cons, List.cons_append, List.cons.injEq, true_and] at ih ⊢
      exact ih

end Line

end BatchExchange
