import BatchExchange.BodyPart
import BatchExchange.Proofs.Outcome
import BatchExchange.Proofs.Partition

/-!
# Where bodies begin

A header block is read up to and with its first blank line, and the lines behind it are left as they are.  So the
lines of a part are its own header block, the request line, the header block of the request, and the body behind
that.  Nothing of this depends on how the last line ends.

* `HeaderBlock.Extent`, `HeaderBlock.extent_of_read`: the lines that a header block takes.
* `HeaderBlock.read_preserves`: what holds of a block that is read because every line keeps it.
* `HeaderBlock.read_trimEnding`: a header block in front of lines of which the last one loses its ending.
* `Operation.exists_of_read`: the lines that an operation is read from.
* `Embedded.HasBody`, `Embedded.hasBody_of_read`: the lines that are the body of an operation.
* `Embedded.HasBody.unique`: there is only one place where the body can begin.
-/

namespace BatchExchange

/-! ### Header blocks -/

namespace Segment

/-- A line in front of others keeps its ending, and alone it keeps all but that. -/
theorem exists_trimEnding_cons (l : Line) (lines : List Line) :
    ∃ m, trimEnding (l :: lines) = m :: trimEnding lines ∧ m.content = l.content ∧ m.number = l.number := by
  cases lines with
  | nil => exact ⟨l.withoutEnding, rfl, rfl, rfl⟩
  | cons next lines => exact ⟨l, rfl, rfl, rfl⟩

theorem dropWhile_trimEnding (lines : List Line) :
    (trimEnding lines).dropWhile Line.isBlank = trimEnding (lines.dropWhile Line.isBlank) := by
  induction lines with
  | nil => rfl
  | cons l lines ih =>
    obtain ⟨m, hm, hcontent, -⟩ := exists_trimEnding_cons l lines
    have hblank : m.isBlank = l.isBlank := by rw [Line.isBlank, Line.isBlank, hcontent]
    by_cases hl : l.isBlank
    · rw [hm, List.dropWhile_cons_of_pos (hblank.trans hl), ih, List.dropWhile_cons_of_pos hl]
    · rw [hm, List.dropWhile_cons_of_neg (by rwa [hblank]), List.dropWhile_cons_of_neg hl, hm]

theorem firstNumber_trimEnding (context : Nat) (lines : List Line) :
    Line.firstNumber context (trimEnding lines) = Line.firstNumber context lines := by
  cases lines with
  | nil => rfl
  | cons l lines =>
    obtain ⟨m, hm, -, hnumber⟩ := exists_trimEnding_cons l lines
    rw [hm]
    exact hnumber

end Segment

namespace HeaderBlock

open Segment (trimEnding)

/-- The lines of a header block, which are those up to and with the first blank one, and the lines behind it.
Lenient reading takes all lines for the block if none is blank. -/
inductive Extent (strict : Bool) : List Line → List Line → List Line → Prop
  | ended {fields : List Line} (hfields : ∀ l ∈ fields, l.isBlank = false) {blank : Line} (hblank : blank.isBlank)
      (rest : List Line) : Extent strict (fields ++ blank :: rest) (fields ++ [blank]) rest
  | unended (hlenient : strict = false) {fields : List Line} (hfields : ∀ l ∈ fields, l.isBlank = false) :
      Extent strict fields fields []

variable {strict : Bool} {lines block rest : List Line}

theorem Extent.eq_append (h : Extent strict lines block rest) : lines = block ++ rest := by
  cases h with
  | ended hfields hblank rest => simp
  | unended hlenient hfields => simp

theorem Extent.cons (h : Extent strict lines block rest) {l : Line} (hl : l.isBlank = false) :
    Extent strict (l :: lines) (l :: block) rest := by
  cases h with
  | ended hfields hblank rest => exact .ended (List.forall_mem_cons.2 ⟨hl, hfields⟩) hblank rest
  | unended hlenient hfields => exact .unended hlenient (List.forall_mem_cons.2 ⟨hl, hfields⟩)

/-- **The first blank line ends a header block**, so what is behind it does not depend on anything else. -/
theorem Extent.rest_eq (h : Extent strict lines block rest) :
    rest = (lines.dropWhile fun l => !l.isBlank).tail := by
  cases h with
  | ended hfields hblank rest =>
    rw [List.dropWhile_append_of_pos (by simpa using hfields), List.dropWhile_cons_of_neg (by simpa using hblank),
      List.tail_cons]
  | unended hlenient hfields =>
    rw [List.dropWhile_eq_nil_iff.2 (by simpa using hfields)]
    rfl

theorem extent_of_readFrom {h h' : Headers} {last : Nat} (hread : readFrom strict h last lines = .ok (h', rest)) :
    ∃ block, Extent strict lines block rest := by
  induction lines generalizing h last with
  | nil =>
    rw [readFrom] at hread
    split at hread
    · cases hread
    · rename_i hlenient
      cases hread
      exact ⟨[], .unended (Bool.eq_false_iff.2 hlenient) (List.forall_mem_nil _)⟩
  | cons l lines ih =>
    rw [readFrom] at hread
    split at hread
    · rename_i hblank
      cases hread
      exact ⟨[l], .ended (List.forall_mem_nil _) hblank rest⟩
    rename_i hblank
    rw [Bool.not_eq_true] at hblank
    split at hread
    · cases hread
    -- whether the line is added or skipped, reading goes on behind it
    have hnext : ∃ h last, readFrom strict h last lines = .ok (h', rest) := by
      split at hread
      · exact ⟨_, _, hread⟩
      · split at hread
        · cases hread
        · exact ⟨_, _, hread⟩
    obtain ⟨_, _, hnext⟩ := hnext
    obtain ⟨block, hblock⟩ := ih hnext
    exact ⟨l :: block, hblock.cons hblank⟩

/-- **What a header block takes**, when it is read. -/
theorem extent_of_read {context : Nat} {h : Headers} (hread : read strict context lines = .ok (h, rest)) :
    ∃ block, Extent strict lines block rest :=
  extent_of_readFrom hread

theorem subset_of_read {context : Nat} {h : Headers} (hread : read strict context lines = .ok (h, rest)) :
    rest ⊆ lines := by
  obtain ⟨block, hextent⟩ := extent_of_read hread
  rw [hextent.eq_append]
  exact List.subset_append_right block rest

theorem readFrom_preserves {I : Headers → Prop}
    (hadd : ∀ l ∈ lines, ∀ h h', I h → addLine? h l = some h' → I h') {h h' : Headers} {last : Nat} (hh : I h)
    (hread : readFrom strict h last lines = .ok (h', rest)) : I h' := by
  induction lines generalizing h last with
  | nil =>
    rw [readFrom] at hread
    split at hread
    · cases hread
    · cases hread
      exact hh
  | cons l lines ih =>
    rw [List.forall_mem_cons] at hadd
    rw [readFrom] at hread
    split at hread
    · cases hread
      exact hh
    split at hread
    · cases hread
    cases hnext : addLine? h l with
    | some next =>
      rw [hnext] at hread
      exact ih hadd.2 (hadd.1 h next hh hnext) hread
    | none =>
      rw [hnext] at hread
      dsimp only at hread
      split at hread
      · cases hread
      · exact ih hadd.2 hh hread

/-- **What every line keeps, that is added to a block, holds of the block that is read.** -/
theorem read_preserves {I : Headers → Prop} {context : Nat} {h : Headers} (hempty : ∀ line, I (.atLine line))
    (hadd : ∀ l ∈ lines, ∀ h h', I h → addLine? h l = some h' → I h')
    (hread : read strict context lines = .ok (h, rest)) : I h :=
  readFrom_preserves hadd (hempty _) hread

theorem readFrom_trimEnding (strict : Bool) (h : Headers) (last : Nat) (lines : List Line) :
    readFrom strict h last (trimEnding lines)
      = (readFrom strict h last lines).map fun p => (p.1, trimEnding p.2) := by
  induction lines generalizing h last with
  | nil =>
    rw [trimEnding, readFrom]
    split <;> rfl
  | cons l lines ih =>
    obtain ⟨m, hm, hcontent, hnumber⟩ := Segment.exists_trimEnding_cons l lines
    have hblank : m.isBlank = l.isBlank := by rw [Line.isBlank, Line.isBlank, hcontent]
    have htext : m.text = l.text := by rw [Line.text, Line.text, hcontent]
    have hadd : addLine? h m = addLine? h l := by rw [addLine?, addLine?, htext, hnumber]
    rw [hm, readFrom, readFrom, hblank, htext, hadd, hnumber]
    split
    · rfl
    split
    · rfl
    cases addLine? h l with
    | some next => exact ih next l.number
    | none =>
      dsimp only
      split
      · rfl
      · exact ih h l.number

/-- **The lines behind a header block** lose their last line end when all lines do. -/
theorem read_trimEnding (strict : Bool) (context : Nat) (lines : List Line) :
    read strict context (trimEnding lines)
      = (read strict context lines).map fun p => (p.1, trimEnding p.2) := by
  rw [read, Segment.firstNumber_trimEnding]
  exact readFrom_trimEnding strict _ context lines

theorem exists_read_of_trimEnding {context : Nat} {h : Headers}
    (hread : read strict context (trimEnding lines) = .ok (h, rest)) :
    ∃ rest', read strict context lines = .ok (h, rest') ∧ rest = trimEnding rest' := by
  rw [read_trimEnding] at hread
  cases hlines : read strict context lines with
  | error r =>
    rw [hlines] at hread
    cases hread
  | ok p =>
    rw [hlines] at hread
    cases hread
    exact ⟨p.2, rfl, rfl⟩

end HeaderBlock

/-! ### Operations -/

/-- **What an operation is read from**: its request line, with a header block behind it, and in front of it blank lines
at most, if reading is lenient. -/
theorem Operation.exists_of_read {strict : Bool} {context : Nat} {lines : List Line} {op : Operation}
    (h : read strict context lines = .ok op) :
    ∃ blanks rest, lines = blanks ++ op.requestLine :: rest ∧ (∀ l ∈ blanks, l.isBlank) ∧ (strict → blanks = []) ∧
      HeaderBlock.read strict op.requestLine.number rest = .ok (op.headers, op.body) := by
  have hblanks : ∃ blanks, (∀ l ∈ blanks, l.isBlank) ∧ (strict → blanks = []) ∧
      lines = blanks ++ if strict then lines else lines.dropWhile Line.isBlank := by
    cases strict with
    | true => exact ⟨[], List.forall_mem_nil _, fun _ => rfl, rfl⟩
    | false =>
      refine ⟨lines.takeWhile Line.isBlank, fun l hl => List.mem_takeWhile_imp hl, fun h => (nomatch h), ?_⟩
      exact List.takeWhile_append_dropWhile.symm
  obtain ⟨blanks, hblanks, hstrict, hlines⟩ := hblanks
  rw [read] at h
  split at h
  · cases h
  rename_i l rest hcase
  split at h
  · cases h
  obtain ⟨⟨headers, body⟩, hread, h⟩ := Outcome.bind_eq_ok.1 h
  cases h
  exact ⟨blanks, rest, hcase ▸ hlines, hblanks, hstrict, hread⟩

namespace Embedded

open HeaderBlock (Extent)
open Segment (trimEnding)

/-- The lines of a part up to the body of its operation, and the lines of the body: the header block of the part,
the request line, and the header block of the request stand in front of it.  Only lenient reading lets blank lines
stand in front of the request line. -/
inductive HasBody (strict : Bool) : List Line → List Line → List Line → Prop
  | intro {lines mime blanks rest headers body : List Line} {requestLine : Line}
      (hmime : Extent strict lines mime (blanks ++ requestLine :: rest)) (hblanks : ∀ l ∈ blanks, l.isBlank)
      (hstrict : strict → blanks = []) (hline : requestLine.isBlank = false) (hheaders : Extent strict rest headers body) :
      HasBody strict lines (mime ++ (blanks ++ requestLine :: headers)) body

variable {strict : Bool} {lines head body : List Line}

theorem HasBody.eq_append (h : HasBody strict lines head body) : lines = head ++ body := by
  obtain ⟨hmime, -, -, -, hheaders⟩ := h
  rw [hmime.eq_append, hheaders.eq_append]
  simp

/-- **There is one place where the body begins.** -/
theorem HasBody.unique {head' body' : List Line} (h : HasBody strict lines head body)
    (h' : HasBody strict lines head' body') : head = head' ∧ body = body' := by
  have hbody : ∀ {head body}, HasBody strict lines head body →
      body = ((((lines.dropWhile fun l => !l.isBlank).tail.dropWhile Line.isBlank).tail.dropWhile
        fun l => !l.isBlank)).tail := by
    rintro _ _ ⟨hmime, hblanks, -, hline, hheaders⟩
    rw [← hmime.rest_eq, List.dropWhile_append_of_pos hblanks, List.dropWhile_cons_of_neg (by simp [hline]),
      List.tail_cons, hheaders.rest_eq]
  have heq : body = body' := (hbody h).trans (hbody h').symm
  have happend : head ++ body = head' ++ body' := h.eq_append.symm.trans h'.eq_append
  rw [heq] at happend
  exact ⟨List.append_cancel_right happend, heq⟩

/-- **The body of an operation** is what stands behind its header block, but for the last line end. -/
theorem hasBody_of_read {context : Nat} {e : Embedded} (h : read strict context (trimEnding lines) = .ok e) :
    ∃ head body, HasBody strict lines head body ∧ e.operation.body = trimEnding body := by
  obtain ⟨⟨mime, rest⟩, hmime, h⟩ := Outcome.bind_eq_ok.1 h
  obtain ⟨op, hop, h⟩ := Outcome.bind_eq_ok.1 h
  cases h
  obtain ⟨rest, hrest, rfl⟩ := HeaderBlock.exists_read_of_trimEnding hmime
  obtain ⟨block, hblock⟩ := HeaderBlock.extent_of_read hrest
  have hblanks : ∃ blanks, (∀ l ∈ blanks, l.isBlank) ∧ (strict → blanks = []) ∧
      ∃ kept, rest = blanks ++ kept ∧
        (if strict then trimEnding rest else (trimEnding rest).dropWhile Line.isBlank) = trimEnding kept := by
    cases strict with
    | true => exact ⟨[], List.forall_mem_nil _, fun _ => rfl, rest, rfl, rfl⟩
    | false =>
      refine ⟨rest.takeWhile Line.isBlank, ?_, ?_, rest.dropWhile Line.isBlank, ?_, ?_⟩
      · exact fun l hl => List.mem_takeWhile_imp hl
      · exact fun hstrict => (nomatch hstrict)
      · exact List.takeWhile_append_dropWhile.symm
      · exact Segment.dropWhile_trimEnding rest
  obtain ⟨blanks, hblanks, hstrict, kept, rfl, hkept⟩ := hblanks
  rw [Operation.read, hkept] at hop
  cases kept with
  | nil => cases hop
  | cons requestLine behind =>
    obtain ⟨m, hm, hcontent, -⟩ := Segment.exists_trimEnding_cons requestLine behind
    have hblank : m.isBlank = requestLine.isBlank := by rw [Line.isBlank, Line.isBlank, hcontent]
    rw [hm] at hop
    dsimp only at hop
    split at hop
    · cases hop
    rename_i hline
    obtain ⟨⟨headers, body⟩, hheaders, hop⟩ := Outcome.bind_eq_ok.1 hop
    cases hop
    obtain ⟨body, hbody, rfl⟩ := HeaderBlock.exists_read_of_trimEnding hheaders
    obtain ⟨block', hblock'⟩ := HeaderBlock.extent_of_read hbody
    rw [hblank, Bool.not_eq_true] at hline
    exact ⟨_, body, .intro hblock hblanks hstrict hline hblock', rfl⟩

end Embedded

end BatchExchange
