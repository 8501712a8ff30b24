import BatchExchange.HeaderBlock
import BatchExchange.Proofs.Headers
import BatchExchange.Proofs.Segment

/-!
# Written header blocks are read back

A header line that is written as name, colon, space and value is no continuation, looks like no delimiter and
gives just this name and value, if they are `IsWritable`.  So a written block is read as the block that its
names and values make, strictly and leniently (`HeaderBlock.read_written`).
-/

namespace BatchExchange.HeaderBlock

open Line (raw split IsWhole IsOneLine)

/-- A name and a value that a header line gives back. -/
structure IsWritable (name value : Text) : Prop where
  isName : HeaderBlock.isName name
  hyphens : after? "--".toList name = none
  oneLine : IsOneLine value
  trimmed : Text.trim value = value

instance (name value : Text) : Decidable (IsWritable name value) :=
  decidable_of_iff
    (HeaderBlock.isName name ∧ after? "--".toList name = none ∧ IsOneLine value ∧
      Text.trim value = value)
    ⟨fun ⟨h1, h2, h3, h4⟩ => ⟨h1, h2, h3, h4⟩, fun ⟨h1, h2, h3, h4⟩ => ⟨h1, h2, h3, h4⟩⟩

/-- The text of a header line. -/
def lineOf (p : Text × Text) : Text := p.1 ++ ": ".toList ++ p.2

/-- The octets of header lines. -/
def write (pairs : List (Text × Text)) : Bytes :=
  pairs.flatMap fun p => Response.writeHeader p.1 p.2

section Name

variable {name : Text} (h : isName name)

include h

theorem visible_of_mem {c : Char} (hc : c ∈ name) : 0x21 ≤ c.toNat ∧ c.toNat ≤ 0x7E ∧ c ≠ ':' := by
  simp only [isName, Bool.and_eq_true, List.all_eq_true, decide_eq_true_eq] at h
  have hv := h.2 c hc
  exact ⟨hv.1.1, hv.1.2, hv.2⟩

theorem exists_eq_cons : ∃ c t, name = c :: t := by
  have hne : name ≠ [] := by
    simp only [isName, Bool.and_eq_true, decide_eq_true_eq] at h
    exact h.1
  cases name with
  | nil => exact absurd rfl hne
  | cons c t => exact ⟨c, t, rfl⟩

theorem isOneLine_of_isName : IsOneLine name := by
  constructor <;> intro hm
  · exact absurd (visible_of_mem h hm).1 (by decide)
  · exact absurd (visible_of_mem h hm).1 (by decide)

end Name

section Written

variable {p : Text × Text} (h : IsWritable p.1 p.2)

include h

theorem isOneLine_lineOf : IsOneLine (lineOf p) :=
  ((isOneLine_of_isName h.isName).append (by decide)).append h.oneLine

/-- A name that does not begin with two hyphens does not do so with its colon behind it. -/
theorem after?_hyphens_lineOf : after? "--".toList (lineOf p) = none := by
  obtain ⟨c, t, hname⟩ := exists_eq_cons h.isName
  have hno := h.hyphens
  rw [hname] at hno
  rw [lineOf, hname]
  cases t with
  | nil =>
    show (if '-' = c then if '-' = ':' then _ else none else none) = none
    simp
  | cons d t =>
    show (if '-' = c then if '-' = d then some _ else none else none) = none
    by_cases hc : '-' = c
    · by_cases hd : '-' = d
      · subst hc hd
        cases hno
      · rw [if_neg hd, ite_self]
    · rw [if_neg hc]

theorem isContinuation_lineOf : isContinuation (lineOf p) = false := by
  obtain ⟨c, t, hname⟩ := exists_eq_cons h.isName
  have hc := (visible_of_mem h.isName (c := c) (by rw [hname]; simp)).1
  rw [isContinuation, lineOf, hname]
  show (c = ' ' || c = '\t') = false
  rw [Bool.or_eq_false_iff, decide_eq_false_iff_not, decide_eq_false_iff_not]
  constructor <;> rintro rfl <;> exact absurd hc (by decide)

theorem field?_lineOf : field? (lineOf p) = some (p.1, p.2) := by
  have hcolon : ':' ∉ p.1 := fun hm => (visible_of_mem h.isName hm).2.2 rfl
  have hcut : cut? ':' (lineOf p) = some (p.1, ' ' :: p.2) :=
    cut?_eq_some_iff.2 ⟨by simp [lineOf], hcolon⟩
  have htrim : Text.trim (' ' :: p.2) = p.2 := by
    rw [Text.trim_cons (by decide), h.trimmed]
  rw [field?, hcut]
  simp [Option.filter, h.isName, htrim]

theorem isBlank_eq_false {l : Line} (hl : l.content = Utf8.encode (lineOf p)) : l.isBlank = false := by
  obtain ⟨c, t, hname⟩ := exists_eq_cons h.isName
  have hc := visible_of_mem h.isName (c := c) (by rw [hname]; simp)
  have visible : ∀ n < 0x80, 0x21 ≤ n → Line.isSpace (.ofNat n) = false := by decide
  rw [Line.isBlank, hl, lineOf, hname, List.cons_append, List.cons_append, Utf8.encode_cons,
    Utf8.encodeChar_of_lt (by omega), List.cons_append, List.all_cons, visible _ (by omega) hc.1]
  rfl

theorem addLine?_written {l : Line} (hl : l.text = lineOf p) (b : Headers) :
    addLine? b l = some (b.add p.1 p.2 l.number) := by
  rw [addLine?, hl, isContinuation_lineOf h, if_neg (by simp), field?_lineOf h]
  rfl

/-- Reading goes on behind a written header line. -/
theorem readFrom_cons {l : Line} {e : Ending} (hl : l.raw = (Utf8.encode (lineOf p), e))
    (strict : Bool) (b : Headers) (last : Nat) (lines : List Line) :
    readFrom strict b last (l :: lines)
      = readFrom strict (b.add p.1 p.2 l.number) l.number lines := by
  have ht : l.text = lineOf p := Line.text_of_raw hl
  rw [readFrom, isBlank_eq_false h (congrArg Prod.fst hl), ht, after?_hyphens_lineOf h,
    addLine?_written h ht]
  rfl

theorem avoids_writeHeader (b : Text) : Segment.Avoids b (Response.writeHeader p.1 p.2) :=
  Segment.avoids_writeLine (isOneLine_lineOf h) (after?_hyphens_lineOf h)

end Written

theorem readFrom_of_isBlank {l : Line} (hl : l.content = []) (strict : Bool) (b : Headers)
    (last : Nat) (lines : List Line) : readFrom strict b last (l :: lines) = .ok (b, lines) := by
  have hb : l.isBlank := by rw [Line.isBlank, hl]; rfl
  rw [readFrom, if_pos hb]

section Block

variable {pairs : List (Text × Text)} (hp : ∀ p ∈ pairs, IsWritable p.1 p.2)

include hp

theorem split_write (rest : Bytes) :
    split (write pairs ++ rest)
      = pairs.map (fun p => (Utf8.encode (lineOf p), .crlf)) ++ split rest := by
  induction pairs with
  | nil => rfl
  | cons p pairs ih =>
    rw [List.forall_mem_cons] at hp
    rw [write, List.flatMap_cons, List.append_assoc, ← write,
      show Response.writeHeader p.1 p.2 = Response.writeLine (lineOf p) from rfl,
      Line.split_writeLine (isOneLine_lineOf hp.1), ih hp.2]
    rfl

theorem isWhole_write : IsWhole (write pairs) := by
  exact (Segment.avoids_flatMap (b := []) (fun p _ => Line.isWhole_writeLine _)
    fun p hm => avoids_writeHeader (hp p hm) []).1

theorem avoids_write (b : Text) : Segment.Avoids b (write pairs) := by
  exact (Segment.avoids_flatMap (fun p _ => Line.isWhole_writeLine _)
    fun p hm => avoids_writeHeader (hp p hm) b).2

theorem readFrom_written {lines : List Line}
    (hl : lines.map raw = pairs.map fun p => (Utf8.encode (lineOf p), .crlf)) {blank : Line}
    (hb : blank.content = []) (strict : Bool) (b : Headers) (last : Nat) (rest : List Line) :
    ∃ h, readFrom strict b last (lines ++ blank :: rest) = .ok (h, rest) ∧
      h.unplaced = pairs.foldl (fun h p => h.add p.1 p.2) b.unplaced := by
  induction pairs generalizing lines b last with
  | nil =>
    rw [List.map_eq_nil_iff.1 hl]
    exact ⟨b, readFrom_of_isBlank hb strict b last rest, rfl⟩
  | cons p pairs ih =>
    rw [List.forall_mem_cons] at hp
    obtain ⟨l, lines, rfl, hl, hrest⟩ := List.map_eq_cons_iff.1 hl
    obtain ⟨h, hread, hh⟩ := ih hp.2 hrest (b.add p.1 p.2 l.number) l.number
    refine ⟨h, ?_, ?_⟩
    · rw [List.cons_append, readFrom_cons hp.1 hl, hread]
    · rw [hh, Headers.unplaced_add, List.foldl_cons]

/-- **A written block is read as the block that its names and values make.** -/
theorem read_written {lines : List Line}
    (hl : lines.map raw = pairs.map fun p => (Utf8.encode (lineOf p), .crlf)) {blank : Line}
    (hb : blank.content = []) (strict : Bool) (context : Nat) (rest : List Line) :
    ∃ h, read strict context (lines ++ blank :: rest) = .ok (h, rest) ∧
      h.unplaced = Headers.ofList pairs :=
  readFrom_written hp hl hb strict _ context rest

end Block

end BatchExchange.HeaderBlock
