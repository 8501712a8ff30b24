import BatchExchange.BodyPart
import BatchExchange.Proofs.Outcome
import BatchExchange.Proofs.Segment

/-!
# How lines end

No step of reading asks how a line ends: delimiters, blank lines, header lines and request lines are recognized by
what stands in front of the terminator, and the lines of a body are passed on as they are.  So to read lines that
end in another way is to read the lines and change their endings then.

* `Line.mapEnding`: a line that ends in another way.
* `Segment.ofLines_mapEnding`, `HeaderBlock.read_mapEnding`, `Operation.read_mapEnding`,
  `BodyPart.read_mapEnding`: the steps of reading, which all commute with the change.
* `Line.feeds`: octets with `\n` in the place of each `\r\n`.
* `Line.readAll_feeds`: they have the same lines, with other endings, if `\r` stands in front of `\n` only.
* `Line.join_map_feed`: lines with other endings are together the octets with `\n` in those places.
-/

namespace BatchExchange

namespace Line

/-- A line that ends in another way. -/
def mapEnding (change : Ending → Ending) (l : Line) : Line := { l with ending := change l.ending }

variable {change : Ending → Ending}

@[simp] theorem number_mapEnding (l : Line) : (l.mapEnding change).number = l.number := rfl

@[simp] theorem text_mapEnding (l : Line) : (l.mapEnding change).text = l.text := rfl

@[simp] theorem isBlank_mapEnding (l : Line) : (l.mapEnding change).isBlank = l.isBlank := rfl

theorem opens_comp_mapEnding (b : Text) : opens b ∘ mapEnding change = opens b :=
  funext fun _ => opens_congr rfl b

theorem closes_comp_mapEnding (b : Text) : closes b ∘ mapEnding change = closes b :=
  funext fun _ => closes_congr rfl b

theorem delimits_comp_mapEnding (b : Text) : delimits b ∘ mapEnding change = delimits b :=
  funext fun _ => delimits_congr rfl b

theorem firstNumber_mapEnding (default : Nat) (lines : List Line) :
    firstNumber default (lines.map (mapEnding change)) = firstNumber default lines := by
  cases lines <;> rfl

theorem lastNumber_mapEnding (default : Nat) (lines : List Line) :
    lastNumber default (lines.map (mapEnding change)) = lastNumber default lines := by
  rw [lastNumber, List.getLast?_map, Option.map_map, lastNumber]
  rfl

end Line

open Line (mapEnding)
open Outcome (bind_eq_map mapM_eq_map same_bind_eq_map)

variable {change : Ending → Ending}

/-! ### Segments -/

namespace Segment

theorem splitOnP_map {α β : Type} (f : α → β) (p : β → Bool) (l : List α) :
    (l.map f).splitOnP p = (l.splitOnP (p ∘ f)).map (List.map f) := by
  induction l with
  | nil => simp
  | cons a l ih =>
    rw [List.map_cons, List.splitOnP_cons_eq_if_modifyHead, List.splitOnP_cons_eq_if_modifyHead, ih]
    obtain ⟨first, rest, hsplit⟩ := List.exists_cons_of_ne_nil (List.splitOnP_ne_nil (p ∘ f) l)
    rw [hsplit, Function.comp_apply]
    split <;> rfl

theorem trimEnding_mapEnding (hmissing : change .missing = .missing) (lines : List Line) :
    trimEnding (lines.map (mapEnding change)) = (trimEnding lines).map (mapEnding change) := by
  fun_induction trimEnding lines with
  | case1 => rfl
  | case2 l => simp [trimEnding, mapEnding, Line.withoutEnding, hmissing]
  | case3 l lines hne ih =>
    obtain ⟨next, lines, rfl⟩ := List.exists_cons_of_ne_nil hne
    exact congrArg (mapEnding change l :: ·) ih

theorem firstDelimiter?_mapEnding (b : Text) (lines : List Line) :
    firstDelimiter? b (lines.map (mapEnding change)) = firstDelimiter? b lines := by
  rw [firstDelimiter?, List.find?_map, Line.delimits_comp_mapEnding, Option.map_map, firstDelimiter?]
  rfl

theorem untilClose_mapEnding (b : Text) (lines : List Line) :
    untilClose b (lines.map (mapEnding change)) = (untilClose b lines).map (mapEnding change) :=
  List.takeWhile_map

/-- **Segments are cut alike.**  The ending that the last line of a segment loses may be any, but one that is not
there must not become one that is. -/
theorem ofLines_mapEnding (hmissing : change .missing = .missing) (b : Text) (context : Nat) (lines : List Line) :
    ofLines b context (lines.map (mapEnding change))
      = (ofLines b context lines).map (List.map (List.map (mapEnding change))) := by
  rw [ofLines, ofLines, List.any_map, List.any_map, Line.closes_comp_mapEnding, Line.opens_comp_mapEnding,
    Line.lastNumber_mapEnding]
  split_ifs
  · refine congrArg Except.ok ?_
    rw [untilClose_mapEnding, splitOnP_map, Line.opens_comp_mapEnding, ← List.map_tail, List.map_map, List.map_map]
    exact List.map_congr_left fun segment _ => trimEnding_mapEnding hmissing segment
  · rfl
  · rfl

end Segment

/-! ### Header blocks, operations and parts -/

namespace HeaderBlock

theorem readFrom_mapEnding (strict : Bool) (h : Headers) (last : Nat) (lines : List Line) :
    readFrom strict h last (lines.map (mapEnding change))
      = (readFrom strict h last lines).map fun (h, rest) => (h, rest.map (mapEnding change)) := by
  induction lines generalizing h last with
  | nil => cases strict <;> rfl
  | cons l lines ih =>
    have hadd : addLine? h (l.mapEnding change) = addLine? h l := rfl
    rw [List.map_cons, readFrom, readFrom, Line.isBlank_mapEnding, Line.text_mapEnding, Line.number_mapEnding, hadd]
    split
    · rfl
    split
    · rfl
    cases addLine? h l with
    | some next => exact ih next l.number
    | none =>
      dsimp only
      split
      · rfl
      · exact ih h l.number

theorem read_mapEnding (strict : Bool) (context : Nat) (lines : List Line) :
    read strict context (lines.map (mapEnding change))
      = (read strict context lines).map fun (h, rest) => (h, rest.map (mapEnding change)) := by
  rw [read, Line.firstNumber_mapEnding, readFrom_mapEnding, read]

end HeaderBlock

namespace Operation

/-- An operation whose lines end in another way. -/
def mapEnding (change : Ending → Ending) (op : Operation) : Operation :=
  { op with requestLine := op.requestLine.mapEnding change, body := op.body.map (Line.mapEnding change) }

theorem read_mapEnding (strict : Bool) (context : Nat) (lines : List Line) :
    read strict context (lines.map (Line.mapEnding change)) = (read strict context lines).map (mapEnding change) := by
  have hlines : (if strict then lines.map (Line.mapEnding change)
        else (lines.map (Line.mapEnding change)).dropWhile Line.isBlank)
      = (if strict then lines else lines.dropWhile Line.isBlank).map (Line.mapEnding change) := by
    split
    · rfl
    · exact List.dropWhile_map
  rw [read, hlines, read]
  cases (if strict then lines else lines.dropWhile Line.isBlank) with
  | nil => rfl
  | cons l rest =>
    rw [List.map_cons]
    dsimp only
    rw [Line.isBlank_mapEnding, Line.number_mapEnding]
    split
    · rfl
    · exact bind_eq_map (HeaderBlock.read_mapEnding strict l.number rest) fun _ _ => rfl

end Operation

namespace Embedded

def mapEnding (change : Ending → Ending) (e : Embedded) : Embedded :=
  { e with operation := e.operation.mapEnding change }

theorem readAfter_mapEnding (strict : Bool) (mime : Headers) (rest : List Line) :
    readAfter strict mime (rest.map (Line.mapEnding change))
      = (readAfter strict mime rest).map (mapEnding change) :=
  bind_eq_map (Operation.read_mapEnding strict mime.line rest) fun _ _ => rfl

theorem read_mapEnding (strict : Bool) (context : Nat) (lines : List Line) :
    read strict context (lines.map (Line.mapEnding change)) = (read strict context lines).map (mapEnding change) :=
  bind_eq_map (HeaderBlock.read_mapEnding strict context lines) fun p _ => readAfter_mapEnding strict p.1 p.2

end Embedded

namespace BodyPart

def mapEnding (change : Ending → Ending) : BodyPart → BodyPart
  | single e => single (e.mapEnding change)
  | changeSet mime boundary es => changeSet mime boundary (es.map (Embedded.mapEnding change))

theorem readMembers_mapEnding (hmissing : change .missing = .missing) (strict : Bool) (b : Text) (context : Nat)
    (lines : List Line) :
    readMembers strict b context (lines.map (Line.mapEnding change))
      = (readMembers strict b context lines).map (List.map (Embedded.mapEnding change)) := by
  refine bind_eq_map (Segment.ofLines_mapEnding hmissing b context lines) fun segments _ => ?_
  simp only [List.map_eq_nil_iff]
  split
  · rfl
  · refine mapM_eq_map fun segment _ => ?_
    rw [Line.firstNumber_mapEnding]
    exact Embedded.read_mapEnding strict _ segment

/-- **A part is read alike**, whichever way its lines end. -/
theorem read_mapEnding (hmissing : change .missing = .missing) (strict : Bool) (context : Nat) (lines : List Line) :
    read strict context (lines.map (Line.mapEnding change)) = (read strict context lines).map (mapEnding change) := by
  refine bind_eq_map (HeaderBlock.read_mapEnding strict context lines) fun p _ => ?_
  obtain ⟨mime, rest⟩ := p
  dsimp only
  split
  · exact bind_eq_map (Embedded.readAfter_mapEnding strict mime rest) fun _ _ => rfl
  split
  · rfl
  · refine same_bind_eq_map _ fun _ _ => ?_
    exact bind_eq_map (readMembers_mapEnding hmissing strict _ mime.line rest) fun _ _ => rfl

end BodyPart

/-! ### Line feeds -/

/-- `\n` in the place of `\r\n`. -/
def Ending.feed : Ending → Ending
  | crlf => lf
  | ending => ending

namespace Line

/-- The octets with `\n` in the place of each `\r\n`. -/
def feeds : Bytes → Bytes
  | 13 :: 10 :: bytes => 10 :: feeds bytes
  | b :: bytes => b :: feeds bytes
  | [] => []

theorem feeds_crlf (bytes : Bytes) : feeds (13 :: 10 :: bytes) = 10 :: feeds bytes := rfl

theorem feeds_cons {b : UInt8} (hb : b ≠ 13) (bytes : Bytes) : feeds (b :: bytes) = b :: feeds bytes := by
  rw [feeds]
  rintro _ rfl
  exact absurd rfl hb

theorem feeds_append {s : Bytes} (hs : 13 ∉ s) (t : Bytes) : feeds (s ++ t) = s ++ feeds t := by
  induction s with
  | nil => rfl
  | cons b s ih =>
    rw [List.mem_cons, not_or] at hs
    rw [List.cons_append, feeds_cons (Ne.symm hs.1), ih hs.2, List.cons_append]

/-- Each `\r` stands in front of an `\n`. -/
def Paired (bytes : Bytes) : Prop := ∀ i < bytes.length, bytes[i]? = some 13 → bytes[i + 1]? = some 10

instance (bytes : Bytes) : Decidable (Paired bytes) := by
  unfold Paired
  infer_instance

theorem Paired.tail {b : UInt8} {bytes : Bytes} (h : Paired (b :: bytes)) : Paired bytes :=
  fun i hi hcr => h (i + 1) (Nat.succ_lt_succ hi) hcr

theorem not_paired_of_cr {bytes : Bytes} (hne : ∀ rest, bytes = 10 :: rest → False) : ¬Paired (13 :: bytes) := by
  intro h
  have hhead : bytes[0]? = some 10 := h 0 (Nat.succ_pos _) rfl
  cases bytes with
  | nil => cases hhead
  | cons b bytes => exact hne bytes (congrArg (· :: bytes) (Option.some.inj hhead))

/-- **Where all `\r` stand in front of `\n`, only endings change.** -/
theorem split_feeds {bytes : Bytes} (h : Paired bytes) :
    split (feeds bytes) = (split bytes).map fun (content, ending) => (content, ending.feed) := by
  fun_induction split bytes with
  | case1 => rfl
  | case2 bytes ih =>
    rw [feeds_cons (by decide), split, ih h.tail]
    rfl
  | case3 bytes ih =>
    rw [feeds_crlf, split, ih h.tail.tail]
    rfl
  | case4 bytes hne ih => exact absurd h (not_paired_of_cr hne)
  | case5 b bytes h10 _ h13 hnil ih =>
    rw [feeds_cons h13, split_cons h10 h13, ih h.tail, hnil]
    rfl
  | case6 b bytes h10 _ h13 content ending lines hsplit ih =>
    rw [feeds_cons h13, split_cons h10 h13, ih h.tail, hsplit]
    rfl

theorem numberFrom_map_feed (n : Nat) (s : List (Bytes × Ending)) :
    numberFrom n (s.map fun (content, ending) => (content, ending.feed))
      = (numberFrom n s).map (mapEnding .feed) := by
  induction s generalizing n with
  | nil => rfl
  | cons p s ih => exact congrArg (mapEnding .feed ⟨p.1, p.2, n⟩ :: ·) (ih (n + 1))

theorem readAll_feeds {bytes : Bytes} (h : Paired bytes) :
    readAll (feeds bytes) = (readAll bytes).map (mapEnding .feed) := by
  rw [readAll, split_feeds h, numberFrom_map_feed, readAll]

theorem ending_ne_cr_of_mem_split {bytes : Bytes} (h : Paired bytes) : ∀ p ∈ split bytes, p.2 ≠ .cr := by
  fun_induction split bytes with
  | case1 => simp
  | case2 bytes ih => exact List.forall_mem_cons.2 ⟨by simp, ih h.tail⟩
  | case3 bytes ih => exact List.forall_mem_cons.2 ⟨by simp, ih h.tail.tail⟩
  | case4 bytes hne ih => exact absurd h (not_paired_of_cr hne)
  | case5 b bytes h10 _ h13 hnil ih => simp
  | case6 b bytes h10 _ h13 content ending lines hsplit ih =>
    have ih := ih h.tail
    rw [hsplit, List.forall_mem_cons] at ih
    exact List.forall_mem_cons.2 ih

/-- A line that has an `\r` in front of an `\n` at most. -/
structure IsFed (l : Line) : Prop where
  content : 13 ∉ l.content
  ending : l.ending ≠ .cr

theorem isFed_of_mem_readAll {bytes : Bytes} (h : Paired bytes) {l : Line} (hl : l ∈ readAll bytes) : l.IsFed := by
  have hraw := raw_mem_split hl
  exact ⟨(not_mem_of_mem_split _ hraw).2, ending_ne_cr_of_mem_split h _ hraw⟩

/-- **Such lines, with other endings, are their octets with `\n` in the place of each `\r\n`.** -/
theorem join_map_feed {lines : List Line} (h : ∀ l ∈ lines, l.IsFed) :
    join (lines.map (mapEnding .feed)) = feeds (join lines) := by
  induction lines with
  | nil => rfl
  | cons l lines ih =>
    rw [List.forall_mem_cons] at h
    obtain ⟨content, ending, number⟩ := l
    rw [List.map_cons, join_cons, join_cons, ih h.2, octets, octets, List.append_assoc, List.append_assoc,
      feeds_append h.1.content]
    refine congrArg (content ++ ·) ?_
    cases ending with
    | crlf => rfl
    | lf => exact (feeds_cons (by decide) _).symm
    | cr => exact absurd rfl h.1.ending
    | missing => rfl

end Line

end BatchExchange
