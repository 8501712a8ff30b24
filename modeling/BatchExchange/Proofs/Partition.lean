import BatchExchange.Proofs.Segment

/-!
# Lines are partitioned at their delimiters

What the reader of segments finds is a partition of the lines: a front, one segment behind each opening
delimiter, the first closing delimiter and what is behind it, none of the lines of front and segments a
delimiter.  It finds one exactly when there is a closing delimiter, and then the only one there is.

* `Segment.Partition`: lines in front, segments, and lines behind the first closing delimiter.
* `Segment.Unended`: lines of which the last one has lost its ending.
* `Segment.exists_framedLines`: lines in front of a closing delimiter are framed segments, whatever they are.
* `Segment.ofLines_partitions`: segments are those of the partition, and when there is none.
* `Segment.Between`, `Segment.exists_segment_between`: a segment stands between a delimiter and the next one.
-/

namespace BatchExchange.Segment

/-! ### Partitions -/

/-- A partition of lines at the delimiters of a boundary: no line of the front and of the segments is a
delimiter, each segment stands behind an opening one, and `close` is the first closing one. -/
structure Partition (b : Text) (lines front : List Line) (framed : List (Line × List Line)) (close : Line)
    (after : List Line) : Prop where
  lines_eq : lines = framedLines front framed ++ close :: after
  front_free : ∀ l ∈ front, l.delimits b = false
  opens : ∀ p ∈ framed, p.1.opens b
  free : ∀ p ∈ framed, ∀ l ∈ p.2, l.delimits b = false
  closes : close.closes b

/-- The same lines, but that the last one, if there is one, has no ending. -/
inductive Unended : List Line → List Line → Prop
  | nil : Unended [] []
  | concat (lines : List Line) (l : Line) : Unended (lines ++ [l]) (lines ++ [l.withoutEnding])

theorem unended_iff {s t : List Line} : Unended s t ↔ trimEnding s = t := by
  constructor
  · rintro (_ | ⟨lines, l⟩)
    · rfl
    · exact trimEnding_concat lines l
  · rintro rfl
    rcases List.eq_nil_or_concat' s with rfl | ⟨lines, l, rfl⟩
    · exact .nil
    · rw [trimEnding_concat]
      exact .concat lines l

theorem Partition.ofLines_eq {b : Text} {lines front after : List Line} {framed : List (Line × List Line)}
    {close : Line} (h : Partition b lines front framed close after) (context : Nat) :
    ofLines b context lines = .ok (framed.map fun p => trimEnding p.2) := by
  rw [h.lines_eq]
  exact ofLines_framedLines h.front_free h.opens h.free h.closes after context

/-- **Lines without a closing delimiter are framed segments**, whatever they are. -/
theorem exists_framedLines {b : Text} {lines : List Line} (h : ∀ l ∈ lines, l.closes b = false) :
    ∃ front framed, lines = framedLines front framed ∧ (∀ l ∈ front, l.delimits b = false) ∧
      (∀ p ∈ framed, p.1.opens b) ∧ ∀ p ∈ framed, ∀ l ∈ p.2, l.delimits b = false := by
  induction lines with
  | nil => exact ⟨[], [], rfl, fun _ hl => (nomatch hl), fun _ hp => (nomatch hp), fun _ hp => (nomatch hp)⟩
  | cons l lines ih =>
    rw [List.forall_mem_cons] at h
    obtain ⟨front, framed, rfl, hfront, hopen, hfree⟩ := ih h.2
    by_cases hl : l.opens b
    -- what stood in front of the first delimiter is the segment behind this one
    · refine ⟨[], (l, front) :: framed, rfl, fun _ hl => (nomatch hl), ?_, ?_⟩
      · exact List.forall_mem_cons.2 ⟨hl, hopen⟩
      · exact List.forall_mem_cons.2 ⟨hfront, hfree⟩
    · refine ⟨l :: front, framed, rfl, List.forall_mem_cons.2 ⟨?_, hfront⟩, hopen, hfree⟩
      rw [Line.delimits, Bool.eq_false_iff.2 hl, h.1, Bool.or_false]

theorem exists_first_close {b : Text} {lines : List Line} (h : lines.any (Line.closes b)) :
    ∃ front close after, lines = front ++ close :: after ∧ (∀ l ∈ front, l.closes b = false) ∧
      close.closes b := by
  induction lines with
  | nil => cases h
  | cons l lines ih =>
    by_cases hl : l.closes b
    · exact ⟨[], l, lines, rfl, fun _ hl => (nomatch hl), hl⟩
    · rw [List.any_cons, Bool.eq_false_iff.2 hl, Bool.false_or] at h
      obtain ⟨front, close, after, rfl, hfront, hclose⟩ := ih h
      refine ⟨l :: front, close, after, rfl, ?_, hclose⟩
      exact List.forall_mem_cons.2 ⟨Bool.eq_false_iff.2 hl, hfront⟩

/-- **Lines with a closing delimiter have a partition**, whatever they are. -/
theorem exists_partition {b : Text} {lines : List Line} (h : ∃ l ∈ lines, l.closes b) :
    ∃ front framed close after, Partition b lines front framed close after := by
  obtain ⟨inside, close, after, rfl, hinside, hclose⟩ := exists_first_close (List.any_eq_true.2 h)
  obtain ⟨front, framed, rfl, hfront, hopen, hfree⟩ := exists_framedLines hinside
  exact ⟨front, framed, close, after, rfl, hfront, hopen, hfree, hclose⟩

/-- **Segments are those of the partition**, each without its last line end. -/
theorem ofLines_eq_ok_iff {b : Text} {context : Nat} {lines : List Line} {segments : List (List Line)} :
    ofLines b context lines = .ok segments ↔
      ∃ front framed close after, Partition b lines front framed close after ∧
        List.Forall₂ (fun p s => Unended p.2 s) framed segments := by
  have hunended : ∀ framed : List (Line × List Line),
      List.Forall₂ (fun p s => Unended p.2 s) framed segments ↔ (framed.map fun p => trimEnding p.2) = segments := by
    intro framed
    simp only [unended_iff]
    rw [← List.forall₂_map_left_iff (f := fun p : Line × List Line => trimEnding p.2), List.forall₂_eq_eq_eq]
  constructor
  · intro h
    have hclose : ∃ l ∈ lines, l.closes b := by
      rw [← List.any_eq_true]
      by_contra hno
      rw [ofLines, if_neg hno] at h
      split at h <;> cases h
    obtain ⟨front, framed, close, after, hpartition⟩ := exists_partition hclose
    refine ⟨front, framed, close, after, hpartition, (hunended framed).2 ?_⟩
    exact Except.ok.inj ((hpartition.ofLines_eq context).symm.trans h)
  · rintro ⟨front, framed, close, after, hpartition, hsegments⟩
    rw [hpartition.ofLines_eq, (hunended framed).1 hsegments]

/-- **Without a closing delimiter** there are no segments, and what is missing depends on whether there is an
opening one. -/
theorem ofLines_of_unclosed {b : Text} {lines : List Line} (h : ∀ l ∈ lines, l.closes b = false) (context : Nat) :
    ((∃ l ∈ lines, l.opens b) → ∃ last, lines.getLast? = some last ∧
        ofLines b context lines = .error ⟨.missingCloseDelimiter b, some last.number⟩) ∧
      ((∀ l ∈ lines, l.opens b = false) →
        ofLines b context lines = .error ⟨.missingDelimiter b, some context⟩) := by
  have hclose : ¬lines.any (Line.closes b) := by
    intro hany
    obtain ⟨l, hl, hcl⟩ := List.any_eq_true.1 hany
    rw [h l hl] at hcl
    cases hcl
  constructor
  · intro hopen
    obtain ⟨l, hl, -⟩ := id hopen
    obtain ⟨init, last, rfl⟩ := List.eq_nil_or_concat' lines |>.resolve_left (List.ne_nil_of_mem hl)
    refine ⟨last, List.getLast?_concat, ?_⟩
    rw [ofLines, if_neg hclose, if_pos (List.any_eq_true.2 hopen), Line.lastNumber, List.getLast?_concat]
    rfl
  · intro hopen
    have hnone : ¬lines.any (Line.opens b) := by
      intro hany
      obtain ⟨l, hl, hop⟩ := List.any_eq_true.1 hany
      rw [hopen l hl] at hop
      cases hop
    rw [ofLines, if_neg hclose, if_neg hnone]
    rfl

/-- **Lines are partitioned at their delimiters.**  An opening delimiter writes two hyphens and the boundary, a
closing one two more, with any padding behind, but a boundary that ends with padding has no opening ones.  The
segments that are found are those of the partition, each without its last line end; there are some exactly when
there is a closing delimiter, and otherwise what is missing is said.  So segments that are framed by delimiters
of a valid boundary are found again. -/
theorem ofLines_partitions (b : Text) (context : Nat) :
    (∀ l : Line, (l.closes b ↔ l.Pads ("--".toList ++ b ++ "--".toList)) ∧
      (l.opens b ↔ (∀ c ∈ b.getLast?, c ≠ ' ' ∧ c ≠ '\t') ∧ l.Pads ("--".toList ++ b))) ∧
    (∀ lines, ((∃ segments, ofLines b context lines = .ok segments) ↔ ∃ l ∈ lines, l.closes b) ∧
      (∀ segments, ofLines b context lines = .ok segments ↔
        ∃ front framed close after, Partition b lines front framed close after ∧
          List.Forall₂ (fun p s => Unended p.2 s) framed segments) ∧
      ((∀ l ∈ lines, l.closes b = false) →
        ((∃ l ∈ lines, l.opens b) → ∃ last, lines.getLast? = some last ∧
          ofLines b context lines = .error ⟨.missingCloseDelimiter b, some last.number⟩) ∧
        ((∀ l ∈ lines, l.opens b = false) →
          ofLines b context lines = .error ⟨.missingDelimiter b, some context⟩))) ∧
    (Boundary.isValid b → ∀ front framed close after, (∀ l ∈ front, l.delimits b = false) →
      (∀ p ∈ framed, p.1.Pads ("--".toList ++ b) ∧ ∀ l ∈ p.2, l.delimits b = false) →
      close.Pads ("--".toList ++ b ++ "--".toList) →
        ∃ segments, ofLines b context (framedLines front framed ++ close :: after) = .ok segments ∧
          List.Forall₂ (fun p s => Unended p.2 s) framed segments) := by
  refine ⟨fun l => ⟨Line.closes_iff, Line.opens_iff⟩, fun lines => ⟨⟨?_, ?_⟩, ?_, ?_⟩, ?_⟩
  · rintro ⟨segments, h⟩
    obtain ⟨front, framed, close, after, hpartition, -⟩ := ofLines_eq_ok_iff.1 h
    rw [hpartition.lines_eq]
    exact ⟨close, by simp, hpartition.closes⟩
  · intro h
    obtain ⟨front, framed, close, after, hpartition⟩ := exists_partition h
    exact ⟨_, hpartition.ofLines_eq context⟩
  · intro segments
    exact ofLines_eq_ok_iff
  · intro h
    exact ofLines_of_unclosed h context
  · intro hb front framed close after hfront hframed hclose
    have hpartition : Partition b (framedLines front framed ++ close :: after) front framed close after := by
      refine ⟨rfl, hfront, ?_, fun p hp => (hframed p hp).2, Line.closes_iff.2 hclose⟩
      intro p hp
      exact Line.opens_iff.2 ⟨Line.not_padded_of_isValid hb, (hframed p hp).1⟩
    have h := hpartition.ofLines_eq context
    refine ⟨_, h, ?_⟩
    rw [List.forall₂_map_right_iff, List.forall₂_same]
    intro p _
    exact unended_iff.2 rfl

/-- Two segments, one of them empty, behind delimiters with padding and among lines that look like delimiters;
and the same lines without the closing one. -/
theorem ofLines_partitions_lookalikes :
    let line (number : Nat) (t : Text) : Line := ⟨Utf8.encode t, .crlf, number⟩
    let b := "b-".toList
    let front := [line 1 "--b".toList, line 2 "-- b-".toList]
    let framed := [(line 3 "--b- \t".toList, [line 4 "--b-c".toList, line 5 "--b--".toList, line 6 []]),
      (line 7 "--b-".toList, [])]
    let close := line 8 "--b--- ".toList
    let after := [line 9 "--b-".toList]
    Boundary.isValid b ∧ (∀ l ∈ front, l.delimits b = false) ∧
      (∀ p ∈ framed, p.1.Pads ("--".toList ++ b) ∧ ∀ l ∈ p.2, l.delimits b = false) ∧
      close.Pads ("--".toList ++ b ++ "--".toList) ∧
      (∃ segments, ofLines b 1 (framedLines front framed ++ close :: after) = .ok segments ∧
        List.Forall₂ (fun p s => Unended p.2 s) framed segments) ∧
      (∃ last, (framedLines front framed).getLast? = some last ∧
        ofLines b 1 (framedLines front framed) = .error ⟨.missingCloseDelimiter b, some last.number⟩) ∧
      ofLines b 1 front = .error ⟨.missingDelimiter b, some 1⟩ := by
  intro line b front framed close after
  obtain ⟨-, hlines, hframes⟩ := ofLines_partitions b 1
  have hvalid : Boundary.isValid b := by decide
  have hfront : ∀ l ∈ front, l.delimits b = false := by decide
  have hclose : close.Pads ("--".toList ++ b ++ "--".toList) := ⟨[32], by simp [Line.isPadding], by decide⟩
  have hframed : ∀ p ∈ framed, p.1.Pads ("--".toList ++ b) ∧ ∀ l ∈ p.2, l.delimits b = false := by
    refine List.forall_mem_cons.2 ⟨⟨⟨[32, 9], by simp [Line.isPadding], by decide⟩, by decide⟩, ?_⟩
    exact List.forall_mem_singleton.2 ⟨⟨[], by simp, by decide⟩, by decide⟩
  refine ⟨hvalid, hfront, hframed, hclose, hframes hvalid front framed close after hfront hframed hclose, ?_, ?_⟩
  · exact ((hlines (framedLines front framed)).2.2 (by decide)).1 (by decide)
  · exact ((hlines front).2.2 (by decide)).2 (by decide)

/-! ### Segments between delimiters -/

/-- The delimiters of a boundary among some lines, in order. -/
def delimiters (boundary : Text) (lines : List Line) : List Line := lines.filter (Line.delimits boundary)

theorem delimiters_eq_nil {b : Text} {lines : List Line} (h : ∀ l ∈ lines, l.delimits b = false) :
    delimiters b lines = [] := by
  rw [delimiters, List.filter_eq_nil_iff]
  exact fun l hl => Bool.eq_false_iff.1 (h l hl)

theorem delimiters_framedLines {b : Text} {front : List Line} {framed : List (Line × List Line)}
    (hfront : ∀ l ∈ front, l.delimits b = false) (hopen : ∀ p ∈ framed, p.1.opens b)
    (hfree : ∀ p ∈ framed, ∀ l ∈ p.2, l.delimits b = false) :
    delimiters b (framedLines front framed) = framed.map Prod.fst := by
  rw [delimiters, framedLines, List.filter_append, ← delimiters, delimiters_eq_nil hfront, List.nil_append]
  induction framed with
  | nil => rfl
  | cons p framed ih =>
    rw [List.forall_mem_cons] at hopen hfree
    have hp : p.1.delimits b := by rw [Line.delimits, hopen.1, Bool.true_or]
    rw [List.flatMap_cons, List.cons_append, List.filter_cons_of_pos hp, List.filter_append, ← delimiters,
      delimiters_eq_nil hfree.1, List.nil_append, ih hopen.2 hfree.2, List.map_cons]

theorem exists_eq_append_of_getElem? {α : Type} {l : List α} {k : Nat} {a : α} (h : l[k]? = some a) :
    ∃ before after, l = before ++ a :: after ∧ k = before.length := by
  obtain ⟨hlt, rfl⟩ := List.getElem?_eq_some_iff.1 h
  refine ⟨l.take k, l.drop (k + 1), ?_, ?_⟩
  · rw [← List.drop_eq_getElem_cons hlt, List.take_append_drop]
  · rw [List.length_take, Nat.min_eq_left (Nat.le_of_lt hlt)]

/-- `inner` are the lines between the `k`-th delimiter of a boundary, which is an opening one, and the next one. -/
structure Between (b : Text) (k : Nat) (lines before : List Line) (opening : Line) (inner : List Line)
    (ending : Line) (after : List Line) : Prop where
  lines_eq : lines = before ++ opening :: (inner ++ ending :: after)
  place : (delimiters b before).length = k
  opens : opening.opens b
  free : ∀ l ∈ inner, l.delimits b = false
  ends : ending.delimits b

theorem Between.delimiters_eq {b : Text} {k : Nat} {lines before inner after : List Line} {opening ending : Line}
    (h : Between b k lines before opening inner ending after) :
    delimiters b lines = delimiters b before ++ opening :: ending :: delimiters b after := by
  have hopens : opening.delimits b := by rw [Line.delimits, h.opens, Bool.true_or]
  rw [h.lines_eq, delimiters, List.filter_append, List.filter_cons_of_pos hopens, List.filter_append,
    List.filter_cons_of_pos h.ends, ← delimiters, ← delimiters, delimiters_eq_nil h.free]
  rfl

/-- **A segment is made of the lines between a delimiter and the next one**, those in the place of the segment. -/
theorem exists_segment_between {b : Text} {context : Nat} {lines : List Line} {segments : List (List Line)}
    (h : ofLines b context lines = .ok segments) {k : Nat} {segment : List Line}
    (hk : segments[k]? = some segment) :
    ∃ before opening inner ending after, Between b k lines before opening inner ending after ∧
      segment = trimEnding inner := by
  obtain ⟨front, framed, close, after, hpartition, -⟩ := ofLines_eq_ok_iff.1 h
  rw [hpartition.ofLines_eq, Except.ok.injEq] at h
  obtain ⟨hlines, hfront, hopen, hfree, hclose⟩ := hpartition
  subst h
  rw [List.getElem?_map, Option.map_eq_some_iff] at hk
  obtain ⟨p, hk, rfl⟩ := hk
  obtain ⟨earlier, later, rfl, rfl⟩ := exists_eq_append_of_getElem? hk
  rw [List.forall_mem_append, List.forall_mem_cons] at hopen hfree
  have hplace : (delimiters b (framedLines front earlier)).length = earlier.length := by
    rw [delimiters_framedLines hfront hopen.1 hfree.1, List.length_map]
  cases later with
  -- the last segment ends at the closing delimiter
  | nil =>
    refine ⟨framedLines front earlier, p.1, p.2, close, after, ⟨?_, hplace, hopen.2.1, hfree.2.1, ?_⟩, rfl⟩
    · rw [hlines]
      simp [framedLines]
    · rw [Line.delimits, hclose, Bool.or_true]
  | cons q later =>
    rw [List.forall_mem_cons] at hopen
    refine ⟨framedLines front earlier, p.1, p.2, q.1,
      q.2 ++ later.flatMap (fun p => p.1 :: p.2) ++ close :: after, ⟨?_, hplace, hopen.2.1, hfree.2.1, ?_⟩, rfl⟩
    · rw [hlines]
      simp [framedLines]
    · rw [Line.delimits, hopen.2.2.1, Bool.true_or]

/-- So it stands between two delimiters, which have its place among all of them and the place after it. -/
theorem exists_between {b : Text} {context : Nat} {lines : List Line} {segments : List (List Line)}
    (h : ofLines b context lines = .ok segments) {k : Nat} {segment : List Line}
    (hk : segments[k]? = some segment) :
    ∃ before opening inner ending after, lines = before ++ opening :: (inner ++ ending :: after) ∧
      segment = trimEnding inner ∧ (delimiters b lines)[k]? = some opening ∧
      (delimiters b lines)[k + 1]? = some ending := by
  obtain ⟨before, opening, inner, ending, after, hbetween, hsegment⟩ := exists_segment_between h hk
  refine ⟨before, opening, inner, ending, after, hbetween.lines_eq, hsegment, ?_, ?_⟩
  · rw [hbetween.delimiters_eq, ← hbetween.place]
    simp
  · rw [hbetween.delimiters_eq, ← hbetween.place]
    simp

end BatchExchange.Segment
