import BatchExchange.Proofs.Delimiter
import Mathlib.Data.List.Forall2

/-!
# Framed segments are found again

Only the content of a line decides whether it is a delimiter.  A body in which whole segments stand behind
delimiters, none of their lines a delimiter itself, is therefore cut into just these segments.

* `Segment.Avoids`: no line of some octets is a delimiter.
* `Segment.Avoids.crlf`: nor with a line end behind them.
* `Segment.frame`: segments behind delimiters, and the closing delimiter.
* `Segment.ofLines_frame`: cutting a frame gives its segments, each without its last line end.
* `Segment.join_trimEnding`: a body without the line end behind it is the body.
* `Segment.forall_mem_ofLines`, `Segment.exists_of_mem_ofLines`: segments are made of the lines that are cut.
-/

namespace BatchExchange

namespace Segment

open Line (raw split IsWhole IsOneLine)

/-! ### Lines that are no delimiters -/

/-- No line of `bytes` is a delimiter of `boundary`. -/
def Avoids (boundary : Text) (bytes : Bytes) : Prop :=
  ∀ l ∈ Line.readAll bytes, l.delimits boundary = false

instance (boundary : Text) (bytes : Bytes) : Decidable (Avoids boundary bytes) :=
  inferInstanceAs (Decidable (∀ l ∈ Line.readAll bytes, l.delimits boundary = false))

/-- Places do not matter for avoiding delimiters. -/
theorem Avoids.of_raw {b : Text} {bytes : Bytes} (h : Avoids b bytes) {l : Line}
    (hl : l.raw ∈ split bytes) : l.delimits b = false := by
  rw [← Line.map_raw_readAll, List.mem_map] at hl
  obtain ⟨m, hm, hml⟩ := hl
  have hc : m.content = l.content := congrArg Prod.fst hml
  rw [← Line.delimits_congr hc, h m hm]

theorem Avoids.of_map_raw {b : Text} {bytes : Bytes} (h : Avoids b bytes) {lines : List Line}
    (hl : lines.map raw = split bytes) : ∀ l ∈ lines, l.delimits b = false :=
  fun _ hm => h.of_raw (hl ▸ List.mem_map_of_mem hm)

theorem avoids_of_raw {b : Text} {bytes : Bytes}
    (h : ∀ l : Line, l.raw ∈ split bytes → l.delimits b = false) : Avoids b bytes := by
  intro l hl
  exact h l (by rw [← Line.map_raw_readAll]; exact List.mem_map_of_mem hl)

theorem avoids_nil (b : Text) : Avoids b [] := by
  intro _ hl
  cases hl

theorem Avoids.append {b : Text} {s t : Bytes} (hw : IsWhole s) (hs : Avoids b s)
    (ht : Avoids b t) : Avoids b (s ++ t) := by
  refine avoids_of_raw fun l hl => ?_
  rw [Line.split_append hw, List.mem_append] at hl
  exact hl.elim hs.of_raw ht.of_raw

/-- A written line is no delimiter if its content is that of none. -/
theorem avoids_writeLine_of_content {b t : Text} (hone : IsOneLine t)
    (h : ∀ l : Line, l.content = Utf8.encode t → l.delimits b = false) :
    Avoids b (Response.writeLine t) := by
  refine avoids_of_raw fun l hl => h l ?_
  have hsplit := Line.split_writeLine hone []
  rw [List.append_nil] at hsplit
  rw [hsplit, show split [] = [] from rfl, List.mem_singleton] at hl
  exact congrArg Prod.fst hl

theorem avoids_writeLine {b t : Text} (hone : IsOneLine t) (ht : after? "--".toList t = none) :
    Avoids b (Response.writeLine t) := by
  refine avoids_writeLine_of_content hone fun l hl => Line.delimits_eq_false_of_text ?_ b
  rw [Line.text, hl, Utf8.decode_encode, ht]

theorem avoids_writeLine_of_not_isPrefix {b t : Text} (hone : IsOneLine t)
    (ht : ¬Utf8.encode ("--".toList ++ b) <+: Utf8.encode t) : Avoids b (Response.writeLine t) := by
  refine avoids_writeLine_of_content hone fun l hl => ?_
  by_contra hd
  rw [Bool.not_eq_false] at hd
  exact ht (hl ▸ Line.isPrefix_of_delimits hd)

/-- **A line end behind a body makes no delimiter of it.** -/
theorem Avoids.crlf {b : Text} {bytes : Bytes} (h : Avoids b bytes) : Avoids b (bytes ++ Response.crlf) := by
  refine avoids_of_raw fun l hl => ?_
  have hcontent : l.content ∈ (split (bytes ++ Response.crlf)).map Prod.fst := List.mem_map_of_mem hl
  have hcase : l.content ∈ (split bytes).map Prod.fst ∨ l.content = [] := by
    rcases Line.contents_crlf bytes with heq | heq
    · rw [heq] at hcontent
      exact .inl hcontent
    · rw [heq, List.mem_append, List.mem_singleton] at hcontent
      exact hcontent
  rcases hcase with hmem | hnil
  · obtain ⟨p, hp, hpl⟩ := List.mem_map.1 hmem
    have hold : Line.delimits b ⟨p.1, p.2, 0⟩ = false := h.of_raw hp
    rwa [Line.delimits_congr hpl] at hold
  · refine Line.delimits_eq_false_of_text ?_ b
    rw [Line.text, hnil]
    rfl

theorem avoids_flatMap {α : Type} {b : Text} {f : α → Bytes} {l : List α}
    (hw : ∀ a ∈ l, IsWhole (f a)) (h : ∀ a ∈ l, Avoids b (f a)) :
    IsWhole (l.flatMap f) ∧ Avoids b (l.flatMap f) := by
  induction l with
  | nil => exact ⟨Line.isWhole_nil, avoids_nil b⟩
  | cons a l ih =>
    rw [List.forall_mem_cons] at hw h
    obtain ⟨ihw, ih⟩ := ih hw.2 h.2
    rw [List.flatMap_cons]
    exact ⟨hw.1.append ihw, h.1.append hw.1 ih⟩

/-! ### The line end in front of a delimiter -/

theorem trimEnding_concat (lines : List Line) (l : Line) :
    trimEnding (lines ++ [l]) = lines ++ [l.withoutEnding] := by
  induction lines with
  | nil => rfl
  | cons m lines ih =>
    cases lines with
    | nil => rfl
    | cons n lines =>
      show m :: trimEnding (n :: lines ++ [l]) = _
      rw [ih]
      rfl

theorem trimEnding_append {s t : List Line} (ht : t ≠ []) :
    trimEnding (s ++ t) = s ++ trimEnding t := by
  rcases List.eq_nil_or_concat' t with rfl | ⟨u, l, rfl⟩
  · exact absurd rfl ht
  rw [← List.append_assoc, trimEnding_concat, trimEnding_concat, List.append_assoc]

/-- **A body without the line end behind it is the body**, whatever line ends it has itself. -/
theorem join_trimEnding {lines : List Line} {bytes : Bytes}
    (h : lines.map raw = split (bytes ++ Response.crlf)) : Line.join (trimEnding lines) = bytes := by
  obtain ⟨content, hlast⟩ := Line.getLast?_split_crlf bytes
  rw [← h, List.getLast?_map, Option.map_eq_some_iff] at hlast
  obtain ⟨l, hl, hraw⟩ := hlast
  obtain ⟨init, rfl⟩ := List.getLast?_eq_some_iff.1 hl
  have hjoin := Line.join_of_map_raw h
  have hend : l.ending = .crlf := congrArg Prod.snd hraw
  rw [Line.join_append, Line.join_cons, Line.join_nil, Line.octets, hend, List.append_nil,
    ← List.append_assoc] at hjoin
  rw [trimEnding_concat, Line.join_append, ← List.append_cancel_right hjoin]
  simp [Line.octets, Line.withoutEnding]

theorem any_closes_trimEnding (b : Text) (lines : List Line) :
    (trimEnding lines).any (Line.closes b) = lines.any (Line.closes b) := by
  fun_induction trimEnding lines with
  | case1 => rfl
  | case2 l =>
    have hl : l.withoutEnding.closes b = l.closes b := Line.closes_congr rfl b
    rw [List.any_cons, hl, List.any_cons]
  | case3 l lines _ ih => rw [List.any_cons, ih, List.any_cons]

theorem untilClose_trimEnding {b : Text} {lines : List Line} (h : lines.any (Line.closes b)) :
    untilClose b (trimEnding lines) = untilClose b lines := by
  fun_induction trimEnding lines with
  | case1 => rfl
  | case2 l =>
    have hl : l.withoutEnding.closes b = l.closes b := Line.closes_congr rfl b
    have hcl : l.closes b := by simpa using h
    simp [untilClose, hl, hcl]
  | case3 l lines _ ih =>
    by_cases hcl : l.closes b
    · simp [untilClose, hcl]
    · have hrest : lines.any (Line.closes b) := by simpa [hcl] using h
      have ih := ih hrest
      simp only [untilClose] at ih
      simp [untilClose, hcl, ih]

/-- The line end behind a closing delimiter does not matter. -/
theorem ofLines_trimEnding {b : Text} {lines : List Line} (h : lines.any (Line.closes b))
    (context : Nat) : ofLines b context (trimEnding lines) = ofLines b context lines := by
  rw [ofLines, ofLines, if_pos h, if_pos (by rw [any_closes_trimEnding, h]),
    untilClose_trimEnding h]

/-! ### Frames -/

/-- Segments, each behind a delimiter, and the closing delimiter without a line end. -/
def frame (boundary : Text) (segments : List Bytes) : Bytes :=
  segments.flatMap (fun s => Response.writeDelimiter boundary ++ s)
    ++ Utf8.encode ("--".toList ++ boundary ++ "--".toList)

/-- Lines in front of segments, and these behind opening delimiters. -/
def framedLines (front : List Line) (framed : List (Line × List Line)) : List Line :=
  front ++ framed.flatMap fun p => p.1 :: p.2

section Framed

variable {b : Text} {front : List Line} {framed : List (Line × List Line)}
  (hfront : ∀ l ∈ front, l.delimits b = false) (hopen : ∀ p ∈ framed, p.1.opens b)
  (hfree : ∀ p ∈ framed, ∀ l ∈ p.2, l.delimits b = false)

include hfront hopen hfree

theorem closes_framedLines : ∀ l ∈ framedLines front framed, l.closes b = false := by
  intro l hl
  rcases List.mem_append.1 hl with hl | hl
  · exact Line.not_closes_of_delimits (hfront l hl)
  · obtain ⟨p, hp, hlp⟩ := List.mem_flatMap.1 hl
    rcases List.mem_cons.1 hlp with rfl | hlp
    · exact Line.closes_eq_false_of_opens (hopen p hp)
    · exact Line.not_closes_of_delimits (hfree p hp l hlp)

theorem splitOnP_framedLines :
    (framedLines front framed).splitOnP (Line.opens b) = front :: framed.map Prod.snd := by
  induction framed generalizing front with
  | nil =>
    have hf : ∀ l ∈ front, l.opens b = false := fun l hl => Line.not_opens_of_delimits (hfront l hl)
    rw [framedLines, List.flatMap_nil, List.append_nil, List.splitOnP_eq_singleton hf]
    rfl
  | cons p framed ih =>
    have hf : ∀ l ∈ front, l.opens b = false := fun l hl => Line.not_opens_of_delimits (hfront l hl)
    rw [List.forall_mem_cons] at hopen hfree
    have ih := ih hfree.1 hopen.2 hfree.2
    rw [framedLines] at ih
    rw [framedLines, List.flatMap_cons, List.cons_append,
      List.splitOnP_append_cons_of_forall_mem hf p.1 hopen.1, ih, List.map_cons]

/-- Lines that stand as segments behind opening delimiters, in front of a closing one. -/
theorem ofLines_framedLines {close : Line} (hclose : close.closes b) (after : List Line)
    (context : Nat) :
    ofLines b context (framedLines front framed ++ close :: after)
      = .ok (framed.map fun p => trimEnding p.2) := by
  have hany : (framedLines front framed ++ close :: after).any (Line.closes b) := by
    rw [List.any_eq_true]
    exact ⟨close, by simp, hclose⟩
  have huntil : untilClose b (framedLines front framed ++ close :: after)
      = framedLines front framed := by
    have hopenly := closes_framedLines hfront hopen hfree
    rw [untilClose, List.takeWhile_append_of_pos, List.takeWhile_cons, hclose]
    · simp
    · intro l hl
      rw [hopenly l hl]
      rfl
  rw [ofLines, if_pos hany, huntil, splitOnP_framedLines hfront hopen hfree, List.tail_cons,
    List.map_map]
  rfl

end Framed

theorem exists_framed {d : Bytes × Ending} {segments : List Bytes} {lines : List Line}
    (h : lines.map raw = segments.flatMap fun s => d :: split s) :
    ∃ framed : List (Line × List Line), lines = framed.flatMap (fun p => p.1 :: p.2) ∧
      List.Forall₂ (fun p s => p.1.raw = d ∧ p.2.map raw = split s) framed segments := by
  induction segments generalizing lines with
  | nil => exact ⟨[], List.map_eq_nil_iff.1 h, .nil⟩
  | cons s segments ih =>
    rw [List.flatMap_cons, List.map_eq_append_iff] at h
    obtain ⟨first, rest, rfl, hfirst, hrest⟩ := h
    obtain ⟨l, body, rfl, hl, hbody⟩ := List.map_eq_cons_iff.1 hfirst
    obtain ⟨framed, rfl, hframed⟩ := ih hrest
    exact ⟨(l, body) :: framed, rfl, .cons ⟨hl, hbody⟩ hframed⟩

theorem forall_framed {P : Line × List Line → Prop} {Q : Line × List Line → Bytes → Prop}
    {framed : List (Line × List Line)} {segments : List Bytes} (h : List.Forall₂ Q framed segments)
    (hP : ∀ p, ∀ s ∈ segments, Q p s → P p) : ∀ p ∈ framed, P p := by
  induction h with
  | nil => intro _ hp; cases hp
  | cons hq _ ih =>
    rw [List.forall_mem_cons]
    exact ⟨hP _ _ (by simp) hq, ih fun p s hs => hP p s (by simp [hs])⟩

theorem split_flatMap_writeDelimiter {b : Text} (hb : Boundary.isValid b) {segments : List Bytes}
    (hseg : ∀ s ∈ segments, IsWhole s) (rest : Bytes) :
    split (segments.flatMap (fun s => Response.writeDelimiter b ++ s) ++ rest)
      = (segments.flatMap fun s => (Utf8.encode ("--".toList ++ b), .crlf) :: split s) ++ split rest := by
  have hline : IsOneLine ("--".toList ++ b) :=
    IsOneLine.append (by decide) (Boundary.isOneLine hb)
  induction segments with
  | nil => rfl
  | cons s segments ih =>
    rw [List.forall_mem_cons] at hseg
    have ih := ih hseg.2
    simp only [Response.writeDelimiter] at *
    rw [List.flatMap_cons, List.append_assoc, List.append_assoc, Line.split_writeLine hline,
      Line.split_append hseg.1, ih, List.flatMap_cons]
    simp only [List.cons_append, List.append_assoc]

/-- A frame as lines: the closing delimiter is the last line that counts. -/
theorem split_frame {b : Text} (hb : Boundary.isValid b) {front tail : Bytes} {segments : List Bytes}
    (hfront : IsWhole front) (hseg : ∀ s ∈ segments, IsWhole s)
    (htail : ∀ o ∈ tail.head?, o = 10 ∨ o = 13) :
    ∃ ending after, split (front ++ frame b segments ++ tail)
      = split front ++ (segments.flatMap fun s => (Utf8.encode ("--".toList ++ b), .crlf) :: split s)
        ++ (Utf8.encode ("--".toList ++ b ++ "--".toList), ending) :: after := by
  have hline : IsOneLine ("--".toList ++ b ++ "--".toList) :=
    (IsOneLine.append (by decide) (Boundary.isOneLine hb)).append (by decide)
  have hne : Utf8.encode ("--".toList ++ b ++ "--".toList) ≠ [] := by simp [Utf8.encodeChar]
  rw [frame]
  obtain ⟨ending, after, hclose⟩ := Line.split_content hline.encode.1 hline.encode.2 hne htail
  refine ⟨ending, after, ?_⟩
  generalize Utf8.encode ("--".toList ++ b ++ "--".toList) = close at *
  rw [List.append_assoc, List.append_assoc, Line.split_append hfront,
    split_flatMap_writeDelimiter hb hseg, hclose, List.append_assoc]

/-- **A frame is cut into its segments**, whatever stands in front of it and behind it. -/
theorem ofLines_frame {b : Text} (hb : Boundary.isValid b) {front tail : Bytes}
    {segments : List Bytes} (hfront : IsWhole front) (hfree : Avoids b front)
    (hseg : ∀ s ∈ segments, IsWhole s ∧ Avoids b s) (htail : ∀ o ∈ tail.head?, o = 10 ∨ o = 13)
    {lines : List Line} (hl : lines.map raw = split (front ++ frame b segments ++ tail))
    (context : Nat) :
    lines.any (Line.closes b) ∧ ∃ framed : List (List Line),
      ofLines b context lines = .ok (framed.map trimEnding) ∧
      List.Forall₂ (fun ls s => ls.map raw = split s) framed segments := by
  obtain ⟨ending, after, hsplit⟩ :=
    split_frame hb hfront (fun s hs => (hseg s hs).1) htail
  rw [hsplit, List.map_eq_append_iff] at hl
  obtain ⟨inner, outer, rfl, hinner, houter⟩ := hl
  obtain ⟨close, rest, rfl, hclose, -⟩ := List.map_eq_cons_iff.1 houter
  obtain ⟨first, behind, rfl, hfirst, hbehind⟩ := List.map_eq_append_iff.1 hinner
  obtain ⟨framed, rfl, hframed⟩ := exists_framed hbehind
  have hcl : close.closes b := Line.closes_of_content (congrArg Prod.fst hclose)
  refine ⟨by rw [List.any_eq_true]; exact ⟨close, by simp, hcl⟩, framed.map Prod.snd, ?_, ?_⟩
  · have hopen : ∀ p ∈ framed, p.1.opens b :=
      forall_framed hframed fun p s _ hp => Line.opens_of_content hb (congrArg Prod.fst hp.1)
    have hbody : ∀ p ∈ framed, ∀ l ∈ p.2, l.delimits b = false :=
      forall_framed hframed fun p s hs hp => (hseg s hs).2.of_map_raw hp.2
    rw [List.map_map]
    exact ofLines_framedLines (hfree.of_map_raw hfirst) hopen hbody hcl rest context
  · rw [List.forall₂_map_left_iff]
    exact hframed.imp fun _ _ hp => hp.2

/-! ### What segments are made of -/

theorem mem_of_mem_splitOnP {α : Type} {p : α → Bool} {l piece : List α} (hp : piece ∈ l.splitOnP p)
    {a : α} (ha : a ∈ piece) : a ∈ l := by
  induction l generalizing piece with
  | nil =>
    rw [List.splitOnP_nil, List.mem_singleton] at hp
    rwa [hp] at ha
  | cons b l ih =>
    rw [List.splitOnP_cons_eq_if_modifyHead] at hp
    split at hp
    · rcases List.mem_cons.1 hp with rfl | hp
      · cases ha
      · exact List.mem_cons_of_mem b (ih hp ha)
    · obtain ⟨first, rest, hsplit⟩ := List.exists_cons_of_ne_nil (List.splitOnP_ne_nil p l)
      rw [hsplit, List.modifyHead_cons] at hp
      rcases List.mem_cons.1 hp with rfl | hp
      · rcases List.mem_cons.1 ha with rfl | ha
        · exact List.mem_cons_self
        · exact List.mem_cons_of_mem b (ih (by rw [hsplit]; exact List.mem_cons_self) ha)
      · exact List.mem_cons_of_mem b (ih (by rw [hsplit]; exact List.mem_cons_of_mem _ hp) ha)

/-- What holds of all lines holds still when the last one has lost its ending. -/
theorem forall_mem_trimEnding {P : Line → Prop} (hP : ∀ l, P l → P l.withoutEnding) {lines : List Line}
    (h : ∀ l ∈ lines, P l) : ∀ l ∈ trimEnding lines, P l := by
  fun_induction trimEnding lines with
  | case1 => exact h
  | case2 m => exact List.forall_mem_singleton.2 (hP m (h m List.mem_cons_self))
  | case3 m lines _ ih =>
    rw [List.forall_mem_cons] at h ⊢
    exact ⟨h.1, ih h.2⟩

theorem exists_of_mem_trimEnding {lines : List Line} {l : Line} (hl : l ∈ trimEnding lines) :
    ∃ m ∈ lines, l.content = m.content ∧ l.number = m.number :=
  forall_mem_trimEnding (P := fun l => ∃ m ∈ lines, l.content = m.content ∧ l.number = m.number) (fun _ h => h)
    (fun l hl => ⟨l, hl, rfl, rfl⟩) l hl

theorem eq_of_ofLines {b : Text} {context : Nat} {lines : List Line} {segments : List (List Line)}
    (h : ofLines b context lines = .ok segments) :
    segments = ((untilClose b lines).splitOnP (Line.opens b)).tail.map trimEnding := by
  rw [ofLines] at h
  split_ifs at h
  · exact (Except.ok.inj h).symm
  · cases h
  · cases h

/-- **What holds of all lines that are cut holds of the lines of each segment.** -/
theorem forall_mem_ofLines {P : Line → Prop} (hP : ∀ l, P l → P l.withoutEnding) {b : Text} {context : Nat}
    {lines : List Line} {segments : List (List Line)} (hlines : ∀ l ∈ lines, P l)
    (h : ofLines b context lines = .ok segments) : ∀ segment ∈ segments, ∀ l ∈ segment, P l := by
  intro segment hs
  rw [eq_of_ofLines h] at hs
  obtain ⟨piece, hpiece, rfl⟩ := List.mem_map.1 hs
  refine forall_mem_trimEnding hP fun m hm => hlines m ?_
  exact List.takeWhile_subset _ (mem_of_mem_splitOnP (List.mem_of_mem_tail hpiece) hm)

/-- A segment is made of the lines that are cut. -/
theorem exists_of_mem_ofLines {b : Text} {context : Nat} {lines : List Line}
    {segments : List (List Line)} (h : ofLines b context lines = .ok segments) {segment : List Line}
    (hs : segment ∈ segments) {l : Line} (hl : l ∈ segment) :
    ∃ m ∈ lines, l.content = m.content ∧ l.number = m.number :=
  forall_mem_ofLines (P := fun l => ∃ m ∈ lines, l.content = m.content ∧ l.number = m.number) (fun _ h => h)
    (fun l hl => ⟨l, hl, rfl, rfl⟩) h segment hs l hl

end Segment

end BatchExchange
