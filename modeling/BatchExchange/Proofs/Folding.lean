import BatchExchange.Proofs.Continuation
import BatchExchange.Proofs.HeaderBlock

/-!
# Folded header lines

A header line may be continued on lines that begin with white space.  Unfolding a block writes each header line
and its continuations as one line.  What is read from the unfolded block has the same names in the same order,
but not always the same values: a continuation extends the last field of the block, and the header line in
front of it may have been merged into another one.  Besides this, only white space that stands where lines are
joined makes a difference (`read_unfolded_iff`).

* `entries`: the header lines of a block with their continuations, `unfolded`: each of them in one line.
* `readFrom_entries`, `readFrom_unfolded`: both readings as folds over the entries.
* `GoesAstray`: some continued header line repeats a name behind which another one came first.
* `Entry.extend_eq`, `Entry.diverge_of_overtaken`: what a continued entry does that does not go astray, or does.
* `Diverge.step`, `foldl_extend_add`: both readings agree, or diverge for good.
-/

namespace BatchExchange

namespace HeaderBlock

open BatchExchange.Field (continued spaced)

/-! ### Header lines and their continuations -/

/-- A header line and the lines that continue it. -/
structure Entry where
  head : Line
  more : List Line

/-- What a block consists of: continuations in front, header lines with those behind them, and the rest from
the blank line on. -/
def entries : List Line → List Line × List Entry × List Line
  | [] => ([], [], [])
  | l :: lines =>
    if l.isBlank then ([], [], l :: lines)
    else
      let (more, es, rest) := entries lines
      if isContinuation l.text then (l :: more, es, rest) else ([], ⟨l, more⟩ :: es, rest)

namespace Entry

/-- The text of the header line before its colon and behind it. -/
def cut (e : Entry) : Text × Text := (cut? ':' e.head.text).getD ([], [])

def name (e : Entry) : Text := e.cut.1

/-- What names have in common that are the same up to case. -/
def key (e : Entry) : Text := e.name.foldCase

/-- The value in the header line, as it stands there. -/
def value (e : Entry) : Text := e.cut.2

/-- The continuations, trimmed. -/
def continuations (e : Entry) : List Text := e.more.map fun l => Text.trim l.text

/-- The header line with its continuations in one line, a space in front of each. -/
def line (e : Entry) : Line :=
  { e.head with content := e.head.content ++ e.continuations.flatMap fun t => 32 :: Utf8.encode t }

/-- What reading the lines of an entry makes of a block. -/
def extend (e : Entry) (h : Headers) : Headers :=
  e.continuations.foldl Headers.extendLast (h.add e.name (Text.trim e.value) e.head.number)

/-- What reading the entry in one line makes of a block. -/
def add (e : Entry) (h : Headers) : Headers :=
  h.add e.name (Text.trim (e.value ++ spaced e.continuations)) e.head.number

/-- The header line is one. -/
structure IsAccepted (e : Entry) : Prop where
  filled : e.head.isBlank = false
  hyphens : after? "--".toList e.head.text = none
  begins : isContinuation e.head.text = false
  cut : cut? ':' e.head.text = some (e.name, e.value)
  isName : HeaderBlock.isName e.name

/-- The lines that continue the header line, if there are any, are not all white space. -/
def IsFilled (e : Entry) : Prop := e.more ≠ [] → ∃ t ∈ e.continuations, t ≠ []

/-- No white space stands where the lines are joined, or behind them. -/
structure IsTidy (e : Entry) : Prop where
  value : e.more ≠ [] → Text.trim e.value = [] ∨ Text.trimEnd e.value = e.value
  last : ∀ t ∈ e.continuations.getLast?, t ≠ []

end Entry

/-- The block with each header line and its continuations in one line. -/
def unfolded (lines : List Line) : List Line :=
  let (more, es, rest) := entries lines
  more ++ es.map Entry.line ++ rest

/-! ### Both readings -/

theorem field?_eq_some_iff {t name value : Text} :
    field? t = some (name, value) ↔ ∃ v, cut? ':' t = some (name, v) ∧ isName name ∧ value = Text.trim v := by
  unfold field?
  rw [Option.map_eq_some_iff]
  constructor
  · rintro ⟨⟨n, v⟩, hv, heq⟩
    rw [Option.filter_eq_some_iff] at hv
    cases heq
    exact ⟨v, hv.1, hv.2, rfl⟩
  · rintro ⟨v, hcut, hname, rfl⟩
    exact ⟨(name, v), Option.filter_eq_some_iff.2 ⟨hcut, hname⟩, rfl⟩

/-- **Reading a block** adds its entries one after the other, and nothing continues a block without fields. -/
theorem readFrom_entries {lines : List Line} {h h' : Headers} {last : Nat} {rest : List Line}
    (hread : readFrom true h last lines = .ok (h', rest)) {more : List Line} {es : List Entry}
    {tail : List Line} (hentries : entries lines = (more, es, tail)) :
    (h.fields = [] → more = []) ∧ (∀ e ∈ es, e.IsAccepted) ∧
      (∃ blank : Line, blank.isBlank ∧ tail = blank :: rest) ∧
      h' = es.foldl (fun h e => e.extend h)
        ((more.map fun l => Text.trim l.text).foldl Headers.extendLast h) := by
  induction lines generalizing h last more es with
  | nil => cases hread
  | cons l lines ih =>
    rw [readFrom] at hread
    rw [entries] at hentries
    by_cases hblank : l.isBlank
    · rw [if_pos hblank] at hread hentries
      cases hread
      cases hentries
      exact ⟨fun _ => rfl, List.forall_mem_nil _, ⟨l, hblank, rfl⟩, rfl⟩
    · rw [if_neg hblank] at hread hentries
      split at hread
      · cases hread
      · rename_i hhyphens
        rcases hrec : entries lines with ⟨more', es', tail'⟩
        rw [hrec] at hentries
        dsimp only at hentries
        obtain rfl : tail' = tail := by
          split at hentries <;> cases hentries <;> rfl
        cases hadd : addLine? h l with
        | none =>
          rw [hadd] at hread
          cases hread
        | some h₁ =>
          rw [hadd] at hread
          obtain ⟨-, haccepted, htail, hh'⟩ := ih hread hrec
          rw [addLine?] at hadd
          by_cases hcontinues : isContinuation l.text
          · rw [if_pos hcontinues] at hadd hentries
            split at hadd
            · cases hadd
            · rename_i hne
              cases hadd
              cases hentries
              exact ⟨fun hnil => absurd hnil hne, haccepted, htail, hh'⟩
          · rw [if_neg hcontinues] at hadd hentries
            cases hentries
            obtain ⟨⟨name, value⟩, hfield, hadded⟩ := Option.map_eq_some_iff.1 hadd
            obtain ⟨v, hcut, hname, rfl⟩ := field?_eq_some_iff.1 hfield
            have hentry : Entry.cut ⟨l, more'⟩ = (name, v) := by rw [Entry.cut, hcut]; rfl
            refine ⟨fun _ => rfl, List.forall_mem_cons.2 ⟨?_, haccepted⟩, htail, ?_⟩
            · refine ⟨Bool.eq_false_iff.2 hblank, ?_, Bool.eq_false_iff.2 hcontinues, ?_, ?_⟩
              · exact Option.not_isSome_iff_eq_none.1 hhyphens
              · rw [Entry.name, Entry.value, hentry]
                exact hcut
              · rw [Entry.name, hentry]
                exact hname
            · rw [hh', ← hadded, List.foldl_cons, Entry.extend, Entry.name, Entry.value, hentry]
              rfl

namespace Entry

theorem text_line (e : Entry) : e.line.text = e.head.text ++ spaced e.continuations := by
  show Utf8.decode (e.head.content ++ e.continuations.flatMap fun t => 32 :: Utf8.encode t)
    = Utf8.decode e.head.content ++ _
  generalize e.head.content = content
  induction e.continuations generalizing content with
  | nil => simp [spaced]
  | cons t ts ih =>
    have hnext := ih (content ++ 32 :: Utf8.encode t)
    rw [List.append_assoc, Utf8.decode_append_space, Utf8.decode_encode] at hnext
    rw [List.flatMap_cons, hnext, Field.spaced_cons, List.append_assoc, List.cons_append]

/-- Reading goes on behind an entry in one line. -/
theorem readFrom_line {e : Entry} (he : e.IsAccepted) (strict : Bool) (h : Headers) (last : Nat)
    (lines : List Line) :
    readFrom strict h last (e.line :: lines) = readFrom strict (e.add h) e.head.number lines := by
  obtain ⟨hsplit, hcolon⟩ := cut?_eq_some_iff.1 he.cut
  obtain ⟨c, t, hname⟩ := exists_eq_cons he.isName
  have hblank : e.line.isBlank = false := by
    have hfilled := he.filled
    rw [Line.isBlank] at hfilled
    rw [Line.isBlank]
    show (e.head.content ++ _).all Line.isSpace = false
    rw [List.all_append, hfilled, Bool.false_and]
  have hhyphens : after? "--".toList e.line.text = none := by
    rw [text_line]
    apply after?_append_eq_none he.hyphens
    rw [hsplit, hname, List.length_append, List.length_cons, List.length_cons]
    show 2 ≤ _
    omega
  have hbegins : isContinuation e.line.text = false := by
    have hb := he.begins
    rw [hsplit, hname] at hb
    rw [text_line, hsplit, hname]
    exact hb
  have hfield : field? e.line.text = some (e.name, Text.trim (e.value ++ spaced e.continuations)) := by
    refine field?_eq_some_iff.2 ⟨e.value ++ spaced e.continuations, ?_, he.isName, rfl⟩
    rw [cut?_eq_some_iff, text_line, hsplit]
    exact ⟨by simp, hcolon⟩
  have hadd : addLine? h e.line = some (e.add h) := by
    rw [addLine?, hbegins, hfield]
    rfl
  rw [readFrom, hblank, hhyphens, hadd]
  rfl

end Entry

/-- **Reading an unfolded block** adds its entries one after the other, each in one line. -/
theorem readFrom_unfolded {es : List Entry} (hes : ∀ e ∈ es, e.IsAccepted) {blank : Line}
    (hblank : blank.isBlank) (strict : Bool) (h : Headers) (last : Nat) (rest : List Line) :
    readFrom strict h last (es.map Entry.line ++ blank :: rest)
      = .ok (es.foldl (fun h e => e.add h) h, rest) := by
  induction es generalizing h last with
  | nil => rw [List.map_nil, List.nil_append, readFrom, if_pos hblank, List.foldl_nil]
  | cons e es ih =>
    rw [List.forall_mem_cons] at hes
    rw [List.map_cons, List.cons_append, Entry.readFrom_line hes.1, ih hes.2, List.foldl_cons]

theorem firstNumber_unfolded (context : Nat) (lines : List Line) :
    Line.firstNumber context (unfolded lines) = Line.firstNumber context lines := by
  cases lines with
  | nil => rfl
  | cons l lines =>
    rw [unfolded, entries]
    by_cases hblank : l.isBlank
    · rw [if_pos hblank]
      rfl
    · rw [if_neg hblank]
      dsimp only
      by_cases hcontinues : isContinuation l.text
      · rw [if_pos hcontinues]
        rfl
      · rw [if_neg hcontinues]
        rfl

/-! ### Names -/

theorem names_extend (e : Entry) (h : Headers) :
    (e.extend h).fields.map Field.name = (e.add h).fields.map Field.name := by
  have hmore : ∀ (ts : List Text) (h : Headers),
      (ts.foldl Headers.extendLast h).fields.map Field.name = h.fields.map Field.name := by
    intro ts
    induction ts with
    | nil => exact fun _ => rfl
    | cons t ts ih => exact fun h => (ih _).trans (Headers.names_extendLast h t)
  rw [Entry.extend, hmore, Entry.add, Headers.names_add, Headers.names_add]

/-- Names come into a block the same way, however its entries are read. -/
theorem names_foldl (es : List Entry) (h : Headers) :
    (es.foldl (fun h e => e.add h) h).fields.map Field.name
      = (es.foldl (fun h e => e.extend h) h).fields.map Field.name := by
  induction es using List.reverseRecOn with
  | nil => rfl
  | append_singleton es e ih =>
    rw [List.foldl_append, List.foldl_append, List.foldl_cons, List.foldl_cons, List.foldl_nil,
      List.foldl_nil, names_extend, Entry.add, Entry.add, Headers.names_add, Headers.names_add,
      Headers.keys_eq_names, Headers.keys_eq_names, ih]

/-- Behind a header line of this name, the first one of another name came. -/
def Overtaken (es : List Entry) (key : Text) : Prop :=
  ∃ before e after, es = before ++ e :: after ∧
    key ∈ before.map Entry.key ∧ e.key ∉ before.map Entry.key

/-- Some header line is continued though another name came behind the first line of its own. -/
def GoesAstray (es : List Entry) : Prop :=
  ∃ before e after, es = before ++ e :: after ∧ e.more ≠ [] ∧ Overtaken before e.key

/-- What holds at some place of a list with one more member holds before that member or at it. -/
theorem exists_split_concat_iff {α : Type} {P : List α → α → Prop} {l : List α} {a : α} :
    (∃ before b after, l ++ [a] = before ++ b :: after ∧ P before b)
      ↔ (∃ before b after, l = before ++ b :: after ∧ P before b) ∨ P l a := by
  constructor
  · rintro ⟨before, b, after, heq, hP⟩
    induction after using List.reverseRecOn with
    | nil =>
      obtain ⟨rfl, hlast⟩ := List.append_inj' heq rfl
      cases hlast
      exact .inr hP
    | append_singleton after c =>
      rw [← List.cons_append, ← List.append_assoc] at heq
      obtain ⟨rfl, -⟩ := List.append_inj' heq rfl
      exact .inl ⟨before, b, after, rfl, hP⟩
  · rintro (⟨before, b, after, rfl, hP⟩ | hP)
    · exact ⟨before, b, after ++ [a], by simp, hP⟩
    · exact ⟨l, a, [], rfl, hP⟩

theorem overtaken_concat_iff {es : List Entry} {e : Entry} {key : Text} :
    Overtaken (es ++ [e]) key
      ↔ Overtaken es key ∨ key ∈ es.map Entry.key ∧ e.key ∉ es.map Entry.key :=
  exists_split_concat_iff
    (P := fun (before : List Entry) (e : Entry) =>
      key ∈ before.map Entry.key ∧ e.key ∉ before.map Entry.key)

theorem goesAstray_concat_iff {es : List Entry} {e : Entry} :
    GoesAstray (es ++ [e]) ↔ GoesAstray es ∨ e.more ≠ [] ∧ Overtaken es e.key :=
  exists_split_concat_iff
    (P := fun (before : List Entry) (e : Entry) => e.more ≠ [] ∧ Overtaken before e.key)

section FromNothing

variable {start : Headers} (hstart : start.fields = [])

include hstart

theorem mem_keys_foldl_iff {es : List Entry} {key : Text} :
    key ∈ (es.foldl (fun h e => e.add h) start).keys ↔ key ∈ es.map Entry.key := by
  induction es using List.reverseRecOn with
  | nil => simp [Headers.keys, hstart]
  | append_singleton es e ih =>
    rw [List.foldl_append, List.foldl_cons, List.foldl_nil, Entry.add, Headers.mem_keys_add_iff, ih,
      List.map_append, List.mem_append, List.map_singleton, List.mem_singleton]
    rfl

/-- **A name is overtaken** when the block has it and it does not stand last. -/
theorem overtaken_iff {es : List Entry} {key : Text} :
    Overtaken es key ↔ key ∈ (es.foldl (fun h e => e.add h) start).keys ∧
      (es.foldl (fun h e => e.add h) start).keys.getLast? ≠ some key := by
  induction es using List.reverseRecOn with
  | nil =>
    constructor
    · rintro ⟨before, e, after, heq, -⟩
      simp at heq
    · rintro ⟨hkey, -⟩
      rw [mem_keys_foldl_iff hstart] at hkey
      cases hkey
  | append_singleton es e ih =>
    have hmem : ∀ k, k ∈ (es.foldl (fun h e => e.add h) start).keys ↔ k ∈ es.map Entry.key :=
      fun k => mem_keys_foldl_iff hstart
    rw [overtaken_concat_iff, ih, List.foldl_append, List.foldl_cons, List.foldl_nil, Entry.add,
      Headers.keys_add, ← hmem, ← hmem]
    generalize (es.foldl (fun h e => e.add h) start).keys = keys
    by_cases hold : e.name.foldCase ∈ keys
    · rw [if_pos hold]
      exact ⟨fun h => h.resolve_right fun h => h.2 hold, .inl⟩
    · rw [if_neg hold, List.mem_append, List.mem_singleton, List.getLast?_concat]
      constructor
      · rintro (⟨hkey, -⟩ | ⟨hkey, -⟩)
        all_goals
          refine ⟨.inl hkey, ?_⟩
          intro heq
          cases heq
          exact hold hkey
      · rintro ⟨hkey | rfl, hne⟩
        · exact .inr ⟨hkey, hold⟩
        · exact absurd rfl hne

end FromNothing

/-! ### Values -/

theorem trim_of_mem_continuations {e : Entry} : ∀ t ∈ e.continuations, Text.trim t = t := by
  intro t ht
  obtain ⟨l, -, rfl⟩ := List.mem_map.1 ht
  exact Text.trim_trim _

theorem continuations_eq_nil_iff {e : Entry} : e.continuations = [] ↔ e.more = [] := List.map_eq_nil_iff

/-- **A tidy entry** is one whose value reads the same in one line. -/
theorem Entry.isTidy_iff {e : Entry} (hfilled : e.IsFilled) : e.IsTidy ↔
    Text.trim (e.value ++ spaced e.continuations) = e.continuations.foldl continued (Text.trim e.value) := by
  by_cases hmore : e.more = []
  · have hnil : e.continuations = [] := continuations_eq_nil_iff.2 hmore
    rw [hnil, spaced, List.flatMap_nil, List.append_nil]
    refine ⟨fun _ => rfl, fun _ => ⟨fun h => absurd hmore h, ?_⟩⟩
    rw [hnil]
    exact fun t ht => absurd ht (by simp)
  · rw [Field.trim_append_spaced_iff trim_of_mem_continuations (hfilled hmore)]
    exact ⟨fun h => ⟨h.value hmore, h.last⟩, fun h => ⟨fun _ => h.1, h.2⟩⟩

/-- **A continuation behind a name that is new or last** extends the value of its header line. -/
theorem Entry.extend_eq {e : Entry} {h : Headers}
    (hlast : e.more ≠ [] → e.key ∈ h.keys → h.keys.getLast? = some e.key) :
    e.extend h = h.add e.name (e.continuations.foldl continued (Text.trim e.value)) e.head.number := by
  by_cases hmore : e.more = []
  · rw [extend, continuations_eq_nil_iff.2 hmore, List.foldl_nil, List.foldl_nil]
  · rw [extend]
    generalize Text.trim e.value = v
    induction e.continuations generalizing v with
    | nil => rfl
    | cons t ts ih => rw [List.foldl_cons, Headers.extendLast_add (hlast hmore), ih, List.foldl_cons]

/-- Two blocks that have different values at some place, which continuations do not reach any more or at least
do not make equal. -/
def Diverge (h h' : Headers) : Prop :=
  ∃ i k v v', h.valueAt? i k = some v ∧ h'.valueAt? i k = some v' ∧
    (i + 1 < h.fields.length ∧ v ≠ v' ∨ Field.Missed v v')

theorem Diverge.values_ne {h h' : Headers} (hd : Diverge h h') :
    h.fields.map Field.values ≠ h'.fields.map Field.values := by
  obtain ⟨i, k, v, v', hv, hv', hdiffer⟩ := hd
  have hne : v ≠ v' := by
    rcases hdiffer with ⟨-, hne⟩ | hmissed
    · exact hne
    · exact hmissed.ne
  intro heq
  rw [Headers.valueAt?_eq_values] at hv hv'
  rw [heq, hv'] at hv
  exact hne (Option.some.inj hv).symm

/-- What the unfolded block misses it still misses when the other one is continued. -/
theorem missed_foldl_extendLast {ts : List Text} (htrim : ∀ t ∈ ts, Text.trim t = t) {h : Headers} {i k : Nat}
    {v right : Text} (hv : h.valueAt? i k = some v) (hmissed : Field.Missed v right) :
    ∃ w, (ts.foldl Headers.extendLast h).valueAt? i k = some w ∧ Field.Missed w right := by
  induction ts generalizing h v with
  | nil => exact ⟨v, hv, hmissed⟩
  | cons t ts ih =>
    rw [List.forall_mem_cons] at htrim
    rcases Headers.valueAt?_extendLast_cases hv t with hsame | hcontinued
    · exact ih htrim.2 hsame hmissed
    · exact ih htrim.2 hcontinued (hmissed.continued htrim.1)

/-- **What diverges stays so**, whatever entries follow. -/
theorem Diverge.step {h h' : Headers} (hd : Diverge h h') (e : Entry) :
    Diverge (e.extend h) (e.add h') := by
  obtain ⟨i, k, v, v', hv, hv', hdiffer⟩ := hd
  have hadded := Headers.valueAt?_add hv e.name (Text.trim e.value) e.head.number
  have hadded' := Headers.valueAt?_add hv' e.name (Text.trim (e.value ++ spaced e.continuations)) e.head.number
  rcases hdiffer with ⟨hi, hne⟩ | hmissed
  · have hlength := h.length_add_ge e.name (Text.trim e.value) e.head.number
    obtain ⟨hi', hextended⟩ :=
      Headers.foldl_extendLast e.continuations (Nat.lt_of_lt_of_le hi hlength) hadded
    exact ⟨i, k, v, v', hextended, hadded', .inl ⟨hi', hne⟩⟩
  · obtain ⟨w, hextended, hmissed⟩ := missed_foldl_extendLast trim_of_mem_continuations hadded hmissed
    exact ⟨i, k, w, v', hextended, hadded', .inr hmissed⟩

/-- **A continuation behind a name that is overtaken** goes astray: the value of its header line stays as it is. -/
theorem Entry.diverge_of_overtaken {e : Entry} (hfilled : e.IsFilled) (hmore : e.more ≠ []) {h : Headers}
    (hkey : e.key ∈ h.keys) (hlast : h.keys.getLast? ≠ some e.key) : Diverge (e.extend h) (e.add h) := by
  obtain ⟨i, k, hadded, hplace⟩ := h.exists_valueAt?_add e.name
  have hlength := h.length_add_ge e.name (Text.trim e.value) e.head.number
  obtain ⟨hi, hextended⟩ := Headers.foldl_extendLast e.continuations
    (Nat.lt_of_lt_of_le (hplace hkey hlast) hlength) (hadded (Text.trim e.value) e.head.number)
  refine ⟨i, k, _, _, hextended, hadded _ _, .inl ⟨hi, fun heq => ?_⟩⟩
  have hweight := congrArg Text.weight heq
  rw [Text.weight_trim, Text.weight_trim, Text.weight_append] at hweight
  have hspaced := Field.weight_spaced_ne_zero trim_of_mem_continuations (hfilled hmore)
  omega

/-- An entry that is not tidy has the same in its value but for white space. -/
theorem Entry.diverge_of_not_isTidy {e : Entry} (hfilled : e.IsFilled) (huntidy : ¬e.IsTidy) {h : Headers}
    (hlast : e.more ≠ [] → e.key ∈ h.keys → h.keys.getLast? = some e.key) :
    Diverge (e.extend h) (e.add h) := by
  obtain ⟨i, k, hadded, -⟩ := h.exists_valueAt?_add e.name
  rw [extend_eq hlast]
  refine ⟨i, k, _, _, hadded _ _, hadded _ _, .inr ⟨?_, Text.trim_trim _, ?_⟩⟩
  · intro heq
    exact huntidy ((isTidy_iff hfilled).2 heq.symm)
  · rw [Text.weight_trim, Text.weight_append, Field.weight_foldl_continued, Text.weight_trim]

/-- **Both readings agree as long as the entries are tidy and no continuation goes astray**, and never again
behind the first that is not or does. -/
theorem foldl_extend_add {start : Headers} (hstart : start.fields = []) {es : List Entry}
    (hfilled : ∀ e ∈ es, e.IsFilled) :
    ((∀ e ∈ es, e.IsTidy) ∧ ¬GoesAstray es →
        es.foldl (fun h e => e.extend h) start = es.foldl (fun h e => e.add h) start) ∧
      (¬((∀ e ∈ es, e.IsTidy) ∧ ¬GoesAstray es) →
        Diverge (es.foldl (fun h e => e.extend h) start) (es.foldl (fun h e => e.add h) start)) := by
  induction es using List.reverseRecOn with
  | nil =>
    refine ⟨fun _ => rfl, fun h => absurd ⟨List.forall_mem_nil _, ?_⟩ h⟩
    rintro ⟨before, e, after, heq, -⟩
    simp at heq
  | append_singleton es e ih =>
    obtain ⟨hagree, hdiverge⟩ := ih fun e he => hfilled e (List.mem_append_left _ he)
    have he : e.IsFilled := hfilled e (by simp)
    rw [goesAstray_concat_iff, List.forall_mem_append, List.forall_mem_singleton, List.foldl_append,
      List.foldl_append, List.foldl_cons, List.foldl_cons, List.foldl_nil, List.foldl_nil]
    by_cases halike : (∀ e ∈ es, e.IsTidy) ∧ ¬GoesAstray es
    · rw [hagree halike]
      by_cases hovertaken : e.more ≠ [] ∧ Overtaken es e.key
      · refine ⟨fun h => absurd (.inr hovertaken) h.2, fun _ => ?_⟩
        obtain ⟨hkey, hlast⟩ := (overtaken_iff hstart).1 hovertaken.2
        exact Entry.diverge_of_overtaken he hovertaken.1 hkey hlast
      · have hlast : e.more ≠ [] → e.key ∈ (es.foldl (fun h e => e.add h) start).keys →
            (es.foldl (fun h e => e.add h) start).keys.getLast? = some e.key := by
          intro hmore hkey
          by_contra hlast
          exact hovertaken ⟨hmore, (overtaken_iff hstart).2 ⟨hkey, hlast⟩⟩
        constructor
        · rintro ⟨⟨-, htidy⟩, -⟩
          rw [Entry.extend_eq hlast, Entry.add, (Entry.isTidy_iff he).1 htidy]
        · intro hnot
          refine Entry.diverge_of_not_isTidy he (fun htidy => hnot ⟨⟨halike.1, htidy⟩, ?_⟩) hlast
          exact fun h => h.elim halike.2 hovertaken
    · refine ⟨fun h => absurd ⟨h.1.1, fun hastray => h.2 (.inl hastray)⟩ halike, fun _ => ?_⟩
      exact (hdiverge halike).step e

/-- **Folded header lines**: the unfolded block is read too, with the same names in the same order and the same
lines behind it.  It has the same values just when no white space stands where lines are joined and no
continuation goes astray; this is for blocks in which no header line is continued with white space alone. -/
theorem read_unfolded_iff {context : Nat} {lines : List Line} {h : Headers} {rest : List Line}
    (hread : read true context lines = .ok (h, rest)) :
    ∃ h', read true context (unfolded lines) = .ok (h', rest) ∧
      h'.fields.map Field.name = h.fields.map Field.name ∧
      ((∀ e ∈ (entries lines).2.1, e.IsFilled) →
        (h'.fields.map Field.values = h.fields.map Field.values
          ↔ (∀ e ∈ (entries lines).2.1, e.IsTidy) ∧ ¬GoesAstray (entries lines).2.1)) := by
  rcases hentries : entries lines with ⟨more, es, tail⟩
  obtain ⟨hmore, haccepted, ⟨blank, hblank, rfl⟩, rfl⟩ := readFrom_entries hread hentries
  have hlines : unfolded lines = es.map Entry.line ++ blank :: rest := by
    rw [unfolded, hentries, hmore rfl]
    rfl
  rw [hmore rfl, List.map_nil, List.foldl_nil]
  have hstart : (Headers.atLine (Line.firstNumber context lines)).fields = [] := rfl
  refine ⟨es.foldl (fun h e => e.add h) (.atLine (Line.firstNumber context lines)), ?_, ?_, ?_⟩
  · rw [read, firstNumber_unfolded, hlines, readFrom_unfolded haccepted hblank]
  · exact names_foldl es _
  · intro hfilled
    obtain ⟨hagree, hdiverge⟩ := foldl_extend_add hstart hfilled
    constructor
    · intro heq
      by_contra hnot
      exact (hdiverge hnot).values_ne heq.symm
    · intro h
      rw [hagree h]

/-- A name that is repeated behind another one, and continued there. -/
theorem read_unfolded_iff_repeated :
    let lines := Line.readAll (Utf8.encode "A: 1\r\nB: 2\r\na: 3\r\n x\r\n\r\n".toList)
    let h : Headers := {
      fields := [⟨"A".toList, "1".toList, ["3".toList], 1⟩, ⟨"B".toList, "2 x".toList, [], 2⟩]
      line := 1
      distinct := by decide }
    read true 1 lines = .ok (h, []) ∧
      ∃ h', read true 1 (unfolded lines) = .ok (h', []) ∧
        h'.fields.map Field.name = h.fields.map Field.name ∧
        ((∀ e ∈ (entries lines).2.1, e.IsFilled) →
          (h'.fields.map Field.values = h.fields.map Field.values
            ↔ (∀ e ∈ (entries lines).2.1, e.IsTidy) ∧ ¬GoesAstray (entries lines).2.1)) := by
  intro lines h
  have hread : read true 1 lines = .ok (h, []) := by decide +kernel
  exact ⟨hread, read_unfolded_iff hread⟩

/-- There the continuation extends the value of the other name. -/
theorem read_continued_astray :
    let lines := Line.readAll (Utf8.encode "A: 1\r\nB: 2\r\na: 3\r\n x\r\n\r\n".toList)
    let values (r : Except Rejection (Headers × List Line)) : Option (List (List Text)) :=
      r.toOption.map fun p => p.1.fields.map Field.values
    values (read true 1 lines) = some [["1".toList, "3".toList], ["2 x".toList]] ∧
      values (read true 1 (unfolded lines)) = some [["1".toList, "3 x".toList], ["2".toList]] := by
  decide +kernel

end HeaderBlock

end BatchExchange
