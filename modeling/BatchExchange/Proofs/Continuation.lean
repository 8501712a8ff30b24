import BatchExchange.Proofs.Headers
import BatchExchange.Proofs.Text

/-!
# Continued values

A value that is continued has a space and the continuation behind it.  Continuing extends the last value of the
last field of a block, so it extends the value that was added last only if that was added to this field.

* `Field.trim_append_spaced_iff`: when a value with all of its continuations in one text reads as the value continued.
* `Field.Missed.continued`: a value that has more than another one, or white space that the other lacks, is not
  made equal to it by continuing.
* `Headers.extendLast_add`: a continuation extends what was added under a name that is new or last.
* `Headers.names_add`, `Headers.keys_add`: how a block grows.
* `Headers.valueAt?_add`, `Headers.foldl_extendLast`: values that neither addition nor continuation reaches.
* `Headers.valueAt?_extendLast_cases`: what one continuation makes of a value.
-/

namespace BatchExchange

namespace Field

/-- A value and what continues it. -/
def continued (value more : Text) : Text := if value = [] then more else value ++ ' ' :: more

theorem extend_of_single (name value more : Text) (line : Nat) :
    Field.extend more { name, first := value, line } = { name, first := continued value more, line } := rfl

theorem extend_push (f : Field) (value more : Text) :
    (f.push value).extend more = f.push (continued value more) := by
  unfold extend push
  simp only [List.getLast?_concat, List.dropLast_concat]
  rfl

theorem weight_continued (value more : Text) :
    Text.weight (continued value more) = Text.weight value + Text.weight more := by
  unfold continued
  split
  · rename_i h
    rw [h]
    exact (Nat.zero_add _).symm
  · have hspace : Text.weight (' ' :: more) = Text.weight more := List.countP_cons_of_neg (by decide)
    rw [Text.weight_append, hspace]

/-- Texts with a space in front of each. -/
def spaced (texts : List Text) : Text := texts.flatMap (' ' :: ·)

@[simp] theorem spaced_cons (t : Text) (texts : List Text) : spaced (t :: texts) = ' ' :: (t ++ spaced texts) := rfl

/-- What continues a value that is not empty stands behind spaces. -/
theorem foldl_continued_of_ne_nil {value : Text} (h : value ≠ []) (more : List Text) :
    more.foldl continued value = value ++ spaced more := by
  induction more generalizing value with
  | nil => exact (List.append_nil value).symm
  | cons m more ih =>
    have hm : continued value m = value ++ ' ' :: m := if_neg h
    rw [List.foldl_cons, hm, ih (by simp), spaced_cons, List.append_assoc, List.cons_append]

theorem weight_foldl_continued (more : List Text) (value : Text) :
    Text.weight (more.foldl continued value) = Text.weight value + Text.weight (spaced more) := by
  induction more generalizing value with
  | nil => rfl
  | cons m more ih =>
    have hspace : Text.weight (' ' :: m) = Text.weight m := List.countP_cons_of_neg (by decide)
    rw [List.foldl_cons, ih, weight_continued, spaced_cons, ← List.cons_append, Text.weight_append, hspace,
      Nat.add_assoc]

section Trimmed

variable {more : List Text} (htrim : ∀ m ∈ more, Text.trim m = m)
  (hlast : ∀ m ∈ more.getLast?, m ≠ [])

include htrim hlast

theorem exists_spaced_eq_concat (hne : more ≠ []) :
    ∃ s c, spaced more = s ++ [c] ∧ Text.isBlank c = false := by
  induction more using List.reverseRecOn with
  | nil => exact absurd rfl hne
  | append_singleton more m =>
    have hm : m ≠ [] := hlast m (by simp)
    have hend : Text.trimEnd m = m := Text.trimEnd_of_trim (htrim m (by simp))
    obtain ⟨s, c, rfl, hc⟩ := Text.exists_eq_concat_of_trimEnd hend hm
    exact ⟨spaced more ++ ' ' :: s, c, by simp [spaced], hc⟩

/-- An empty value becomes what continues it. -/
theorem trim_spaced : Text.trim (spaced more) = more.foldl continued [] := by
  induction more with
  | nil => rfl
  | cons m more ih =>
    have hcontinued : continued [] m = m := rfl
    rw [List.foldl_cons, hcontinued, spaced_cons, Text.trim_cons (by decide)]
    by_cases hm : m = []
    · subst hm
      apply ih (fun m hmem => htrim m (List.mem_cons_of_mem _ hmem))
      intro m hmem
      cases more with
      | nil => cases hmem
      | cons n more => exact hlast m (by rwa [List.getLast?_cons_cons])
    · obtain ⟨s, c, hs, hc⟩ := exists_spaced_eq_concat htrim hlast (by simp)
      rw [foldl_continued_of_ne_nil hm]
      apply Text.trim_of_ends
      · have hhead := Text.isBlank_head_of_trim (htrim m List.mem_cons_self)
        cases m with
        | nil => exact absurd rfl hm
        | cons d m => exact hhead
      · intro d hd
        have hend : (spaced (m :: more)).getLast? = some d := by
          rw [spaced_cons, List.getLast?_cons, hd]
          rfl
        rw [hs, List.getLast?_concat, Option.some.injEq] at hend
        rwa [← hend]

/-- A value and its continuations in one line read as the value continued, if it has no white space that
would stand in between. -/
theorem trim_append_spaced (hne : more ≠ []) {value : Text}
    (hvalue : Text.trim value = [] ∨ Text.trimEnd value = value) :
    Text.trim (value ++ spaced more) = more.foldl continued (Text.trim value) := by
  by_cases hblank : Text.trim value = []
  · rw [Text.trim_append_of_trim_eq_nil hblank, hblank, trim_spaced htrim hlast]
  · have hend : Text.trimEnd value = value := hvalue.resolve_left hblank
    have hvalue : value ≠ [] := by
      rintro rfl
      exact hblank rfl
    obtain ⟨v, d, rfl, hd⟩ := Text.exists_eq_concat_of_trimEnd hend hvalue
    obtain ⟨s, c, hs, hc⟩ := exists_spaced_eq_concat htrim hlast hne
    rw [foldl_continued_of_ne_nil hblank, Text.trim_concat hd, hs, ← List.append_assoc,
      Text.trim_concat hc, List.append_assoc, List.singleton_append, Text.trimStart_append_cons hd]
    simp

end Trimmed

theorem weight_spaced_ne_zero {more : List Text} (htrim : ∀ m ∈ more, Text.trim m = m)
    (hfilled : ∃ m ∈ more, m ≠ []) : Text.weight (spaced more) ≠ 0 := by
  intro hweight
  obtain ⟨m, hm, hne⟩ := hfilled
  refine hne (Text.eq_nil_of_weight (htrim m hm) ?_)
  rw [Text.weight, List.countP_eq_zero] at hweight ⊢
  intro c hc
  exact hweight c (List.mem_flatMap.2 ⟨m, hm, List.mem_cons_of_mem _ hc⟩)

/-- A value that is continued with nothing ends with a space. -/
theorem trimEnd_continued_nil_ne {value : Text} (hvalue : value ≠ []) :
    Text.trimEnd (continued value []) ≠ continued value [] := by
  intro heq
  rw [continued, if_neg hvalue] at heq
  obtain ⟨s, c, hs, hc⟩ := Text.exists_eq_concat_of_trimEnd heq (by simp)
  obtain ⟨-, hcs⟩ := List.append_inj' hs rfl
  cases hcs
  exact absurd hc (by decide)

/-- **When a value and its continuations in one line** read as the value continued. -/
theorem trim_append_spaced_iff {more : List Text} (htrim : ∀ m ∈ more, Text.trim m = m)
    (hfilled : ∃ m ∈ more, m ≠ []) (value : Text) :
    Text.trim (value ++ spaced more) = more.foldl continued (Text.trim value)
      ↔ (Text.trim value = [] ∨ Text.trimEnd value = value) ∧ ∀ m ∈ more.getLast?, m ≠ [] := by
  have hne : more ≠ [] := by
    rintro rfl
    obtain ⟨m, hm, -⟩ := hfilled
    cases hm
  constructor
  · intro heq
    have htrimmed : Text.trimEnd (more.foldl continued (Text.trim value))
        = more.foldl continued (Text.trim value) := by
      rw [← heq]
      exact Text.trimEnd_of_trim (Text.trim_trim _)
    have hlast : ∀ m ∈ more.getLast?, m ≠ [] := by
      rintro m hm rfl
      obtain ⟨init, rfl⟩ := List.getLast?_eq_some_iff.1 hm
      have hweight := weight_foldl_continued (init ++ [[]]) (Text.trim value)
      have hspaced := weight_spaced_ne_zero htrim hfilled
      rw [List.foldl_append, List.foldl_cons, List.foldl_nil] at hweight htrimmed
      rw [weight_continued] at hweight
      have hinit : init.foldl continued (Text.trim value) ≠ [] := by
        intro hnil
        rw [hnil, show Text.weight [] = 0 from rfl] at hweight
        omega
      exact trimEnd_continued_nil_ne hinit htrimmed
    refine ⟨?_, hlast⟩
    by_cases hblank : Text.trim value = []
    · exact .inl hblank
    · obtain ⟨s, c, hs, hc⟩ := exists_spaced_eq_concat htrim hlast hne
      rw [foldl_continued_of_ne_nil hblank, hs, ← List.append_assoc, Text.trim_concat hc,
        Text.trimStart_append hblank, List.append_assoc, List.append_left_inj] at heq
      refine .inr (Text.trimEnd_of_trimStart ?_ heq.symm)
      rwa [heq]
  · rintro ⟨hvalue, hlast⟩
    exact trim_append_spaced htrim hlast hne hvalue

/-- A value that is not `right` and has at least the characters of `right` that are no white space.  Continuations
do not make it equal any more, since `right` has no white space at its end. -/
structure Missed (value right : Text) : Prop where
  ne : value ≠ right
  trimmed : Text.trim right = right
  weight : Text.weight right ≤ Text.weight value

theorem Missed.continued {value right more : Text} (h : Missed value right) (hmore : Text.trim more = more) :
    Missed (continued value more) right where
  ne := by
    have hvalue : value ≠ [] := by
      rintro rfl
      exact h.ne (Text.eq_nil_of_weight h.trimmed (Nat.le_zero.1 h.weight)).symm
    intro heq
    by_cases hnil : more = []
    · have htrimmed := Text.trimEnd_of_trim h.trimmed
      rw [← heq, hnil] at htrimmed
      exact trimEnd_continued_nil_ne hvalue htrimmed
    · have hweight := weight_continued value more
      have hle := h.weight
      have hpos : Text.weight more ≠ 0 := fun h0 => hnil (Text.eq_nil_of_weight hmore h0)
      rw [heq] at hweight
      omega
  trimmed := h.trimmed
  weight := by
    rw [weight_continued]
    exact Nat.le_add_right_of_le h.weight

/-- A continuation reaches one value at most. -/
theorem getElem?_values_extend {f : Field} {k : Nat} {v : Text} (hv : f.values[k]? = some v) (more : Text) :
    (f.extend more).values[k]? = some v ∨ (f.extend more).values[k]? = some (continued v more) := by
  obtain ⟨name, first, others, line⟩ := f
  rcases List.eq_nil_or_concat others with rfl | ⟨init, value, hothers⟩
  · rw [extend_of_single]
    cases k with
    | zero =>
      cases hv
      exact .inr rfl
    | succ k => cases hv
  · have hpush : (⟨name, first, others, line⟩ : Field) = (⟨name, first, init, line⟩ : Field).push value := by
      rw [hothers, List.concat_eq_append]
      rfl
    have hvalues : ∀ value : Text, ((⟨name, first, init, line⟩ : Field).push value).values
        = (first :: init) ++ [value] := fun _ => rfl
    rw [hpush, hvalues] at hv
    rw [hpush, extend_push, hvalues]
    rcases Nat.lt_or_ge k (first :: init).length with hk | hk
    · rw [List.getElem?_append_left hk] at hv ⊢
      exact .inl hv
    · rw [List.getElem?_append_right hk, List.getElem?_singleton] at hv ⊢
      split at hv
      · cases hv
        exact .inr (if_pos ‹_›)
      · cases hv

end Field

/-! ### Blocks that grow -/

namespace Headers

/-- The names of a block in their order, up to case. -/
def keys (h : Headers) : List Text := h.fields.map Field.key

theorem get?_eq_none_iff_keys {h : Headers} {name : Text} : h.get? name = none ↔ name.foldCase ∉ h.keys :=
  get?_eq_none_iff

theorem fields_extendLast_concat {h : Headers} {init : List Field} {f : Field} (hf : h.fields = init ++ [f])
    (more : Text) : (h.extendLast more).fields = init ++ [f.extend more] := by
  rw [extendLast]
  simp [hf]

/-- Adding to the last field changes that field only. -/
theorem fields_add_of_last {h : Headers} {init : List Field} {f : Field} (hf : h.fields = init ++ [f])
    {name : Text} (hnamed : f.named name) (value : Text) (line : Nat) :
    (h.add name value line).fields = init ++ [f.push value] := by
  have hget : h.get? name = some f := get?_of_mem (by rw [hf]; simp) hnamed
  have hother : ∀ g ∈ init, ¬g.named name := by
    intro g hg hsame
    have hdistinct := h.distinct
    rw [hf, List.map_append, List.nodup_append] at hdistinct
    refine hdistinct.2.2 _ (List.mem_map_of_mem hg) _ (List.mem_singleton_self _) ?_
    rw [Field.named_iff.1 hsame, Field.named_iff.1 hnamed]
  have hinit : (init.map fun g => if g.named name then g.push value else g) = init.map id :=
    List.map_congr_left fun g hg => if_neg (hother g hg)
  rw [fields_add_of_some hget, hf, List.map_append, List.map_singleton, if_pos hnamed, hinit, List.map_id]

/-- What continues a field that was added last continues the value that was added. -/
theorem extendLast_add {h : Headers} {name : Text}
    (hlast : name.foldCase ∈ h.keys → h.keys.getLast? = some name.foldCase) (value more : Text) (line : Nat) :
    (h.add name value line).extendLast more = h.add name (Field.continued value more) line := by
  refine ext_fields ?_ rfl
  cases hget : h.get? name with
  | none =>
    rw [fields_extendLast_concat (fields_add_of_none hget), fields_add_of_none hget, Field.extend_of_single]
  | some f =>
    have hkey : name.foldCase ∈ h.keys := by
      rw [← key_of_get? hget]
      exact List.mem_map_of_mem (mem_of_get? hget)
    have hkeys := hlast hkey
    rw [keys, List.getLast?_map, Option.map_eq_some_iff] at hkeys
    obtain ⟨g, hg, hgkey⟩ := hkeys
    obtain ⟨init, hfields⟩ := List.getLast?_eq_some_iff.1 hg
    have hnamed : g.named name := Field.named_iff.2 hgkey
    rw [fields_extendLast_concat (fields_add_of_last hfields hnamed value line),
      fields_add_of_last hfields hnamed, Field.extend_push]

theorem names_add (h : Headers) (name value : Text) (line : Nat) :
    (h.add name value line).fields.map Field.name
      = if name.foldCase ∈ h.keys then h.fields.map Field.name else h.fields.map Field.name ++ [name] := by
  cases hget : h.get? name with
  | none =>
    rw [if_neg (get?_eq_none_iff_keys.1 hget), fields_add_of_none hget, List.map_append]
    rfl
  | some f =>
    have hkey : name.foldCase ∈ h.keys := by
      rw [← key_of_get? hget]
      exact List.mem_map_of_mem (mem_of_get? hget)
    rw [if_pos hkey, fields_add_of_some hget, List.map_map]
    apply List.map_congr_left
    intro g _
    rw [Function.comp_apply]
    split <;> rfl

theorem keys_eq_names (h : Headers) : h.keys = (h.fields.map Field.name).map Text.foldCase := by
  rw [keys, List.map_map]
  rfl

theorem keys_add (h : Headers) (name value : Text) (line : Nat) :
    (h.add name value line).keys
      = if name.foldCase ∈ h.keys then h.keys else h.keys ++ [name.foldCase] := by
  rw [keys_eq_names, names_add]
  split
  · rw [keys_eq_names]
  · rw [List.map_append, ← keys_eq_names]
    rfl

theorem mem_keys_add_iff {h : Headers} {name value : Text} {line : Nat} {key : Text} :
    key ∈ (h.add name value line).keys ↔ key ∈ h.keys ∨ key = name.foldCase := by
  rw [keys_add]
  split
  · rename_i hold
    refine ⟨.inl, ?_⟩
    rintro (hkey | rfl)
    · exact hkey
    · exact hold
  · rw [List.mem_append, List.mem_singleton]

theorem names_extendLast (h : Headers) (more : Text) :
    (h.extendLast more).fields.map Field.name = h.fields.map Field.name := by
  cases hlast : h.fields.getLast? with
  | none =>
    rw [extendLast]
    simp [List.getLast?_eq_none_iff.1 hlast]
  | some f =>
    obtain ⟨init, hf⟩ := List.getLast?_eq_some_iff.1 hlast
    rw [fields_extendLast_concat hf, hf, List.map_append, List.map_append]
    have hname : (f.extend more).name = f.name := by
      unfold Field.extend
      cases f.others.getLast? <;> rfl
    rw [List.map_singleton, List.map_singleton, hname]

end Headers

/-! ### Places in a block -/

namespace Headers

/-- The value at a place of a block: the `k`-th of the `i`-th field. -/
def valueAt? (h : Headers) (i k : Nat) : Option Text := h.fields[i]?.bind fun f => f.values[k]?

theorem valueAt?_eq_some_iff {h : Headers} {i k : Nat} {v : Text} :
    h.valueAt? i k = some v ↔ ∃ f, h.fields[i]? = some f ∧ f.values[k]? = some v :=
  Option.bind_eq_some_iff

theorem valueAt?_eq_values (h : Headers) (i k : Nat) :
    h.valueAt? i k = (h.fields.map Field.values)[i]?.bind fun values => values[k]? := by
  rw [valueAt?, List.getElem?_map, Option.bind_map]
  rfl

theorem length_add_ge (h : Headers) (name value : Text) (line : Nat) :
    h.fields.length ≤ (h.add name value line).fields.length := by
  have hnames := congrArg List.length (h.names_add name value line)
  rw [List.length_map] at hnames
  rw [hnames]
  split
  · exact Nat.le_of_eq (List.length_map _).symm
  · rw [List.length_append, List.length_map]
    exact Nat.le_add_right _ _

/-- Values that are added stand behind those that are there. -/
theorem valueAt?_add {h : Headers} {i k : Nat} {v : Text} (hv : h.valueAt? i k = some v)
    (name value : Text) (line : Nat) : (h.add name value line).valueAt? i k = some v := by
  rw [valueAt?_eq_some_iff] at hv ⊢
  obtain ⟨f, hf, hk⟩ := hv
  have hi : i < h.fields.length := (List.getElem?_eq_some_iff.1 hf).1
  cases hget : h.get? name with
  | none => exact ⟨f, by rw [fields_add_of_none hget, List.getElem?_append_left hi, hf], hk⟩
  | some g =>
    rw [fields_add_of_some hget, List.getElem?_map, hf]
    refine ⟨_, rfl, ?_⟩
    dsimp only
    split
    · have hlength : k < f.values.length := (List.getElem?_eq_some_iff.1 hk).1
      show (f.values ++ [value])[k]? = some v
      rw [List.getElem?_append_left hlength, hk]
    · exact hk

/-- Where an added value stands does not depend on it. -/
theorem exists_valueAt?_add (h : Headers) (name : Text) :
    ∃ i k, (∀ value line, (h.add name value line).valueAt? i k = some value) ∧
      (name.foldCase ∈ h.keys → h.keys.getLast? ≠ some name.foldCase → i + 1 < h.fields.length) := by
  cases hget : h.get? name with
  | none =>
    refine ⟨h.fields.length, 0, ?_, ?_⟩
    · intro value line
      refine valueAt?_eq_some_iff.2 ⟨{ name, first := value, line }, ?_, rfl⟩
      rw [fields_add_of_none hget]
      exact List.getElem?_concat_length
    · intro hkey
      exact absurd hkey (get?_eq_none_iff_keys.1 hget)
  | some f =>
    obtain ⟨i, hi⟩ := List.mem_iff_getElem?.1 (mem_of_get? hget)
    refine ⟨i, f.values.length, ?_, ?_⟩
    · intro value line
      refine valueAt?_eq_some_iff.2 ⟨f.push value, ?_, List.getElem?_concat_length⟩
      rw [fields_add_of_some hget, List.getElem?_map, hi, Option.map_some,
        if_pos (Field.named_iff.2 (key_of_get? hget))]
    · intro _ hlast
      have hlt : i < h.fields.length := (List.getElem?_eq_some_iff.1 hi).1
      by_contra hnot
      apply hlast
      have hend : i = h.fields.length - 1 := by omega
      rw [keys, List.getLast?_map, List.getLast?_eq_getElem?, ← hend, hi, Option.map_some, key_of_get? hget]

theorem length_extendLast (h : Headers) (more : Text) :
    (h.extendLast more).fields.length = h.fields.length := by
  have hnames := congrArg List.length (h.names_extendLast more)
  rwa [List.length_map, List.length_map] at hnames

/-- Continuations do not reach a field that is not the last. -/
theorem valueAt?_extendLast {h : Headers} {i k : Nat} (hi : i + 1 < h.fields.length) (more : Text) :
    (h.extendLast more).valueAt? i k = h.valueAt? i k := by
  cases hlast : h.fields.getLast? with
  | none =>
    rw [List.getLast?_eq_none_iff.1 hlast] at hi
    exact absurd hi (by simp)
  | some f =>
    obtain ⟨init, hf⟩ := List.getLast?_eq_some_iff.1 hlast
    rw [hf, List.length_append, List.length_singleton] at hi
    have hinit : i < init.length := by omega
    rw [valueAt?, valueAt?, fields_extendLast_concat hf, hf, List.getElem?_append_left hinit,
      List.getElem?_append_left hinit]

/-- A continuation extends a value or leaves it. -/
theorem valueAt?_extendLast_cases {h : Headers} {i k : Nat} {v : Text} (hv : h.valueAt? i k = some v)
    (more : Text) : (h.extendLast more).valueAt? i k = some v ∨
      (h.extendLast more).valueAt? i k = some (Field.continued v more) := by
  rcases Nat.lt_or_ge (i + 1) h.fields.length with hi | hi
  · exact .inl ((valueAt?_extendLast hi more).trans hv)
  · obtain ⟨f, hf, hk⟩ := valueAt?_eq_some_iff.1 hv
    have hlt : i < h.fields.length := (List.getElem?_eq_some_iff.1 hf).1
    have hlast : h.fields.getLast? = some f := by
      rw [List.getLast?_eq_getElem?, show h.fields.length - 1 = i by omega, hf]
    obtain ⟨init, hfields⟩ := List.getLast?_eq_some_iff.1 hlast
    have hinit : i = init.length := by
      rw [hfields, List.length_append, List.length_singleton] at hlt hi
      omega
    have hplace : ∀ w, (h.extendLast more).valueAt? i k = some w ↔ (f.extend more).values[k]? = some w := by
      intro w
      rw [valueAt?, fields_extendLast_concat hfields, hinit, List.getElem?_concat_length, Option.bind_some]
    rw [hplace, hplace]
    exact Field.getElem?_values_extend hk more

theorem foldl_extendLast {i k : Nat} {v : Text} (ts : List Text) {h : Headers}
    (hi : i + 1 < h.fields.length) (hv : h.valueAt? i k = some v) :
    i + 1 < (ts.foldl extendLast h).fields.length ∧ (ts.foldl extendLast h).valueAt? i k = some v := by
  induction ts generalizing h with
  | nil => exact ⟨hi, hv⟩
  | cons t ts ih =>
    apply ih
    · rwa [length_extendLast]
    · rwa [valueAt?_extendLast hi]

end Headers

end BatchExchange
