import BatchExchange.Proofs.Headers
import Mathlib.Data.List.AList

/-!
# Header blocks as ordered maps

A block answers and changes as a map from names without case to fields, in the order in which the names came.
Going through a list for the first field of a name finds the only one, so a change need not look further.

* `Headers.Change`, `Headers.apply`: the changes of a block, and what each of them answers.
* `Headers.Change.run_map`: what is seen of each change is seen of any sequence of them.
* `FieldMap`, `FieldMap.apply`: fields by their keys, in order, and the changes of the entry under a key.
* `Headers.Change.scan`: the changes of a plain list, each at the first field of its name.
* `Headers.fields_apply_of_none`, `Headers.Around.fields_apply`: all that a change does to the fields of a block.
* `Headers.apply_toMap`, `Headers.scan_fields`: a change of a block is that change of the map, and of the list.
* `Headers.ActsAsMap`, `Headers.actsAsMap`: what every block has of a map.
* `Headers.run_eq_map`: a sequence of changes, from the empty block on.
-/

namespace BatchExchange

namespace Headers

/-! ### Changes -/

/-- A change of the field of one name. -/
inductive Change where
  | add (name value : Text) (line : Nat)
  | set (name value : Text)
  | replace (f : Field)
  | remove (name : Text)

/-- The name whose field is changed. -/
def Change.name : Change → Text
  | add name _ _ => name
  | set name _ => name
  | replace f => f.name
  | remove name => name

/-- The field that is under the name after a change, from the one that was. -/
def Change.entry : Change → Option Field → Option Field
  | add name value line, none => some { name, first := value, line }
  | add _ value _, some f => some (f.push value)
  | set name value, old => some { name, first := value, line := (old.map Field.line).getD 0 }
  | replace f, _ => some f
  | remove _, _ => none

/-- What a change answers, from the field that was under the name. -/
def Change.answer : Change → Option Field → Option Field
  | remove _, old => old
  | _, _ => none

theorem Change.key_entry {c : Change} {old : Option Field} {f : Field} (hf : c.entry old = some f)
    (hold : ∀ g ∈ old, g.key = c.name.foldCase) : f.key = c.name.foldCase := by
  cases c with
  | add name value line =>
    cases old with
    | none =>
      cases hf
      rfl
    | some g =>
      cases hf
      exact hold g rfl
  | set name value =>
    cases hf
    rfl
  | replace g =>
    cases hf
    rfl
  | remove name => cases hf

/-- What a change answers, and the block after it. -/
def apply (h : Headers) : Change → Option Field × Headers
  | .add name value line => (none, h.add name value line)
  | .set name value => (none, h.set name value)
  | .replace f => (none, h.put f)
  | .remove name => h.take name

/-- A change at the first field of the name in a plain list. -/
def Change.scan (fields : List Field) : Change → Option Field × List Field
  | add name value line =>
    match fields.findIdx? (Field.named name) with
    | none => (none, fields ++ [{ name, first := value, line }])
    | some i => (none, fields.modify i (Field.push value))
  | set name value =>
    match fields.findIdx? (Field.named name) with
    | none => (none, fields ++ [{ name, first := value }])
    | some i =>
      let fields := fields.modify i fun f => { name, first := value, line := f.line }
      -- later fields of the name go
      (none, (fields.zipIdx.filter fun (f, j) => j = i || !f.named name).map Prod.fst)
  | replace f =>
    match fields.findIdx? (Field.named f.name) with
    | none => (none, fields ++ [f])
    | some i => (none, fields.set i f)
  | remove name =>
    match fields.findIdx? (Field.named name) with
    | none => (none, fields)
    | some i => (fields[i]?, fields.eraseIdx i)

/-- What some changes answer, one after the other, and what is there after them. -/
def Change.run {σ : Type} (step : σ → Change → Option Field × σ) (s : σ) : List Change → List (Option Field) × σ
  | [] => ([], s)
  | c :: cs =>
    let (answer, s) := step s c
    let (answers, s) := run step s cs
    (answer :: answers, s)

/-- **What is seen of each change is seen of any sequence of them.** -/
theorem Change.run_map {σ τ : Type} {step : σ → Change → Option Field × σ} {step' : τ → Change → Option Field × τ}
    (view : σ → τ) (h : ∀ s c, step' (view s) c = ((step s c).1, view (step s c).2)) (s : σ) (cs : List Change) :
    run step' (view s) cs = ((run step s cs).1, view (run step s cs).2) := by
  induction cs generalizing s with
  | nil => rfl
  | cons c cs ih => simp only [run, h, ih]

end Headers

/-! ### Ordered maps -/

/-- Fields by their keys, in order. -/
abbrev FieldMap : Type := AList fun _ : Text => Field

namespace FieldMap

/-- A field at the end. -/
def append (m : FieldMap) (f : Field) : FieldMap := m ∪ AList.singleton f.key f

/-- A change of the entry under a key: in its place, or else at the end. -/
def apply (m : FieldMap) (c : Headers.Change) : Option Field × FieldMap :=
  let key := c.name.foldCase
  let old := m.lookup key
  let changed := match old, c.entry old with
    | none, none => m
    | none, some f => m.append f
    | some _, some f => m.replace key f
    | some _, none => m.erase key
  (c.answer old, changed)

section Entries

variable {key : Text} {before after : List (Σ _ : Text, Field)} (hbefore : key ∉ before.keys) (f g : Field)

include hbefore

theorem kunion_singleton : before.kunion [⟨key, f⟩] = before ++ [⟨key, f⟩] := by
  induction before with
  | nil => rfl
  | cons s before ih =>
    rw [List.keys_cons, List.mem_cons, not_or] at hbefore
    rw [List.kunion_cons, List.kerase_cons_ne (Ne.symm hbefore.1), List.kerase_nil, ih hbefore.2, List.cons_append]

theorem kreplace_middle : (before ++ ⟨key, f⟩ :: after).kreplace key g = before ++ ⟨key, g⟩ :: after := by
  induction before with
  | nil => exact List.lookmap_cons_some _ _ (if_pos rfl)
  | cons s before ih =>
    rw [List.keys_cons, List.mem_cons, not_or] at hbefore
    rw [List.cons_append, List.cons_append, ← ih hbefore.2]
    exact List.lookmap_cons_none (fun s : Σ _ : Text, Field => if key = s.1 then some ⟨key, g⟩ else none) _
      (if_neg hbefore.1)

theorem kerase_middle : (before ++ ⟨key, f⟩ :: after).kerase key = before ++ after := by
  rw [List.kerase_append_right hbefore]
  exact congrArg (before ++ ·) (List.kerase_cons_eq rfl)

end Entries

end FieldMap

namespace Headers

/-- The fields of a block by their keys. -/
def toMap (h : Headers) : FieldMap where
  entries := h.fields.map fun f => ⟨f.key, f⟩
  nodupKeys := by
    rw [List.NodupKeys, List.keys, List.map_map]
    exact h.distinct

theorem entries_toMap (h : Headers) : h.toMap.entries = h.fields.map fun f => ⟨f.key, f⟩ := rfl

theorem lookup_toMap (h : Headers) (name : Text) : h.toMap.lookup name.foldCase = h.get? name := by
  refine Option.ext fun f => ?_
  refine AList.mem_lookup_iff.trans (List.mem_map.trans ?_)
  constructor
  · rintro ⟨g, hg, heq⟩
    obtain ⟨hkey, rfl⟩ := Sigma.mk.inj heq
    exact get?_of_mem hg (Field.named_iff.2 hkey)
  · intro hf
    exact ⟨f, mem_of_get? hf, by rw [key_of_get? hf]⟩

theorem not_mem_keys_of_not_named {name : Text} {fields : List Field} (h : ∀ g ∈ fields, ¬g.named name) :
    name.foldCase ∉ (fields.map fun f => (⟨f.key, f⟩ : Σ _ : Text, Field)).keys := by
  rw [List.keys, List.map_map, List.mem_map]
  rintro ⟨g, hg, hkey⟩
  exact h g hg (Field.named_iff.2 hkey)

/-- A new field stands at the end of both. -/
theorem append_toMap {h h' : Headers} {f : Field} (hnone : h.get? f.name = none)
    (hfields : h'.fields = h.fields ++ [f]) : h.toMap.append f = h'.toMap := by
  have hnew : f.key ∉ h.toMap.entries.keys :=
    not_mem_keys_of_not_named fun g hg => List.find?_eq_none.1 hnone g hg
  apply AList.ext
  rw [FieldMap.append, AList.union_entries, AList.singleton_entries, FieldMap.kunion_singleton hnew,
    entries_toMap, entries_toMap, hfields, List.map_append]
  rfl

section Around

variable {h : Headers} {name : Text} {before after : List Field} {f : Field} (haround : h.Around name before f after)

include haround

theorem Around.get?_eq : h.get? name = some f := by
  refine get?_of_mem ?_ haround.named
  rw [haround.fields_eq]
  simp

theorem Around.map_eq (change : Field → Field) :
    (h.fields.map fun g => if g.named name then change g else g) = before ++ change f :: after := by
  have hkeep : ∀ fields : List Field, (∀ g ∈ fields, ¬g.named name) →
      (fields.map fun g => if g.named name then change g else g) = fields := by
    intro fields hfields
    calc (fields.map fun g => if g.named name then change g else g)
        = fields.map id := List.map_congr_left fun g hg => if_neg (hfields g hg)
      _ = fields := List.map_id _
  rw [haround.fields_eq, List.map_append, List.map_cons, if_pos haround.named, hkeep before haround.before,
    hkeep after haround.after]

theorem Around.entries_eq :
    h.toMap.entries = before.map (fun f => ⟨f.key, f⟩) ++ ⟨name.foldCase, f⟩ :: after.map (fun f => ⟨f.key, f⟩) := by
  rw [entries_toMap, haround.fields_eq, List.map_append, List.map_cons, Field.named_iff.1 haround.named]

/-- A field that is put in the place of another is put there in the map. -/
theorem Around.replace_toMap {h' : Headers} {g : Field} (hg : g.key = name.foldCase)
    (hfields : h'.fields = before ++ g :: after) : h.toMap.replace name.foldCase g = h'.toMap := by
  apply AList.ext
  show h.toMap.entries.kreplace name.foldCase g = _
  rw [haround.entries_eq, FieldMap.kreplace_middle (not_mem_keys_of_not_named haround.before), entries_toMap,
    hfields, List.map_append, List.map_cons, hg]

/-- A field that goes goes from the map. -/
theorem Around.erase_toMap {h' : Headers} (hfields : h'.fields = before ++ after) :
    h.toMap.erase name.foldCase = h'.toMap := by
  apply AList.ext
  show h.toMap.entries.kerase name.foldCase = _
  rw [haround.entries_eq, FieldMap.kerase_middle (not_mem_keys_of_not_named haround.before), entries_toMap,
    hfields, List.map_append]

end Around

/-! ### One change -/

theorem fields_set_of_none {h : Headers} {name value : Text} (hnone : h.get? name = none) :
    (h.set name value).fields = h.fields ++ [{ name, first := value }] := by
  rw [set, hnone]
  exact fields_put_of_none hnone

theorem filter_not_named {name : Text} {fields : List Field} (h : ∀ g ∈ fields, ¬g.named name) :
    (fields.filter fun g => !g.named name) = fields := by
  rw [List.filter_eq_self]
  exact fun g hg => by simpa using h g hg

theorem fields_erase_of_none {h : Headers} {name : Text} (hnone : h.get? name = none) :
    (h.erase name).fields = h.fields :=
  filter_not_named (List.find?_eq_none.1 hnone)

theorem Around.fields_erase {h : Headers} {name : Text} {before after : List Field} {f : Field}
    (haround : h.Around name before f after) : (h.erase name).fields = before ++ after := by
  show h.fields.filter _ = _
  rw [haround.fields_eq, List.filter_append, List.filter_cons_of_neg (by simp [haround.named]),
    filter_not_named haround.before, filter_not_named haround.after]

theorem answer_apply (h : Headers) (c : Change) : (h.apply c).1 = c.answer (h.get? c.name) := by
  cases c <;> rfl

theorem line_apply (h : Headers) (c : Change) : (h.apply c).2.line = h.line := by
  cases c <;> rfl

/-- **Where the name is new, what a change makes stands at the end.** -/
theorem fields_apply_of_none {h : Headers} {c : Change} (hnone : h.get? c.name = none) :
    (h.apply c).2.fields = h.fields ++ (c.entry none).toList := by
  cases c with
  | add name value line => exact fields_add_of_none hnone
  | set name value => exact fields_set_of_none hnone
  | replace f => exact fields_put_of_none hnone
  | remove name => exact (fields_erase_of_none hnone).trans (List.append_nil _).symm

/-- **Where it is not, what a change makes stands in place of the one field of the name.** -/
theorem Around.fields_apply {h : Headers} {c : Change} {before after : List Field} {f : Field}
    (haround : h.Around c.name before f after) :
    (h.apply c).2.fields = before ++ ((c.entry (some f)).toList ++ after) := by
  have hf := haround.get?_eq
  cases c with
  | add name value line => exact (fields_add_of_some hf).trans (haround.map_eq (Field.push value))
  | set name value =>
    exact (fields_set_of_some hf).trans (haround.map_eq fun g => { name, first := value, line := g.line })
  | replace g => exact (fields_put_of_some hf).trans (haround.map_eq fun _ => g)
  | remove name => exact haround.fields_erase

theorem Around.key_entry {h : Headers} {c : Change} {before after : List Field} {f g : Field}
    (haround : h.Around c.name before f after) (hg : c.entry (some f) = some g) : g.key = c.name.foldCase := by
  refine Change.key_entry hg fun f' hf' => ?_
  cases hf'
  exact Field.named_iff.1 haround.named

/-- **A change of a block is that change of the map.** -/
theorem apply_toMap (h : Headers) (c : Change) : h.toMap.apply c = ((h.apply c).1, (h.apply c).2.toMap) := by
  rw [FieldMap.apply, lookup_toMap, answer_apply]
  refine congrArg (Prod.mk _) ?_
  cases hf : h.get? c.name with
  | none =>
    have hfields := fields_apply_of_none hf
    cases hentry : c.entry none with
    | none =>
      rw [hentry] at hfields
      exact AList.ext (by rw [entries_toMap, entries_toMap, hfields, Option.toList_none, List.append_nil])
    | some g =>
      rw [hentry] at hfields
      have hkey : g.name.foldCase = c.name.foldCase := Change.key_entry hentry (by simp)
      exact append_toMap ((h.get?_congr hkey).trans hf) hfields
  | some f =>
    obtain ⟨before, after, haround⟩ := exists_around hf
    have hfields := haround.fields_apply
    cases hentry : c.entry (some f) with
    | none =>
      rw [hentry] at hfields
      exact haround.erase_toMap hfields
    | some g =>
      rw [hentry] at hfields
      exact haround.replace_toMap (haround.key_entry hentry) hfields

/-- **A change leaves the other fields as they are**, in their order. -/
theorem filter_apply (h : Headers) (c : Change) :
    ((h.apply c).2.fields.filter fun f => !f.named c.name) = h.fields.filter fun f => !f.named c.name := by
  have hentry : ∀ old : Option Field, (∀ g ∈ old, g.key = c.name.foldCase) →
      ((c.entry old).toList.filter fun f => !f.named c.name) = [] := by
    intro old hold
    rw [List.filter_eq_nil_iff]
    intro f hf
    simp [Field.named_iff.2 (Change.key_entry (Option.mem_toList.1 hf) hold)]
  cases hf : h.get? c.name with
  | none => rw [fields_apply_of_none hf, List.filter_append, hentry none (by simp), List.append_nil]
  | some f =>
    obtain ⟨before, after, haround⟩ := exists_around hf
    have hkey : ∀ g ∈ some f, g.key = c.name.foldCase := by
      rintro _ ⟨⟩
      exact Field.named_iff.1 haround.named
    rw [haround.fields_apply, haround.fields_eq, List.filter_append, List.filter_append, List.filter_append,
      hentry (some f) hkey, List.filter_cons_of_neg (by simp [haround.named]), List.nil_append]

/-! ### Going through the fields -/

theorem findIdx?_of_none {h : Headers} {name : Text} (hnone : h.get? name = none) :
    h.fields.findIdx? (Field.named name) = none := by
  rw [List.findIdx?_eq_none_iff]
  exact fun g hg => by simpa using List.find?_eq_none.1 hnone g hg

section Around

variable {h : Headers} {name : Text} {before after : List Field} {f : Field} (haround : h.Around name before f after)

include haround

theorem Around.findIdx?_eq : h.fields.findIdx? (Field.named name) = some before.length := by
  have hbefore : before.findIdx? (Field.named name) = none := by
    rw [List.findIdx?_eq_none_iff]
    exact fun g hg => by simpa using haround.before g hg
  rw [haround.fields_eq, List.findIdx?_append, hbefore, List.findIdx?_cons, if_pos haround.named]
  simp

theorem Around.getElem?_eq : h.fields[before.length]? = some f := by
  rw [haround.fields_eq, List.getElem?_append_right le_rfl, Nat.sub_self, List.getElem?_cons_zero]

theorem Around.modify_eq (change : Field → Field) :
    h.fields.modify before.length change = before ++ change f :: after := by
  rw [haround.fields_eq, List.modify_eq_take_cons_drop (by simp)]
  simp

theorem Around.set_eq (g : Field) : h.fields.set before.length g = before ++ g :: after := by
  rw [haround.fields_eq, List.set_append_right _ _ le_rfl, Nat.sub_self, List.set_cons_zero]

theorem Around.eraseIdx_eq : h.fields.eraseIdx before.length = before ++ after := by
  rw [haround.fields_eq, List.eraseIdx_append_of_length_le le_rfl, Nat.sub_self, List.eraseIdx_cons_zero]

/-- Counting along keeps all fields: no other one has the name. -/
theorem Around.filter_zipIdx (g : Field) :
    ((before ++ g :: after).zipIdx.filter fun (f, j) => j = before.length || !f.named name).map Prod.fst
      = before ++ g :: after := by
  have hkeep : ∀ (fields : List Field) (k : ℕ), (∀ g ∈ fields, ¬g.named name) →
      ((fields.zipIdx k).filter fun (f, j) => j = before.length || !f.named name) = fields.zipIdx k := by
    intro fields k hfields
    rw [List.filter_eq_self]
    rintro ⟨g, j⟩ hg
    simp [hfields g (List.fst_mem_of_mem_zipIdx hg)]
  rw [List.zipIdx_append, List.zipIdx_cons, List.filter_append, hkeep before _ haround.before,
    List.filter_cons_of_pos (by simp), hkeep after _ haround.after]
  simp

end Around

/-- **A change of a block is that change of the list of its fields.** -/
theorem scan_fields (h : Headers) (c : Change) : c.scan h.fields = ((h.apply c).1, (h.apply c).2.fields) := by
  cases hf : h.get? c.name with
  | none =>
    rw [answer_apply, fields_apply_of_none hf, hf]
    cases c with
    | add name value line =>
      have hidx : h.fields.findIdx? (Field.named name) = none := findIdx?_of_none hf
      rw [Change.scan, hidx]
      rfl
    | set name value =>
      have hidx : h.fields.findIdx? (Field.named name) = none := findIdx?_of_none hf
      rw [Change.scan, hidx]
      rfl
    | replace g =>
      have hidx : h.fields.findIdx? (Field.named g.name) = none := findIdx?_of_none hf
      rw [Change.scan, hidx]
      rfl
    | remove name =>
      have hidx : h.fields.findIdx? (Field.named name) = none := findIdx?_of_none hf
      rw [Change.scan, hidx]
      exact congrArg (Prod.mk none) (List.append_nil _).symm
  | some f =>
    obtain ⟨before, after, haround⟩ := exists_around hf
    rw [answer_apply, haround.fields_apply, hf]
    cases c with
    | add name value line =>
      have hidx : h.fields.findIdx? (Field.named name) = some before.length := haround.findIdx?_eq
      rw [Change.scan, hidx]
      exact congrArg (Prod.mk none) (haround.modify_eq _)
    | set name value =>
      have hidx : h.fields.findIdx? (Field.named name) = some before.length := haround.findIdx?_eq
      rw [Change.scan, hidx]
      refine congrArg (Prod.mk none) ?_
      dsimp only
      rw [haround.modify_eq]
      exact haround.filter_zipIdx _
    | replace g =>
      have hidx : h.fields.findIdx? (Field.named g.name) = some before.length := haround.findIdx?_eq
      rw [Change.scan, hidx]
      exact congrArg (Prod.mk none) (haround.set_eq g)
    | remove name =>
      have hidx : h.fields.findIdx? (Field.named name) = some before.length := haround.findIdx?_eq
      rw [Change.scan, hidx]
      exact Prod.ext haround.getElem?_eq haround.eraseIdx_eq

/-! ### Any changes -/

/-- What a block has of a map. -/
structure ActsAsMap (h : Headers) : Prop where
  /-- No two fields have names that differ in case only. -/
  apart : h.fields.Pairwise fun f g => ¬Text.same f.name g.name
  valued : ∀ f ∈ h.fields, f.values ≠ []
  /-- All spellings of a name are answered alike, by the entry under its key. -/
  get? : ∀ {s t : Text}, Text.same s t → h.get? s = h.toMap.lookup t.foldCase
  value? : ∀ {s t : Text}, Text.same s t → h.value? s = (h.toMap.lookup t.foldCase).map Field.value
  contains : ∀ {s t : Text}, Text.same s t → h.contains s = (h.toMap.lookup t.foldCase).isSome
  removed : ∀ {s t : Text}, Text.same s t → (h.apply (.remove s)).2.contains t = false
  others : ∀ c : Change,
    ((h.apply c).2.fields.filter fun f => !f.named c.name) = h.fields.filter fun f => !f.named c.name

theorem actsAsMap (h : Headers) : h.ActsAsMap := by
  have hget : ∀ {s t : Text}, Text.same s t → h.get? s = h.toMap.lookup t.foldCase := by
    intro s t hsame
    rw [lookup_toMap]
    exact h.get?_congr (Text.same_iff.1 hsame)
  refine ⟨?apart, fun f _ => List.cons_ne_nil _ _, hget, ?value, ?contains, ?removed, h.filter_apply⟩
  case apart =>
    refine (List.pairwise_map.1 h.distinct).imp fun hne hsame => ?_
    exact hne (Text.same_iff.1 hsame)
  case value => exact fun hsame => congrArg (Option.map Field.value) (hget hsame)
  case contains => exact fun hsame => congrArg Option.isSome (hget hsame)
  case removed =>
    intro s t hsame
    have hnone : (h.erase s).get? t = none := by
      rw [get?_eq_none_iff, List.mem_map]
      rintro ⟨f, hf, hkey⟩
      have hnamed : f.named s := Field.named_iff.2 (hkey.trans (Text.same_iff.1 hsame).symm)
      simpa [hnamed] using (List.mem_filter.1 hf).2
    show ((h.erase s).get? t).isSome = false
    rw [hnone, Option.isSome_none]

theorem line_run (h : Headers) (changes : List Change) : (Change.run apply h changes).2.line = h.line := by
  induction changes generalizing h with
  | nil => rfl
  | cons c changes ih => exact (ih _).trans (h.line_apply c)

/-- **A block is an ordered map.**  From the empty block on, any changes answer and leave what they answer and
leave in the map of fields by their keys, and in a plain list of fields that is gone through for the first one
of a name.  As this holds of the first few of the changes, too, it holds after each of them. -/
theorem run_eq_map (line : ℕ) (changes : List Change) :
    let (answers, h) := Change.run apply (atLine line) changes
    Change.run FieldMap.apply ∅ changes = (answers, h.toMap) ∧
    Change.run (fun fields c => c.scan fields) [] changes = (answers, h.fields) ∧
    h.line = line ∧ h.ActsAsMap :=
  ⟨Change.run_map toMap apply_toMap (atLine line) changes,
    Change.run_map fields scan_fields (atLine line) changes,
    line_run (atLine line) changes, actsAsMap _⟩

example :
    Change.run apply (atLine 3)
        [.add "Accept".toList "a".toList 4, .set "X".toList "x".toList, .add "ACCEPT".toList "b".toList 5,
          .remove "x".toList]
      = ([none, none, none, some { name := "X".toList, first := "x".toList }],
        { fields := [{ name := "Accept".toList, first := "a".toList, others := ["b".toList], line := 4 }],
          line := 3 }) := by
  decide

end Headers

end BatchExchange
