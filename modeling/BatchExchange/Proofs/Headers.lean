import BatchExchange.Headers
import Mathlib.Data.List.Forall2
import Mathlib.Data.List.Induction

/-!
# Looking fields up

A block answers every spelling of a name alike, and a change of one field shows under its name alone.

* `Headers.Around`: a block around the field that it answers, which is the only one of its name.
* `Headers.get?_add`, `Headers.get?_put`, `Headers.get?_set`: what a changed block answers.
* `Headers.mem_fields_alter`, `Headers.mem_fields_put`, `Headers.mem_fields_set`: what it holds.
* `Headers.fields_set_of_some`: a field that is set anew keeps its place.
* `Headers.AgreeBut`: blocks that differ in the field of one name only.
* `Headers.unplaced`: a block without the lines it was read from.
* `Headers.ofList`: the block that given names and values make, added in order.
* `Headers.values_ofList`: under each name it holds the values given with that name, in order.
* `Headers.fields_ofList`: with different names it holds one field for each.
-/

namespace BatchExchange

namespace Headers

theorem get?_congr (h : Headers) {s t : Text} (hst : s.foldCase = t.foldCase) :
    h.get? s = h.get? t := by
  have hnamed : Field.named s = Field.named t := by
    funext f
    rw [Field.named, Field.named, hst]
  rw [get?, get?, hnamed]

theorem key_of_get? {h : Headers} {name : Text} {f : Field} (hf : h.get? name = some f) :
    f.key = name.foldCase :=
  Field.named_iff.1 (List.find?_some hf)

theorem mem_of_get? {h : Headers} {name : Text} {f : Field} (hf : h.get? name = some f) :
    f ∈ h.fields :=
  List.mem_of_find?_eq_some hf

theorem get?_eq_none_iff {h : Headers} {name : Text} :
    h.get? name = none ↔ name.foldCase ∉ h.fields.map Field.key := by
  rw [get?, List.find?_eq_none, List.mem_map]
  simp only [Field.named_iff, not_exists, not_and]

/-- A block and the one field of a name in it, with the fields before and after. -/
structure Around (h : Headers) (name : Text) (before : List Field) (f : Field) (after : List Field) : Prop where
  fields_eq : h.fields = before ++ f :: after
  named : f.named name
  before : ∀ g ∈ before, ¬g.named name
  after : ∀ g ∈ after, ¬g.named name

theorem exists_around {h : Headers} {name : Text} {f : Field} (hf : h.get? name = some f) :
    ∃ before after, h.Around name before f after := by
  obtain ⟨hnamed, before, after, hfields, hbefore⟩ := List.find?_eq_some_iff_append.1 hf
  refine ⟨before, after, hfields, hnamed, fun g hg => by simpa using hbefore g hg, ?_⟩
  intro g hg hsame
  have hdistinct := h.distinct
  rw [hfields, List.map_append, List.nodup_append, List.map_cons, List.nodup_cons] at hdistinct
  apply hdistinct.2.1.1
  rw [Field.named_iff.1 hnamed, ← Field.named_iff.1 hsame]
  exact List.mem_map_of_mem hg

/-- The field that a block answers is the only one of its name. -/
theorem filter_named_of_get? {h : Headers} {name : Text} {f : Field} (hf : h.get? name = some f) :
    h.fields.filter (Field.named name) = [f] := by
  obtain ⟨before, after, haround⟩ := exists_around hf
  rw [haround.fields_eq, List.filter_append, List.filter_cons_of_pos haround.named,
    List.filter_eq_nil_iff.2 haround.after, List.filter_eq_nil_iff.2 haround.before, List.nil_append]

theorem get?_of_mem {h : Headers} {name : Text} {f : Field} (hf : f ∈ h.fields)
    (hnamed : f.named name) : h.get? name = some f := by
  cases hget : h.get? name with
  | none => exact absurd hnamed (List.find?_eq_none.1 hget f hf)
  | some g =>
    have hmem : f ∈ h.fields.filter (Field.named name) := List.mem_filter.2 ⟨hf, hnamed⟩
    rw [filter_named_of_get? hget, List.mem_singleton] at hmem
    rw [hmem]

/-! ### Changing one field -/

section Alter

variable (h : Headers) (fresh : Field) (change : Field → Field)
  (keeps : ∀ f : Field, f.named fresh.name → (change f).key = f.key)

theorem fields_alter_of_none (hn : h.get? fresh.name = none) :
    (h.alter fresh change keeps).fields = h.fields ++ [fresh] := by
  rw [alter]
  simp only [contains, hn, Option.isSome_none, Bool.false_eq_true, if_false]

theorem fields_alter_of_some {f : Field} (hf : h.get? fresh.name = some f) :
    (h.alter fresh change keeps).fields
      = h.fields.map fun f => if f.named fresh.name then change f else f := by
  rw [alter]
  simp only [contains, hf, Option.isSome_some, if_true]

/-- **A change shows under its own name, and no other.** -/
theorem get?_alter (name : Text) :
    (h.alter fresh change keeps).get? name
      = if fresh.key = name.foldCase then some ((h.get? name).elim fresh change)
        else h.get? name := by
  cases hf : h.get? fresh.name with
  | none =>
    rw [get?, fields_alter_of_none h fresh change keeps hf, List.find?_append, ← get?]
    by_cases hk : fresh.key = name.foldCase
    · rw [h.get?_congr (show name.foldCase = fresh.name.foldCase from hk.symm), hf, if_pos hk]
      simp [Field.named_iff.2 hk]
    · rw [if_neg hk]
      simp [Field.named, hk]
  | some f =>
    have hkeep : ∀ g : Field, (if g.named fresh.name then change g else g).key = g.key := by
      intro g
      by_cases hg : g.named fresh.name
      · rw [if_pos hg, keeps g hg]
      · rw [if_neg hg]
    have hnamed : (Field.named name ∘ fun g => if g.named fresh.name then change g else g)
        = Field.named name := by
      funext g
      rw [Function.comp_apply, Field.named, hkeep, Field.named]
    rw [get?, fields_alter_of_some h fresh change keeps hf, List.find?_map, hnamed, ← get?]
    by_cases hk : fresh.key = name.foldCase
    · rw [h.get?_congr (show name.foldCase = fresh.name.foldCase from hk.symm), hf, if_pos hk]
      simp [Field.named_iff.2 (key_of_get? hf)]
    · rw [if_neg hk]
      cases hg : h.get? name with
      | none => rfl
      | some g =>
        have hgf : ¬g.named fresh.name := by
          rw [Field.named_iff, key_of_get? hg]
          exact fun h => hk h.symm
        simp [hgf]

end Alter

theorem get?_add (h : Headers) (name value : Text) (line : Nat) (other : Text) :
    (h.add name value line).get? other
      = if name.foldCase = other.foldCase then
          some ((h.get? other).elim { name, first := value, line } (Field.push value))
        else h.get? other :=
  get?_alter h _ _ _ other

theorem get?_put (h : Headers) (f : Field) (name : Text) :
    (h.put f).get? name = if f.key = name.foldCase then some f else h.get? name := by
  refine (get?_alter h f _ _ name).trans ?_
  by_cases hk : f.key = name.foldCase
  · rw [if_pos hk, if_pos hk]
    cases h.get? name <;> rfl
  · rw [if_neg hk, if_neg hk]

theorem get?_set (h : Headers) (name value other : Text) :
    (h.set name value).get? other
      = if name.foldCase = other.foldCase then
          some { name, first := value, line := ((h.get? name).map Field.line).getD 0 }
        else h.get? other :=
  get?_put h _ other

theorem fields_add_of_none {h : Headers} {name value : Text} {line : Nat}
    (hn : h.get? name = none) :
    (h.add name value line).fields = h.fields ++ [{ name, first := value, line }] :=
  fields_alter_of_none h { name, first := value, line } _ _ hn

theorem fields_add_of_some {h : Headers} {name value : Text} {line : Nat} {f : Field}
    (hf : h.get? name = some f) :
    (h.add name value line).fields = h.fields.map fun g => if g.named name then g.push value else g :=
  fields_alter_of_some h { name, first := value, line } _ _ hf

theorem fields_put_of_none {h : Headers} {f : Field} (hf : h.get? f.name = none) :
    (h.put f).fields = h.fields ++ [f] :=
  fields_alter_of_none h f _ _ hf

theorem fields_put_of_some {h : Headers} {f g : Field} (hg : h.get? f.name = some g) :
    (h.put f).fields = h.fields.map fun g => if g.named f.name then f else g :=
  fields_alter_of_some h f _ _ hg

/-- A field that is there gets its one value where it stands. -/
theorem fields_set_of_some {h : Headers} {name value : Text} {f : Field} (hf : h.get? name = some f) :
    (h.set name value).fields
      = h.fields.map fun g => if g.named name then { name, first := value, line := g.line } else g := by
  rw [set, fields_put_of_some hf]
  refine List.map_congr_left fun g hg => ?_
  by_cases hnamed : g.named name
  · rw [if_pos hnamed, if_pos hnamed, h.get?_of_mem hg hnamed]
    rfl
  · rw [if_neg hnamed, if_neg hnamed]

end Headers

/-! ### Blocks without lines -/

namespace Field

theorem value_of_others_nil {f : Field} (h : f.others = []) : f.value = f.first := by
  rw [Field.value, values, h, List.intercalate_singleton]

theorem single?_eq_some_iff {f : Field} {value : Text} :
    f.single? = some value ↔ f.values = [value] ∧ ',' ∉ value := by
  obtain ⟨name, first, others, line⟩ := f
  simp only [single?, values, List.cons.injEq]
  constructor
  · intro h
    split at h
    · rename_i hf
      cases h
      exact ⟨⟨rfl, hf.1⟩, hf.2⟩
    · cases h
  · rintro ⟨⟨rfl, rfl⟩, hcomma⟩
    rw [if_pos ⟨rfl, hcomma⟩]

theorem value_of_single (name value : Text) (line : Nat) :
    Field.value { name, first := value, line } = value :=
  value_of_others_nil rfl

/-- A field without the line it was read from. -/
def unplaced (f : Field) : Field := { f with line := 0 }

@[simp] theorem name_unplaced (f : Field) : f.unplaced.name = f.name := rfl

@[simp] theorem value_unplaced (f : Field) : f.unplaced.value = f.value := rfl

@[simp] theorem named_unplaced (name : Text) (f : Field) : f.unplaced.named name = f.named name := rfl

end Field

namespace Headers

/-- A block without the lines it was read from. -/
def unplaced (h : Headers) : Headers where
  fields := h.fields.map Field.unplaced
  distinct := by
    rw [List.map_map]
    exact h.distinct

theorem get?_unplaced (h : Headers) (name : Text) :
    h.unplaced.get? name = (h.get? name).map Field.unplaced := by
  rw [get?, unplaced, List.find?_map]
  rfl

theorem value?_unplaced (h : Headers) (name : Text) : h.unplaced.value? name = h.value? name := by
  rw [value?, get?_unplaced, Option.map_map, value?]
  rfl

/-- Lines do not matter for a change that does not look at them. -/
theorem unplaced_alter (h : Headers) (fresh : Field) {change change' : Field → Field}
    (keeps : ∀ f : Field, f.named fresh.name → (change f).key = f.key)
    (keeps' : ∀ f : Field, f.named fresh.name → (change' f).key = f.key)
    (hc : ∀ f, (change f).unplaced = change' f.unplaced) :
    (h.alter fresh change keeps).unplaced = h.unplaced.alter fresh.unplaced change' keeps' := by
  refine ext_fields ?_ rfl
  show (h.alter fresh change keeps).fields.map Field.unplaced = _
  cases hf : h.get? fresh.name with
  | none =>
    have hf' : h.unplaced.get? fresh.unplaced.name = none := by
      rw [get?_unplaced, Field.name_unplaced, hf]
      rfl
    rw [fields_alter_of_none h fresh change keeps hf,
      fields_alter_of_none h.unplaced fresh.unplaced change' keeps' hf', List.map_append]
    rfl
  | some f =>
    have hf' : h.unplaced.get? fresh.unplaced.name = some f.unplaced := by
      rw [get?_unplaced, Field.name_unplaced, hf]
      rfl
    rw [fields_alter_of_some h fresh change keeps hf,
      fields_alter_of_some h.unplaced fresh.unplaced change' keeps' hf', unplaced, List.map_map,
      List.map_map]
    refine List.map_congr_left fun g _ => ?_
    by_cases hg : g.named fresh.name
    · simp [hg, hc]
    · simp [hg]

theorem unplaced_add (h : Headers) (name value : Text) (line : Nat) :
    (h.add name value line).unplaced = h.unplaced.add name value :=
  unplaced_alter h { name, first := value, line } _ _ fun _ => rfl

theorem unplaced_put (h : Headers) (f : Field) : (h.put f).unplaced = h.unplaced.put f.unplaced :=
  unplaced_alter h f _ _ fun _ => rfl

/-- The block that names and values make, added in order. -/
def ofList (pairs : List (Text × Text)) : Headers :=
  pairs.foldl (fun h p => h.add p.1 p.2) (.atLine 0)

theorem ofList_concat (pairs : List (Text × Text)) (p : Text × Text) :
    ofList (pairs ++ [p]) = (ofList pairs).add p.1 p.2 := by
  rw [ofList, List.foldl_append]
  rfl

/-- The values given with a name, in whatever spelling. -/
def given (pairs : List (Text × Text)) (name : Text) : List Text :=
  (pairs.filter fun p => p.1.foldCase = name.foldCase).map Prod.snd

/-- **Under a name stand the values given with it**, in order. -/
theorem values_ofList (pairs : List (Text × Text)) (name : Text) :
    (((ofList pairs).get? name).map Field.values).getD [] = given pairs name := by
  rw [given]
  induction pairs using List.reverseRecOn with
  | nil => rfl
  | append_singleton pairs p ih =>
    rw [ofList_concat, get?_add, List.filter_append, List.map_append, ← ih]
    by_cases hk : p.1.foldCase = name.foldCase
    · rw [if_pos hk]
      cases (ofList pairs).get? name <;> simp [hk, Field.values, Field.push]
    · rw [if_neg hk]
      simp [hk]

theorem get?_ofList_eq_none_iff {pairs : List (Text × Text)} {name : Text} :
    (ofList pairs).get? name = none ↔ given pairs name = [] := by
  rw [← values_ofList]
  cases (ofList pairs).get? name with
  | none => exact ⟨fun _ => rfl, fun _ => rfl⟩
  | some f => exact ⟨fun h => (nomatch h), fun h => (nomatch h)⟩

theorem get?_of_given_nil {h : Headers} {pairs : List (Text × Text)} {name : Text}
    (hh : h.unplaced = ofList pairs) (hg : given pairs name = []) : h.get? name = none := by
  rwa [← get?_ofList_eq_none_iff, ← hh, get?_unplaced, Option.map_eq_none_iff] at hg

/-- A value that is given once stands alone under its name. -/
theorem get?_of_given {h : Headers} {pairs : List (Text × Text)} {name value : Text}
    (hh : h.unplaced = ofList pairs) (hg : given pairs name = [value]) :
    ∃ f, h.get? name = some f ∧ f.first = value ∧ f.others = [] := by
  rw [← values_ofList, ← hh, get?_unplaced, Option.map_map] at hg
  cases hf : h.get? name with
  | none =>
    rw [hf] at hg
    cases hg
  | some f =>
    rw [hf] at hg
    obtain ⟨hfirst, hothers⟩ := List.cons.inj hg
    exact ⟨f, rfl, hfirst, hothers⟩

/-- **Different names make one field each.** -/
theorem fields_ofList {pairs : List (Text × Text)}
    (hd : (pairs.map fun p => p.1.foldCase).Nodup) :
    (ofList pairs).fields = pairs.map fun p => { name := p.1, first := p.2 } := by
  induction pairs using List.reverseRecOn with
  | nil => rfl
  | append_singleton pairs p ih =>
    rw [List.map_append, List.nodup_append] at hd
    have hnone : (ofList pairs).get? p.1 = none := by
      rw [get?_ofList_eq_none_iff, given, List.map_eq_nil_iff, List.filter_eq_nil_iff]
      intro q hq hk
      exact hd.2.2 _ (List.mem_map_of_mem hq) _ (by simp) (of_decide_eq_true hk)
    rw [ofList_concat, fields_add_of_none hnone, ih hd.1, List.map_append]
    rfl

/-! ### The fields of a changed block -/

theorem mem_fields_alter {h : Headers} {fresh : Field} {change : Field → Field}
    {keeps : ∀ f : Field, f.named fresh.name → (change f).key = f.key} {f : Field}
    (hf : f ∈ (h.alter fresh change keeps).fields) :
    f ∈ h.fields ∨ f = fresh ∨ ∃ g ∈ h.fields, f = change g := by
  cases hget : h.get? fresh.name with
  | none =>
    rw [fields_alter_of_none h fresh change keeps hget, List.mem_append, List.mem_singleton] at hf
    exact hf.imp_right .inl
  | some g =>
    rw [fields_alter_of_some h fresh change keeps hget, List.mem_map] at hf
    obtain ⟨g, hg, rfl⟩ := hf
    by_cases hnamed : g.named fresh.name
    · rw [if_pos hnamed]
      exact .inr (.inr ⟨g, hg, rfl⟩)
    · rw [if_neg hnamed]
      exact .inl hg

theorem mem_fields_put {h : Headers} {f g : Field} (hf : f ∈ (h.put g).fields) : f ∈ h.fields ∨ f = g := by
  rcases mem_fields_alter hf with hf | hf | ⟨_, _, hf⟩
  · exact .inl hf
  · exact .inr hf
  · exact .inr hf

/-- Two blocks agree, field by field, in all but the field of one name. -/
structure AgreeBut (name : Text) (g h : Headers) : Prop where
  line : h.line = g.line
  fields : List.Forall₂ (fun f f' => f' = f ∨ f.named name ∧ f'.named name) g.fields h.fields

theorem AgreeBut.refl (name : Text) (h : Headers) : AgreeBut name h h where
  line := rfl
  fields := List.forall₂_same.2 fun _ _ => .inl rfl

/-- Blocks that agree in all other fields answer other names alike. -/
theorem AgreeBut.get?_eq {name other : Text} {g h : Headers} (hagree : AgreeBut name g h)
    (hother : name.foldCase ≠ other.foldCase) : h.get? other = g.get? other := by
  have hunnamed : ∀ f : Field, f.named name → ¬f.named other := by
    intro f hf
    rw [Field.named_iff, Field.named_iff.1 hf]
    exact hother
  have hfields := hagree.fields
  rw [get?, get?]
  generalize g.fields = fs, h.fields = fs' at hfields
  induction hfields with
  | nil => rfl
  | @cons f f' fs fs' hpair _ ih =>
    rcases hpair with rfl | ⟨hf, hf'⟩
    · rw [List.find?_cons, List.find?_cons, ih]
    · rw [List.find?_cons_of_neg (hunnamed f hf), List.find?_cons_of_neg (hunnamed f' hf'), ih]

theorem agreeBut_set {h : Headers} {name value : Text} (hname : h.contains name) :
    AgreeBut name h (h.set name value) where
  line := rfl
  fields := by
    obtain ⟨f, hf⟩ := Option.isSome_iff_exists.1 hname
    rw [fields_set_of_some hf, List.forall₂_map_right_iff, List.forall₂_same]
    intro g _
    by_cases hnamed : g.named name
    · rw [if_pos hnamed]
      exact .inr ⟨hnamed, Field.named_iff.2 rfl⟩
    · rw [if_neg hnamed]
      exact .inl rfl

theorem mem_fields_set {h : Headers} {name value : Text} {f : Field}
    (hf : f ∈ (h.set name value).fields) : f ∈ h.fields ∨ f.name = name ∧ f.value = value := by
  rcases mem_fields_put hf with hf | rfl
  · exact .inl hf
  · exact .inr ⟨rfl, Field.value_of_single name value _⟩

end Headers

end BatchExchange
