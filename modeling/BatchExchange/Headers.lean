import BatchExchange.Text

/-!
# Headers

An ordered block of fields with any number of values each.  Names keep their spelling and are looked up
without regard to ASCII case; a block never holds two fields of one name.  A field read from a batch knows
the line of its first occurrence, a field made in code has line `0`.
-/

namespace BatchExchange

/-- A header field.  It has at least one value. -/
structure Field where
  name : Text
  first : Text
  others : List Text := []
  line : Nat := 0
deriving DecidableEq, Repr

namespace Field

/-- What two spellings of one name have in common. -/
def key (f : Field) : Text := f.name.foldCase

def values (f : Field) : List Text := f.first :: f.others

/-- The values as one, separated the way they are written. -/
def value (f : Field) : Text := ", ".toList.intercalate f.values

/-- The value of a field that has only one and is no list. -/
def single? (f : Field) : Option Text :=
  if f.others = [] ∧ ',' ∉ f.first then some f.first else none

def named (name : Text) (f : Field) : Bool := f.key == name.foldCase

def push (value : Text) (f : Field) : Field := { f with others := f.others ++ [value] }

/-- Continues the last value after a space, or without one where the value is empty. -/
def extend (more : Text) (f : Field) : Field :=
  let join (value : Text) : Text := if value = [] then more else value ++ ' ' :: more
  match f.others.getLast? with
  | none => { f with first := join f.first }
  | some value => { f with others := f.others.dropLast ++ [join value] }

theorem named_iff {name : Text} {f : Field} : f.named name ↔ f.key = name.foldCase := by
  simp [named]

@[simp] theorem key_push (value : Text) (f : Field) : (f.push value).key = f.key := rfl

@[simp] theorem key_extend (more : Text) (f : Field) : (f.extend more).key = f.key := by
  unfold extend key
  cases f.others.getLast? <;> rfl

end Field

/-- A block of fields and the line it starts at. -/
structure Headers where
  fields : List Field := []
  line : Nat := 0
  distinct : (fields.map Field.key).Nodup := by simp
deriving DecidableEq, Repr

namespace Headers

theorem ext_fields {g h : Headers} (hf : g.fields = h.fields) (hl : g.line = h.line) : g = h := by
  cases g; cases h; simp_all

/-- The block without fields that starts at `line`. -/
def atLine (line : Nat) : Headers := { line }

def get? (h : Headers) (name : Text) : Option Field := h.fields.find? (Field.named name)

def contains (h : Headers) (name : Text) : Bool := (h.get? name).isSome

/-- The joined value of a field. -/
def value? (h : Headers) (name : Text) : Option Text := (h.get? name).map Field.value

/-- Changes the fields of a name by `change`, which keeps the name, or appends `fresh` if there are none. -/
def alter (h : Headers) (fresh : Field) (change : Field → Field)
    (keeps : ∀ f : Field, f.named fresh.name → (change f).key = f.key) : Headers where
  fields :=
    if h.contains fresh.name then h.fields.map fun f => if f.named fresh.name then change f else f
    else h.fields ++ [fresh]
  line := h.line
  distinct := by
    split
    · rename_i hc
      have : (h.fields.map fun f => if f.named fresh.name then change f else f).map Field.key
          = h.fields.map Field.key := by
        rw [List.map_map]
        refine List.map_congr_left fun f _ => ?_
        by_cases hn : f.named fresh.name <;> simp [hn, keeps]
      rw [this]
      exact h.distinct
    · rename_i hc
      have hc : h.get? fresh.name = none := by simpa [contains] using hc
      rw [List.map_append, List.nodup_append]
      refine ⟨h.distinct, by simp, ?_⟩
      intro k hk k' hk' e
      obtain ⟨f, hf, rfl⟩ := List.mem_map.1 hk
      simp only [List.map_cons, List.map_nil, List.mem_singleton] at hk'
      exact List.find?_eq_none.1 hc f hf (Field.named_iff.2 (e.trans hk'))

/-- Adds a value to the field of that name, or a field with that value. -/
def add (h : Headers) (name value : Text) (line : Nat := 0) : Headers :=
  h.alter { name, first := value, line } (Field.push value) fun _ _ => rfl

/-- Puts `f` in the place of the field of its name, or at the end. -/
def put (h : Headers) (f : Field) : Headers :=
  h.alter f (fun _ => f) fun _ hg => (Field.named_iff.1 hg).symm

/-- Gives a field one value.  A field that was there keeps its place and line. -/
def set (h : Headers) (name value : Text) : Headers :=
  h.put { name, first := value, line := ((h.get? name).map Field.line).getD 0 }

/-- The block without the field of that name. -/
def erase (h : Headers) (name : Text) : Headers where
  fields := h.fields.filter fun f => !f.named name
  line := h.line
  distinct := h.distinct.sublist (List.filter_sublist.map _)

/-- Removes the field of that name and returns it. -/
def take (h : Headers) (name : Text) : Option Field × Headers := (h.get? name, h.erase name)

/-- Continues the last value of the last field. -/
def extendLast (h : Headers) (more : Text) : Headers where
  fields := match h.fields.getLast? with
    | none => []
    | some f => h.fields.dropLast ++ [f.extend more]
  line := h.line
  distinct := by
    split
    · simp
    · rename_i f hf
      rw [List.getLast?_eq_some_iff] at hf
      obtain ⟨init, hi⟩ := hf
      have := h.distinct
      rw [hi] at this ⊢
      simpa using this

end Headers

end BatchExchange
