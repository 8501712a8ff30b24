import BatchExchange.Part
import Mathlib.Data.List.Forall2

/-!
# Readings that succeed

A reading in steps succeeds when each of its steps does, and a list is read member by member.  What is read
has the shape of what was written: `Part.Rel` relates single items to single items and change sets to change
sets of the same length.

* `Outcome.bind_eq_ok`, `Outcome.mapM_eq_ok_iff`: readings in steps, and of lists.
* `Outcome.mapM_eq_error`: a list is refused for the first of its members that is.
* `Outcome.bind_eq_map`, `Outcome.mapM_eq_map`: reading what was changed as changing what was read, step by step.
* `Outcome.Refines`: one reading gives what another gives, step by step (`Refines.bind`).
-/

namespace BatchExchange

/-- Parts of one shape with related items. -/
inductive Part.Rel {α β : Type} (R : α → β → Prop) : Part α → Part β → Prop
  | single {a : α} {b : β} (h : R a b) : Rel R (.single a) (.single b)
  | changeSet {as : List α} {bs : List β} (h : List.Forall₂ R as bs) :
      Rel R (.changeSet as) (.changeSet bs)

end BatchExchange

namespace BatchExchange.Outcome

variable {ε α β γ : Type}

theorem bind_eq_ok {x : Except ε α} {f : α → Except ε β} {b : β} :
    x >>= f = .ok b ↔ ∃ a, x = .ok a ∧ f a = .ok b := by
  cases x with
  | error e => exact ⟨fun h => (nomatch h), fun ⟨_, h, _⟩ => (nomatch h)⟩
  | ok a => exact ⟨fun h => ⟨a, rfl, h⟩, fun ⟨_, h, hf⟩ => by cases h; exact hf⟩

/-- A check that refuses what does not meet its condition. -/
theorem ite_eq_ok_iff {c : Prop} [Decidable c] {e : ε} :
    (if c then .ok () else .error e : Except ε Unit) = .ok () ↔ c := by
  by_cases hc : c
  · rw [if_pos hc]
    exact ⟨fun _ => hc, fun _ => rfl⟩
  · rw [if_neg hc]
    exact ⟨fun h => (nomatch h), fun h => absurd h hc⟩

theorem mapError_eq_ok {δ : Type} {x : Except ε α} {f : ε → δ} {a : α} :
    x.mapError f = .ok a ↔ x = .ok a := by
  cases x with
  | error e => exact ⟨fun h => (nomatch h), fun h => (nomatch h)⟩
  | ok b =>
    show Except.ok b = Except.ok a ↔ _
    rw [Except.ok.injEq, Except.ok.injEq]

theorem map_id_eq (x : Except ε α) : x.map (fun a => a) = x := by
  cases x <;> rfl

theorem map_map (x : Except ε α) (f : α → β) (g : β → γ) : (x.map f).map g = x.map fun a => g (f a) := by
  cases x <;> rfl

/-- A step that is taken on a condition only. -/
theorem ite_bind_eq_ok {c : Prop} [Decidable c] {x : Except ε Unit} {f : Unit → Except ε β} {b : β} :
    (if c then x >>= f else f ()) = .ok b ↔ (c → x = .ok ()) ∧ f () = .ok b := by
  by_cases hc : c
  · rw [if_pos hc, bind_eq_ok]
    exact ⟨fun ⟨_, h, hf⟩ => ⟨fun _ => h, hf⟩, fun ⟨h, hf⟩ => ⟨(), h hc, hf⟩⟩
  · rw [if_neg hc]
    exact ⟨fun h => ⟨fun hc' => absurd hc' hc, h⟩, fun h => h.2⟩

/-- **A list is read when each member is.** -/
theorem mapM_eq_ok_iff {f : α → Except ε β} {l : List α} {out : List β} :
    l.mapM f = .ok out ↔ List.Forall₂ (fun a b => f a = .ok b) l out := by
  induction l generalizing out with
  | nil =>
    rw [List.forall₂_nil_left_iff]
    exact ⟨fun h => (Except.ok.inj h).symm, fun h => h ▸ rfl⟩
  | cons a l ih =>
    rw [List.mapM_cons, bind_eq_ok, List.forall₂_cons_left_iff]
    constructor
    · rintro ⟨b, hb, h⟩
      obtain ⟨bs, hbs, h⟩ := bind_eq_ok.1 h
      exact ⟨b, bs, hb, ih.1 hbs, (Except.ok.inj h).symm⟩
    · rintro ⟨b, bs, hb, hbs, rfl⟩
      exact ⟨b, hb, bind_eq_ok.2 ⟨bs, ih.2 hbs, rfl⟩⟩

/-- **A list is refused for its first member that is.** -/
theorem mapM_eq_error {f : α → Except ε β} {before after : List α} {a : α} {e : ε}
    (hbefore : ∀ x ∈ before, ∃ b, f x = .ok b) (ha : f a = .error e) :
    (before ++ a :: after).mapM f = .error e := by
  induction before with
  | nil =>
    rw [List.nil_append, List.mapM_cons, ha]
    rfl
  | cons x before ih =>
    rw [List.forall_mem_cons] at hbefore
    obtain ⟨b, hb⟩ := hbefore.1
    rw [List.cons_append, List.mapM_cons, hb, ih hbefore.2]
    rfl

/-- Related members stay related by what follows for each member on the right. -/
theorem forall₂_imp_of_mem {R S : α → γ → Prop} {l : List α} {cs : List γ}
    (h : List.Forall₂ R l cs) (hS : ∀ a, ∀ c ∈ cs, R a c → S a c) : List.Forall₂ S l cs := by
  induction h with
  | nil => exact .nil
  | cons hR _ ih =>
    exact .cons (hS _ _ (by simp) hR) (ih fun a c hc => hS a c (by simp [hc]))

/-- Related members of related members. -/
theorem forall₂_trans {R : α → β → Prop} {S : β → γ → Prop} {T : α → γ → Prop}
    (hT : ∀ a b c, R a b → S b c → T a c) {l : List α} {bs : List β} {cs : List γ}
    (h : List.Forall₂ R l bs) (h' : List.Forall₂ S bs cs) : List.Forall₂ T l cs := by
  induction h generalizing cs with
  | nil =>
    rw [List.forall₂_nil_left_iff] at h'
    rw [h']
    exact .nil
  | cons hR _ ih =>
    obtain ⟨c, cs, hS, hcs, rfl⟩ := List.forall₂_cons_left_iff.1 h'
    exact .cons (hT _ _ _ hR hS) (ih hcs)

theorem map_eq_map_of_forall₂ {R : α → γ → Prop} {f : α → β} {g : γ → β} {l : List α} {cs : List γ}
    (h : List.Forall₂ R l cs) (hfg : ∀ a c, R a c → f a = g c) : l.map f = cs.map g := by
  rw [← List.forall₂_eq_eq_eq, List.forall₂_map_left_iff, List.forall₂_map_right_iff]
  exact h.imp hfg

theorem exists_of_mem_left {R : α → γ → Prop} {l : List α} {cs : List γ} (h : List.Forall₂ R l cs)
    {a : α} (ha : a ∈ l) : ∃ c ∈ cs, R a c := by
  induction h with
  | nil => cases ha
  | cons hR _ ih =>
    rcases List.mem_cons.1 ha with rfl | ha
    · exact ⟨_, List.mem_cons_self, hR⟩
    · obtain ⟨c, hc, hac⟩ := ih ha
      exact ⟨c, List.mem_cons_of_mem _ hc, hac⟩

theorem exists_of_mem_right {R : α → γ → Prop} {l : List α} {cs : List γ} (h : List.Forall₂ R l cs)
    {c : γ} (hc : c ∈ cs) : ∃ a ∈ l, R a c :=
  exists_of_mem_left h.flip hc

/-- A member on the right has one on the left in the same place. -/
theorem exists_getElem?_eq_some {R : α → γ → Prop} {l : List α} {cs : List γ} (h : List.Forall₂ R l cs)
    {k : Nat} {c : γ} (hc : cs[k]? = some c) : ∃ a, l[k]? = some a ∧ R a c := by
  obtain ⟨hk, rfl⟩ := List.getElem?_eq_some_iff.1 hc
  have hl : k < l.length := by rwa [h.length_eq]
  exact ⟨l[k], List.getElem?_eq_getElem hl, h.get hl hk⟩

theorem exists_mapM_eq_ok {f : α → Except ε β} {R : γ → β → Prop} {l : List α} {cs : List γ}
    (h : List.Forall₂ (fun a c => ∃ b, f a = .ok b ∧ R c b) l cs) :
    ∃ out, l.mapM f = .ok out ∧ List.Forall₂ R cs out := by
  induction h with
  | nil => exact ⟨[], rfl, .nil⟩
  | cons hb _ ih =>
    obtain ⟨b, hf, hR⟩ := hb
    obtain ⟨out, hout, hall⟩ := ih
    refine ⟨b :: out, ?_, .cons hR hall⟩
    rw [mapM_eq_ok_iff] at hout ⊢
    exact .cons hf hout

/-! ### Readings of changed inputs -/

/-- **A step commutes with a change** when what it begins with does, and what it goes on to. -/
theorem bind_eq_map {δ : Type} {x : Except ε α} {y : Except ε β} {f : α → Except ε γ} {g : β → Except ε δ} {a : α → β}
    {b : γ → δ} (hxy : y = x.map a) (hfg : ∀ v, x = .ok v → g (a v) = (f v).map b) :
    y >>= g = (x >>= f).map b := by
  subst hxy
  cases x with
  | error e => rfl
  | ok v => exact hfg v rfl

/-- The same of a step that begins with what the change does not reach. -/
theorem same_bind_eq_map {δ : Type} (x : Except ε α) {f : α → Except ε γ} {g : α → Except ε δ} {b : γ → δ}
    (hfg : ∀ v, x = .ok v → g v = (f v).map b) : x >>= g = (x >>= f).map b :=
  bind_eq_map (map_id_eq x).symm hfg

/-- The same of a step that is taken on a condition only. -/
theorem ite_bind_eq_map {c : Prop} [Decidable c] {x : Except ε Unit} {f : Unit → Except ε α} {g : Unit → Except ε β}
    {b : α → β} (hfg : g () = (f ()).map b) :
    (if c then x >>= g else g ()) = (if c then x >>= f else f ()).map b := by
  split
  · exact same_bind_eq_map x fun _ _ => hfg
  · exact hfg

theorem mapM_eq_map {δ : Type} {f : α → Except ε γ} {g : β → Except ε δ} {a : α → β} {b : γ → δ} {l : List α}
    (hfg : ∀ v ∈ l, g (a v) = (f v).map b) : (l.map a).mapM g = (l.mapM f).map (List.map b) := by
  induction l with
  | nil => rfl
  | cons v l ih =>
    rw [List.forall_mem_cons] at hfg
    rw [List.map_cons, List.mapM_cons, List.mapM_cons]
    exact bind_eq_map hfg.1 fun _ _ => bind_eq_map (ih hfg.2) fun _ _ => rfl

/-! ### Refinement -/

/-- Whatever `x` gives, `y` gives too. -/
def Refines (x y : Except ε α) : Prop := ∀ a, x = .ok a → y = .ok a

theorem Refines.refl (x : Except ε α) : Refines x x := fun _ h => h

theorem refines_error (e : ε) (y : Except ε α) : Refines (.error e) y := fun _ h => (nomatch h)

/-- **Steps that refine each other refine in sequence.** -/
theorem Refines.bind {x y : Except ε α} {f g : α → Except ε β} (h : Refines x y)
    (hfg : ∀ a, Refines (f a) (g a)) : Refines (x >>= f) (y >>= g) := by
  intro b hb
  obtain ⟨a, ha, hb⟩ := bind_eq_ok.1 hb
  exact bind_eq_ok.2 ⟨a, h a ha, hfg a b hb⟩

theorem refines_mapM {f g : α → Except ε β} (hfg : ∀ a, Refines (f a) (g a)) (l : List α) :
    Refines (l.mapM f) (l.mapM g) := by
  intro out hout
  rw [mapM_eq_ok_iff] at hout ⊢
  exact hout.imp fun a b h => hfg a b h

end BatchExchange.Outcome
