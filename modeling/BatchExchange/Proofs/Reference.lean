import BatchExchange.Proofs.Text
import BatchExchange.References
import Mathlib.Data.List.Forall2

/-!
# References in paths and bodies

A path refers to a resource with its first segment, and a body with the tokens that it is split into.  What is
found in them is what stands there.

* `Reference.Leads`: a path with a reference in front.
* `Request.pathReference?_eq_some_iff`: what the path of a request refers to.
* `Reference.IsSplit`: a text in pieces, each token as long as it can be.
* `Reference.isSplit_iff`: there is one such split.
* `Reference.Piece.ResolvesTo`, `Reference.Piece.Stands`: what a token refers to, and what stands for a piece.
* `Reference.Piece.stands_iff`: there is one such text.
-/

namespace BatchExchange

theorem ReferenceTable.get?_of_entries_nil {table : ReferenceTable} (h : table.entries = []) (id : Text) :
    table.get? id = none := by
  rw [get?, h, List.lookup_nil]

namespace Reference

/-! ### Paths -/

/-- A path whose first segment refers to `id`, with `rest` behind it.  Any number of slashes may lead it. -/
structure Leads (path id rest : Text) : Prop where
  split : ∃ n, path = List.replicate n '/' ++ '$' :: (id ++ rest)
  segment : '/' ∉ id
  ends : rest = [] ∨ rest.head? = some '/'

theorem leads_iff {path id rest : Text} : Leads path id rest ↔ cutSegment path = ('$' :: id, rest) := by
  constructor
  · rintro ⟨⟨n, rfl⟩, hsegment, hends⟩
    have hslashes : ∀ c ∈ List.replicate n '/', decide (c = '/') := fun c hc =>
      decide_eq_true (List.eq_of_mem_replicate hc)
    have hinside : ∀ c ∈ '$' :: id, decide (c ≠ '/') := by
      rw [List.forall_mem_cons]
      exact ⟨by decide, fun c hc => decide_eq_true fun e => hsegment (e ▸ hc)⟩
    have hrest : ∀ c ∈ rest.head?, decide (c ≠ '/') = false := by
      rcases hends with rfl | hhead
      · simp
      · simp [hhead]
    rw [cutSegment, dropWhile_append_of_ends hslashes (by simp), ← List.cons_append,
      takeWhile_append_of_ends hinside hrest,
      dropWhile_append_of_ends hinside hrest]
  · intro h
    obtain ⟨hid, hrest⟩ := Prod.mk.inj h
    have hpath : path.dropWhile (· = '/') = '$' :: (id ++ rest) := by
      rw [← hrest, ← List.cons_append, ← hid, List.takeWhile_append_dropWhile]
    have hslashes : path.takeWhile (· = '/') = List.replicate (path.takeWhile (· = '/')).length '/' :=
      List.eq_replicate_of_mem fun c hc => of_decide_eq_true (List.mem_takeWhile_imp (p := (· = '/')) hc)
    refine ⟨⟨(path.takeWhile (· = '/')).length, ?_⟩, ?_, ?_⟩
    · rw [← hslashes, ← hpath, List.takeWhile_append_dropWhile]
    · intro hmem
      have hslash := List.mem_cons_of_mem '$' hmem
      rw [← hid] at hslash
      exact of_decide_eq_true (List.mem_takeWhile_imp (p := (· ≠ '/')) hslash) rfl
    · rw [← hrest]
      cases hhead : (List.dropWhile (· ≠ '/') (path.dropWhile (· = '/'))).head? with
      | none => exact .inl (List.head?_eq_none_iff.1 hhead)
      | some c =>
        have hc := not_of_mem_head?_dropWhile c hhead
        rw [decide_eq_false_iff_not, Classical.not_not] at hc
        rw [hc]
        exact .inr rfl

/-! ### Bodies -/

/-- A text in pieces, from left to right: a token begins with `$`, goes on with characters of a Content-ID as
far as there are any, and has at least one. -/
inductive IsSplit : Text → List Piece → Prop
  | nil : IsSplit [] []
  | plain {c : Char} {t : Text} {ps : List Piece} (lone : c = '$' → ∀ d ∈ t.head?, isIdChar d = false)
      (rest : IsSplit t ps) : IsSplit (c :: t) (.plain c :: ps)
  | token {id t : Text} {ps : List Piece} (filled : id ≠ []) (inside : ∀ c ∈ id, isIdChar c)
      (ends : ∀ d ∈ t.head?, isIdChar d = false) (rest : IsSplit t ps) :
      IsSplit ('$' :: (id ++ t)) (.token id :: ps)

/-- The pieces of a text make it up. -/
theorem IsSplit.flatMap_text {t : Text} {ps : List Piece} (h : IsSplit t ps) : ps.flatMap Piece.text = t := by
  induction h with
  | nil => rfl
  | plain lone rest ih => rw [List.flatMap_cons, ih]; rfl
  | token filled inside ends rest ih => rw [List.flatMap_cons, ih]; rfl

theorem isSplit_pieces (t : Text) : IsSplit t (pieces t) := by
  fun_induction pieces t with
  | case1 => exact .nil
  | case2 c t h ih =>
    obtain ⟨rfl, hid⟩ := h
    have htoken := IsSplit.token hid (fun c hc => List.mem_takeWhile_imp hc) not_of_mem_head?_dropWhile ih
    rwa [List.takeWhile_append_dropWhile] at htoken
  | case3 c t h ih =>
    refine .plain (fun hc d hd => ?_) ih
    rw [not_and, Classical.not_not] at h
    cases t with
    | nil => cases hd
    | cons e t =>
      obtain rfl : e = d := Option.some.inj hd
      by_contra hidchar
      rw [Bool.not_eq_false] at hidchar
      have hempty := h hc
      rw [List.takeWhile_cons, if_pos hidchar] at hempty
      cases hempty

/-- **A text is split in one way.** -/
theorem isSplit_iff {t : Text} {ps : List Piece} : IsSplit t ps ↔ ps = pieces t := by
  constructor
  · intro h
    induction h with
    | nil => rw [pieces]
    | @plain c t ps lone rest ih =>
      have hlone : ¬(c = '$' ∧ t.takeWhile isIdChar ≠ []) := by
        rintro ⟨hc, hid⟩
        have hempty := takeWhile_append_of_ends (l := []) (by simp) (lone hc)
        exact hid hempty
      rw [pieces, if_neg hlone, ih]
    | @token id t ps filled inside ends rest ih =>
      rw [pieces, takeWhile_append_of_ends inside ends, dropWhile_append_of_ends inside ends,
        if_pos ⟨rfl, filled⟩, ih]
  · rintro rfl
    exact isSplit_pieces t

namespace Piece

/-- What a token refers to: the location of its Content-ID, or, where there is none, that of the Content-ID
in front of the periods at its end, which stay. -/
inductive ResolvesTo (table : ReferenceTable) : Piece → Text → Prop
  | known {id location : Text} (h : table.get? id = some location) : ResolvesTo table (.token id) location
  | stem {id location : Text} {n : Nat} (unknown : table.get? (id ++ List.replicate (n + 1) '.') = none)
      (filled : id ≠ []) (trimmed : id.getLast? ≠ some '.') (h : table.get? id = some location) :
      ResolvesTo table (.token (id ++ List.replicate (n + 1) '.')) (location ++ List.replicate (n + 1) '.')

theorem resolve?_eq_some_iff {table : ReferenceTable} {p : Piece} {t : Text} :
    p.resolve? table = some t ↔ p.ResolvesTo table t := by
  constructor
  · intro h
    cases p with
    | plain c => cases h
    | token id =>
      rw [resolve?] at h
      cases hid : table.get? id with
      | some location =>
        rw [hid] at h
        cases h
        exact .known hid
      | none =>
        obtain ⟨n, hsplit⟩ := exists_dropTail_append_replicate '.' id
        have htrimmed := getLast?_dropTail (p := (· = '.')) id
        generalize dropTail (· = '.') id = stem at h hsplit htrimmed
        subst hsplit
        rw [hid] at h
        dsimp only at h
        split at h
        · cases h
        · rename_i hstem
          rw [not_or, List.length_append, List.length_replicate] at hstem
          rw [List.drop_left] at h
          obtain ⟨location, hlocation, rfl⟩ := Option.map_eq_some_iff.1 h
          obtain ⟨k, rfl⟩ : ∃ k, n = k + 1 := Nat.exists_eq_add_one_of_ne_zero (by omega)
          exact .stem hid hstem.1 (fun e => of_decide_eq_false (htrimmed '.' e) rfl) hlocation
  · intro h
    cases h with
    | known h => rw [resolve?, h]
    | @stem id location n unknown filled trimmed h =>
      have hstem : dropTail (· = '.') (id ++ List.replicate (n + 1) '.') = id := by
        rw [dropTail_append_replicate (by decide)]
        exact dropTail_of_getLast? fun c hc => decide_eq_false fun e => trimmed (e ▸ hc)
      rw [resolve?, unknown]
      dsimp only
      rw [hstem, if_neg (by simp [filled]), h, List.drop_left]
      rfl

/-- What stands for a piece when the references are replaced. -/
inductive Stands (table : ReferenceTable) (p : Piece) : Text → Prop
  | resolved {t : Text} (h : p.ResolvesTo table t) : Stands table p t
  | kept (h : ∀ t, ¬p.ResolvesTo table t) : Stands table p p.text

/-- **One text stands for a piece.** -/
theorem stands_iff {table : ReferenceTable} {p : Piece} {t : Text} :
    p.Stands table t ↔ t = p.expand table := by
  rw [expand]
  constructor
  · intro h
    cases h with
    | resolved h => rw [resolve?_eq_some_iff.2 h, Option.getD_some]
    | kept h =>
      have hnone : p.resolve? table = none :=
        Option.eq_none_iff_forall_ne_some.2 fun t ht => h t (resolve?_eq_some_iff.1 ht)
      rw [hnone, Option.getD_none]
  · rintro rfl
    cases hresolve : p.resolve? table with
    | some t => exact .resolved (resolve?_eq_some_iff.1 hresolve)
    | none =>
      refine .kept fun t ht => ?_
      rw [resolve?_eq_some_iff.2 ht] at hresolve
      cases hresolve

theorem forall₂_stands_iff {table : ReferenceTable} {ps : List Piece} {texts : List Text} :
    List.Forall₂ (Stands table) ps texts ↔ texts = ps.map (expand table) := by
  induction ps generalizing texts with
  | nil => rw [List.forall₂_nil_left_iff, List.map_nil]
  | cons p ps ih =>
    rw [List.forall₂_cons_left_iff, List.map_cons]
    constructor
    · rintro ⟨text, rest, hp, hps, rfl⟩
      rw [stands_iff.1 hp, ih.1 hps]
    · intro h
      exact ⟨_, _, stands_iff.2 rfl, ih.2 rfl, h⟩

end Piece

end Reference

namespace Request

open Reference

/-- **What the path of a request refers to**: a location and the rest of the path. -/
theorem pathReference?_eq_some_iff {table : ReferenceTable} {r : Request} {location rest : Text} :
    r.pathReference? table = some (location, rest) ↔
      ∃ id, Leads r.path id rest ∧ table.get? id = some location := by
  obtain ⟨⟨segment, rest'⟩, hcut⟩ : ∃ pieces, cutSegment r.path = pieces := ⟨_, rfl⟩
  rw [pathReference?, hcut]
  simp only [leads_iff, hcut, Option.map_eq_some_iff, Option.bind_eq_some_iff, after?_eq_some_iff, Prod.mk.injEq]
  constructor
  · rintro ⟨_, ⟨id, rfl, hid⟩, rfl, rfl⟩
    exact ⟨id, ⟨rfl, rfl⟩, hid⟩
  · rintro ⟨id, ⟨rfl, rfl⟩, hid⟩
    exact ⟨location, ⟨id, rfl, hid⟩, rfl, rfl⟩

end Request

end BatchExchange
