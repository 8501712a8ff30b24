import BatchExchange.Proofs.Request.Expansion
import BatchExchange.Proofs.Target

/-!
# Where a reference in the path leads

A reference in front of a path is replaced by the place of what it refers to: within the service, if its location
is that of the service or below it, and else the location as it is.  A location that goes on in the middle of the
last segment of the service is not below it, and yet it is cut there.

* `Reference.IsPlace`: the place of a location in a service.
* `Reference.IsCut`: a location beside the service that begins as the service does.
* `Reference.relativeTo_eq_iff`: which locations are brought to their place.
* `Request.path_expand_iff`: the path and the URI of a request with a reference in front.
-/

namespace BatchExchange

namespace Reference

/-- The place of a location in the service of `base`.  A location that is not in the service is taken as a path. -/
inductive IsPlace (base : Text) : Text → Text → Prop
  | root : IsPlace base base ['/']
  | inside (p : Text) : IsPlace base (base ++ '/' :: p) ('/' :: p)
  | rooted {location : Text} (hroot : location ≠ base) (hinside : ∀ p, location ≠ base ++ '/' :: p)
      (hslash : location.head? = some '/') : IsPlace base location location
  | foreign {location : Text} (hroot : location ≠ base) (hinside : ∀ p, location ≠ base ++ '/' :: p)
      (hslash : location.head? ≠ some '/') : IsPlace base location ('/' :: location)

theorem exists_isPlace (base location : Text) : ∃ place, IsPlace base location place := by
  by_cases hroot : location = base
  · rw [hroot]
    exact ⟨_, .root⟩
  · by_cases hinside : ∃ p, location = base ++ '/' :: p
    · obtain ⟨p, rfl⟩ := hinside
      exact ⟨_, .inside p⟩
    · rw [not_exists] at hinside
      by_cases hslash : location.head? = some '/'
      · exact ⟨_, .rooted hroot hinside hslash⟩
      · exact ⟨_, .foreign hroot hinside hslash⟩

/-- A location that begins with `base` and goes on within its last segment. -/
def IsCut (base location : Text) : Prop := ∃ c t, c ≠ '/' ∧ location = base ++ c :: t

section Base

variable {base : Text} (hbase : base ≠ []) (htrimmed : base.getLast? ≠ some '/')

include hbase htrimmed

/-- What begins with the base is cut behind it. -/
theorem relativeTo_append (rest : Text) :
    relativeTo base (base ++ rest) = if rest.head? = some '/' then rest else '/' :: rest := by
  rw [relativeTo, Target.trimSlashes_of_getLast? htrimmed, if_neg hbase, after?_append]
  rfl

theorem relativeTo_of_not_isPrefix {location : Text} (h : ∀ rest, location ≠ base ++ rest) :
    relativeTo base location = if location.head? = some '/' then location else '/' :: location := by
  have hnone : after? base location = none :=
    Option.eq_none_iff_forall_ne_some.2 fun rest hrest => h rest (after?_eq_some_iff.1 hrest)
  rw [relativeTo, Target.trimSlashes_of_getLast? htrimmed, if_neg hbase, hnone]
  rfl

/-- A location that is cut loses the base in front, which its place keeps. -/
theorem not_isPlace_of_isCut {c : Char} (hc : c ≠ '/') (t : Text) :
    ¬IsPlace base (base ++ c :: t) ('/' :: c :: t) := by
  intro h
  have hlength : 0 < base.length := List.length_pos_iff.2 hbase
  generalize hlocation : base ++ c :: t = location at h
  generalize hplace : '/' :: c :: t = place at h
  cases h with
  | root => exact absurd hplace (by simp)
  | inside p =>
    rw [List.cons.injEq] at hplace
    rw [← hplace.2, List.append_cancel_left_eq, List.cons.injEq] at hlocation
    exact hc hlocation.1
  | rooted hroot hinside hslash =>
    -- only the base `/` would be as long as the slash in front
    rw [← hplace] at hlocation
    have hone := congrArg List.length hlocation
    simp only [List.length_append, List.length_cons] at hone
    obtain ⟨d, rfl⟩ := List.length_eq_one_iff.1 (show base.length = 1 by omega)
    rw [List.singleton_append, List.cons.injEq] at hlocation
    exact htrimmed (by rw [hlocation.1]; rfl)
  | foreign hroot hinside hslash =>
    have hlong := congrArg List.length hplace
    rw [← hlocation] at hlong
    simp only [List.length_cons, List.length_append] at hlong
    omega

/-- **A location is brought to its place** unless it is cut. -/
theorem relativeTo_eq_iff {location place : Text} (h : IsPlace base location place) :
    relativeTo base location = place ↔ ¬IsCut base location := by
  constructor
  · rintro rfl ⟨c, t, hc, rfl⟩
    rw [relativeTo_append hbase htrimmed, List.head?_cons, if_neg (by simpa using hc)] at h
    exact not_isPlace_of_isCut hbase htrimmed hc t h
  · intro hcut
    have houtside : location ≠ base → (∀ p, location ≠ base ++ '/' :: p) → ∀ rest, location ≠ base ++ rest := by
      rintro hroot hinside rest rfl
      cases rest with
      | nil => exact hroot (List.append_nil base)
      | cons c t =>
        by_cases hc : c = '/'
        · rw [hc] at hinside
          exact hinside t rfl
        · exact hcut ⟨c, t, hc, rfl⟩
    cases h with
    | root =>
      have happend := relativeTo_append hbase htrimmed []
      rwa [List.append_nil] at happend
    | inside p => exact relativeTo_append hbase htrimmed _
    | rooted hroot hinside hslash =>
      rw [relativeTo_of_not_isPrefix hbase htrimmed (houtside hroot hinside), if_pos hslash]
    | foreign hroot hinside hslash =>
      rw [relativeTo_of_not_isPrefix hbase htrimmed (houtside hroot hinside), if_neg hslash]

end Base

end Reference

namespace Request

open Reference

/-- **A known reference in front of a path** leads to the place of its location if and only if the location is not
cut in the middle of a segment.  The URI is that of the new path. -/
theorem path_expand_iff {table : ReferenceTable} {r : Request} (hbase : r.base ≠ [])
    (htrimmed : r.base.getLast? ≠ some '/') {id rest location : Text} (hleads : Leads r.path id rest)
    (hid : table.get? id = some location) :
    (∃ place, IsPlace r.base location place) ∧
      (∀ place, IsPlace r.base location place →
        ((r.expand table).path = place ++ rest ↔ ¬IsCut r.base location)) ∧
      (∀ c t, c ≠ '/' → location = r.base ++ c :: t → (r.expand table).path = '/' :: c :: t ++ rest) ∧
      (r.expand table).uri = assemble r.base (r.expand table).path r.query := by
  have hexpand := expandPath_of_leads hleads hid
  have hpath : (r.expand table).path = relativeTo r.base location ++ rest := by
    rw [expand_eq, hexpand]
    rfl
  refine ⟨exists_isPlace r.base location, fun place hplace => ?_, ?_, ?_⟩
  · rw [hpath, List.append_cancel_right_eq, relativeTo_eq_iff hbase htrimmed hplace]
  · rintro c t hc rfl
    rw [hpath, relativeTo_append hbase htrimmed, List.head?_cons, if_neg (by simpa using hc)]
  · rw [expand_eq, hexpand]
    rfl

/-- A reference to what an earlier member made. -/
theorem path_expand_iff_inside :
    let base := "http://host/svc".toList
    let location := base ++ '/' :: "People(5)".toList
    let table := ({} : ReferenceTable).record ['1'] location
    let r := Request.of .patch base "//$1/Trips".toList "$top=1".toList
    base.getLast? ≠ some '/' ∧ Leads r.path ['1'] "/Trips".toList ∧ table.get? ['1'] = some location ∧
      ¬IsCut base location ∧ (r.expand table).path = "/People(5)/Trips".toList ∧
      (r.expand table).uri = "http://host/svc/People(5)/Trips?$top=1".toList := by
  intro base location table r
  have hleads : Leads r.path ['1'] "/Trips".toList := ⟨⟨2, by decide⟩, by decide, .inr (by decide)⟩
  have hid : table.get? ['1'] = some location := by decide
  have hcut : ¬IsCut base location := by
    rintro ⟨c, t, hc, hsplit⟩
    exact hc (List.cons.inj (List.append_cancel_left hsplit)).1.symm
  obtain ⟨-, hplace, -, huri⟩ := path_expand_iff (r := r) (by decide) (by decide) hleads hid
  have hpath := (hplace _ (.inside "People(5)".toList)).2 hcut
  refine ⟨by decide, hleads, hid, hcut, hpath, ?_⟩
  rw [huri, hpath]
  decide

/-- A location of another service, whose name begins as that of the service does, is cut. -/
theorem path_expand_cut :
    let base := "http://host/svc".toList
    let location := "http://host/svcX/People(5)".toList
    let table := ({} : ReferenceTable).record ['1'] location
    let r := Request.of .patch base "/$1".toList
    base.getLast? ≠ some '/' ∧ Leads r.path ['1'] [] ∧ table.get? ['1'] = some location ∧
      IsPlace base location ('/' :: location) ∧ (r.expand table).path = "/X/People(5)".toList ∧
      (r.expand table).path ≠ '/' :: location := by
  intro base location table r
  have houtside : ∀ p, location ≠ base ++ '/' :: p := by
    intro p h
    rw [show location = base ++ "X/People(5)".toList by decide, List.append_cancel_left_eq] at h
    exact absurd (List.cons.inj h).1 (by decide)
  exact ⟨by decide, ⟨⟨1, by decide⟩, by decide, .inl rfl⟩, by decide, .foreign (by decide) houtside (by decide),
    by decide +kernel, by decide +kernel⟩

end Request

end BatchExchange
