import BatchExchange.Proofs.Headers
import BatchExchange.Proofs.Reference

/-!
# What replacing references keeps

Replacing references changes the path of a request, and its URI with it, and the body, and the content length
with it.  It leaves everything else alone, and does nothing to an empty body.

* `Request.expand_eq`: path and body are changed independently.
* `Request.PathRefers`, `Request.BodyRefers`: requests with a known reference in the path or in the body.
* `Request.expand_keeps`: what changes with the one and with the other.
-/

namespace BatchExchange.Request

open Reference

/-! ### Known references -/

/-- The first segment of the path refers to something that the table knows. -/
def PathRefers (table : ReferenceTable) (r : Request) : Prop :=
  ∃ id rest location, Leads r.path id rest ∧ table.get? id = some location

/-- A token of the body refers to something that the table knows. -/
def BodyRefers (table : ReferenceTable) (r : Request) : Prop :=
  ∃ t ps, r.body = Utf8.encode t ∧ IsSplit t ps ∧ ∃ p ∈ ps, ∃ text, p.ResolvesTo table text

theorem pathReference?_eq_none_iff {table : ReferenceTable} {r : Request} :
    r.pathReference? table = none ↔ ¬r.PathRefers table := by
  rw [Option.eq_none_iff_forall_ne_some, PathRefers]
  constructor
  · rintro h ⟨id, rest, location, hleads, hid⟩
    exact h (location, rest) (pathReference?_eq_some_iff.2 ⟨id, hleads, hid⟩)
  · rintro h ⟨location, rest⟩ href
    obtain ⟨id, hleads, hid⟩ := pathReference?_eq_some_iff.1 href
    exact h ⟨id, rest, location, hleads, hid⟩

/-- An empty table knows no reference. -/
theorem not_refers_of_entries_nil {table : ReferenceTable} (h : table.entries = []) (r : Request) :
    ¬r.PathRefers table ∧ ¬r.BodyRefers table := by
  have hnone : ∀ id location, table.get? id ≠ some location := by
    intro id location hid
    rw [ReferenceTable.get?_of_entries_nil h] at hid
    cases hid
  constructor
  · rintro ⟨id, -, location, -, hid⟩
    exact hnone id location hid
  · rintro ⟨-, -, -, -, p, -, text, hresolves⟩
    cases hresolves with
    | known hid => exact hnone _ _ hid
    | stem _ _ _ hid => exact hnone _ _ hid

theorem any_resolve?_iff {table : ReferenceTable} {ps : List Piece} :
    (ps.any fun p => (p.resolve? table).isSome) ↔ ∃ p ∈ ps, ∃ text, p.ResolvesTo table text := by
  simp only [List.any_eq_true, Option.isSome_iff_exists, Piece.resolve?_eq_some_iff]

/-- The body that replacing references makes, if it has a known reference. -/
theorem expandedBody?_eq_some_iff {table : ReferenceTable} {r : Request} {body : Bytes} :
    r.expandedBody? table = some body ↔ ∃ t ps, r.body = Utf8.encode t ∧ IsSplit t ps ∧
      (∃ p ∈ ps, ∃ text, p.ResolvesTo table text) ∧ body = Utf8.encode (ps.flatMap (Piece.expand table)) := by
  rw [expandedBody?]
  constructor
  · intro h
    cases ht : Utf8.decode? r.body with
    | none =>
      rw [ht] at h
      cases h
    | some t =>
      rw [ht, Option.map_some] at h
      dsimp only at h
      split at h
      · rename_i hany
        cases h
        exact ⟨t, pieces t, Utf8.decode?_eq_some_iff.1 ht, isSplit_pieces t, any_resolve?_iff.1 hany, rfl⟩
      · cases h
  · rintro ⟨t, ps, ht, hsplit, hknown, rfl⟩
    rw [Utf8.decode?_eq_some_iff.2 ht, Option.map_some, ← isSplit_iff.1 hsplit]
    dsimp only
    rw [if_pos (any_resolve?_iff.2 hknown)]

theorem expandedBody?_eq_none_iff {table : ReferenceTable} {r : Request} :
    r.expandedBody? table = none ↔ ¬r.BodyRefers table := by
  rw [Option.eq_none_iff_forall_ne_some, BodyRefers]
  simp only [ne_eq, expandedBody?_eq_some_iff]
  constructor
  · rintro h ⟨t, ps, ht, hsplit, hknown⟩
    exact h _ ⟨t, ps, ht, hsplit, hknown, rfl⟩
  · rintro h body ⟨t, ps, ht, hsplit, hknown, -⟩
    exact h ⟨t, ps, ht, hsplit, hknown⟩

/-- There is no reference in an empty body. -/
theorem expandedBody?_of_nil (table : ReferenceTable) {r : Request} (h : r.body = []) :
    r.expandedBody? table = none := by
  rw [expandedBody?, h, show Utf8.decode? [] = some [] from rfl, Option.map_some, Reference.pieces]
  rfl

/-! ### The two replacements -/

theorem expandPath_of_not_refers {table : ReferenceTable} {r : Request} (h : ¬r.PathRefers table) :
    r.expandPath table = r := by
  rw [expandPath, pathReference?_eq_none_iff.2 h]

/-- A reference in front of the path is replaced by the location of what it refers to. -/
theorem expandPath_of_leads {table : ReferenceTable} {r : Request} {id rest location : Text}
    (hleads : Leads r.path id rest) (hid : table.get? id = some location) :
    r.expandPath table = refresh { r with path := relativeTo r.base location ++ rest } := by
  rw [expandPath, pathReference?_eq_some_iff.2 ⟨id, hleads, hid⟩]

/-- Replacing a reference in the path leaves the request alone or gives it another path. -/
theorem expandPath_eq (table : ReferenceTable) (r : Request) :
    r.expandPath table = r ∨ ∃ path, r.expandPath table = refresh { r with path } := by
  rw [expandPath]
  cases r.pathReference? table with
  | none => exact .inl rfl
  | some p => exact .inr ⟨_, rfl⟩

theorem expandBody_of_not_refers {table : ReferenceTable} {r : Request} (h : ¬r.BodyRefers table) :
    r.expandBody table = r := by
  rw [expandBody, expandedBody?_eq_none_iff.2 h]

/-- A request with another body, and with the length of that one if it states a length. -/
def withBody (r : Request) (body : Bytes) : Request where
  __ := r
  body
  headers :=
    if r.headers.contains HeaderName.contentLength then
      r.headers.set HeaderName.contentLength (Decimal.write body.length)
    else r.headers

theorem expandBody_of_some {table : ReferenceTable} {r : Request} {body : Bytes}
    (h : r.expandedBody? table = some body) : r.expandBody table = r.withBody body := by
  rw [expandBody, h]
  rfl

/-- Replacing references in the body leaves the request alone or gives it another body. -/
theorem expandBody_eq (table : ReferenceTable) (r : Request) :
    r.expandBody table = r ∨ ∃ body, r.expandedBody? table = some body ∧ r.expandBody table = r.withBody body := by
  cases hbody : r.expandedBody? table with
  | none => exact .inl (by rw [expandBody, hbody])
  | some body => exact .inr ⟨body, rfl, expandBody_of_some hbody⟩

/-- What the path refers to does not matter for the body. -/
theorem expandedBody?_expandPath (table : ReferenceTable) (r : Request) :
    (r.expandPath table).expandedBody? table = r.expandedBody? table := by
  obtain heq | ⟨path, heq⟩ := expandPath_eq table r
  · rw [heq]
  · rw [heq]
    rfl

/-- **Path and body are changed independently**, and nothing else but what follows them. -/
theorem expand_eq (table : ReferenceTable) (r : Request) :
    r.expand table = {
      r with
      path := (r.expandPath table).path
      uri := (r.expandPath table).uri
      headers := (r.expandBody table).headers
      body := (r.expandBody table).body } := by
  rw [expand]
  split
  · rename_i hempty
    obtain ⟨hpath, hbody⟩ := not_refers_of_entries_nil hempty r
    rw [expandPath_of_not_refers hpath, expandBody_of_not_refers hbody]
  · obtain hpath | ⟨path, hpath⟩ := expandPath_eq table r
    all_goals
      rw [expandBody, expandBody, expandedBody?_expandPath, hpath]
      cases r.expandedBody? table <;> rfl

/-- What holds of a request and is kept by both replacements holds of the request without references. -/
theorem expand_induction {P : Request → Prop} (table : ReferenceTable) {r : Request} (h : P r)
    (hpath : ∀ r, P r → P (r.expandPath table)) (hbody : ∀ r, P r → P (r.expandBody table)) :
    P (r.expand table) := by
  rw [expand]
  split
  · exact h
  · exact hbody _ (hpath _ h)

/-- Only the content length changes among the headers. -/
theorem agreeBut_expandBody (table : ReferenceTable) (r : Request) :
    r.headers.AgreeBut HeaderName.contentLength (r.expandBody table).headers := by
  obtain heq | ⟨body, -, heq⟩ := expandBody_eq table r
  · rw [heq]
    exact .refl _ _
  · rw [heq, withBody]
    dsimp only
    split
    · rename_i hcontains
      exact Headers.agreeBut_set hcontains
    · exact .refl _ _

/-- A member keeps its Content-ID. -/
@[simp] theorem contentId?_expand (table : ReferenceTable) (r : Request) :
    (r.expand table).contentId? = r.contentId? := by
  rw [expand_eq, contentId?, contentId?]
  dsimp only
  rw [(agreeBut_expandBody table r).get?_eq (by decide)]

/-- A known reference in the body changes the content length where it stands, if it is there. -/
theorem fields_expandBody {table : ReferenceTable} {r : Request} (h : r.BodyRefers table) :
    (r.expandBody table).headers.fields = r.headers.fields.map fun f =>
      if f.named HeaderName.contentLength then
        { name := HeaderName.contentLength
          first := Decimal.write (r.expandBody table).body.length
          line := f.line }
      else f := by
  obtain ⟨body, hbody⟩ := Option.ne_none_iff_exists'.1 (mt expandedBody?_eq_none_iff.1 (not_not_intro h))
  rw [expandBody_of_some hbody, withBody]
  dsimp only
  split
  · rename_i hcontains
    obtain ⟨f, hf⟩ := Option.isSome_iff_exists.1 hcontains
    exact Headers.fields_set_of_some hf
  · rename_i hcontains
    have hnone : r.headers.get? HeaderName.contentLength = none := by
      rwa [Headers.contains, Option.not_isSome_iff_eq_none] at hcontains
    refine (List.map_id _).symm.trans (List.map_congr_left fun f hf => ?_)
    rw [if_neg (List.find?_eq_none.1 hnone f hf), id]

/-- **What replacing references keeps.**  The path and the URI change only with a known reference in front of the
path, and the URI stays the one that the pieces make; the body and the content length change only with a known
reference in the body, and the content length is that of the body then, where it stood.  Nothing else changes. -/
theorem expand_keeps (table : ReferenceTable) (r : Request) :
    let s := r.expand table
    (s.method = r.method ∧ s.base = r.base ∧ s.query = r.query ∧ s.resolution = r.resolution ∧
      r.headers.AgreeBut HeaderName.contentLength s.headers) ∧
    (¬r.PathRefers table → s.path = r.path ∧ s.uri = r.uri) ∧
    (¬r.BodyRefers table → s.body = r.body ∧ s.headers = r.headers) ∧
    (¬r.PathRefers table → ¬r.BodyRefers table → s = r) ∧
    (r.BodyRefers table → s.headers.fields = r.headers.fields.map fun f =>
      if f.named HeaderName.contentLength then
        { name := HeaderName.contentLength, first := Decimal.write s.body.length, line := f.line }
      else f) ∧
    (r.uri = assemble r.base r.path r.query → s.uri = assemble s.base s.path s.query) := by
  intro s
  have hs : s = _ := expand_eq table r
  rw [hs]
  refine ⟨⟨rfl, rfl, rfl, rfl, agreeBut_expandBody table r⟩, fun h => ?_, fun h => ?_, fun hp hb => ?_, fun h => ?_,
    fun h => ?_⟩
  · rw [expandPath_of_not_refers h]
    exact ⟨rfl, rfl⟩
  · rw [expandBody_of_not_refers h]
    exact ⟨rfl, rfl⟩
  · rw [expandPath_of_not_refers hp, expandBody_of_not_refers hb]
  · exact fields_expandBody h
  · obtain heq | ⟨path, heq⟩ := expandPath_eq table r
    · rw [heq]
      exact h
    · rw [heq]
      rfl

/-- A request whose path refers to nothing that is known, and whose body does in front of a period. -/
theorem expand_keeps_content_length :
    let table := ({} : ReferenceTable).record ['1'] "/Items(7)".toList
    let r : Request :=
      { Request.of .patch "http://host/svc".toList "/$2/Parts".toList with
        headers := .ofList [("A".toList, ['x']), ("content-length".toList, ['3']), ("B".toList, ['y'])]
        body := Utf8.encode "$1.".toList }
    ¬r.PathRefers table ∧ r.BodyRefers table ∧
      (r.expand table).path = r.path ∧ (r.expand table).body = Utf8.encode "/Items(7).".toList ∧
      (r.expand table).headers.fields.map (fun f => (f.name, f.values)) =
        [("A".toList, [['x']]), ("Content-Length".toList, ["10".toList]), ("B".toList, [['y']])] := by
  intro table r
  have hpath : ¬r.PathRefers table := pathReference?_eq_none_iff.1 (by decide +kernel)
  have hbody : r.BodyRefers table := by
    by_contra hnot
    exact absurd (expandedBody?_eq_none_iff.2 hnot) (by decide +kernel)
  have hnew : (r.expand table).body = Utf8.encode "/Items(7).".toList := by decide +kernel
  obtain ⟨-, hkept, -, -, hfields, -⟩ := expand_keeps table r
  refine ⟨hpath, hbody, (hkept hpath).1, hnew, ?_⟩
  rw [hfields hbody, hnew]
  decide +kernel

end BatchExchange.Request
