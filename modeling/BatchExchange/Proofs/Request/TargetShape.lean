import BatchExchange.Proofs.Request.ContentId
import BatchExchange.Proofs.Target
import BatchExchange.Proofs.Url.Rooted

/-!
# The shape of resolved targets

A target that is resolved has the service root without slashes at its end, and a path without question mark that is
empty or begins with a slash.  One kind of target is an exception: where there is no service root, the path of an
address is taken from the address as it is read, and that of an opaque one begins with no slash.  So root and path
never run into each other.  Of the reader of addresses only this much is assumed: that a path that it finds has no
question mark, and is empty or begins with a slash where the address is not opaque, and only there.

* `Target.Shaped`: the shape, with its exception (`Target.shaped_of_resolve`).
* `Request.Joins`: requests that are made of what their targets resolve to.
* `Request.resolved_shape`: resolved targets, and the requests of accepted batches.
* `Request.unrooted_path`: a target that is resolved to a path without a slash in front.
-/

namespace BatchExchange

open Url (IsRooted IsOpaque)

/-! ### Targets -/

namespace Target

/-- What a target resolves to has the shape that it should have, unless it is an opaque address and there is no
service root. -/
structure Shaped (target base : Text) (t : Target) : Prop where
  base_eq : ∃ n, base = t.base ++ List.replicate n '/'
  base_trimmed : t.base.getLast? ≠ some '/'
  path_query : '?' ∉ t.path
  rooted_iff : IsRooted t.path ↔
    ¬(t.base = [] ∧ isAbsolute (cutQuery target).1 ∧ IsOpaque (cutQuery target).1)

theorem isRooted_withSlash (path : Text) : IsRooted (withSlash path) := by
  rw [withSlash]
  split
  · assumption
  · exact .inr rfl

theorem question_not_mem_withSlash {path : Text} (h : '?' ∉ path) : '?' ∉ withSlash path := by
  rw [withSlash]
  split
  · exact h
  · simp [h]

/-- What follows the root is a rooted end of the path. -/
theorem within?_eq_some {root path rest : Text} (h : within? root path = some rest) :
    path = root ++ rest ∧ IsRooted rest := by
  rw [within?, Option.filter_eq_some_iff, decide_eq_true_eq] at h
  exact ⟨after?_eq_some_iff.1 h.1, h.2⟩

theorem question_not_mem_fst_cutQuery (target : Text) : '?' ∉ (cutQuery target).1 := by
  rw [cutQuery]
  cases hcut : cut? '?' target with
  | none => exact cut?_eq_none_iff.1 hcut
  | some p => exact (cut?_eq_some_iff.1 hcut).2

/-- **Where the path of a target comes from**: without a service root from the address that the target is, and
otherwise it is what follows some root, or the target itself. -/
theorem origin_of_resourcePath {parse : Text → Option Url} {whole base path p : Text}
    (h : resourcePath parse whole base path = .ok p) :
    (base = [] ∧ isAbsolute path ∧ ∃ url, parse path = some url ∧ p = url.path) ∨
      ¬(base = [] ∧ isAbsolute path) ∧ ((∃ root, within? root path = some p) ∨ p = withSlash path) := by
  rw [resourcePath] at h
  dsimp only at h
  by_cases habsolute : isAbsolute path
  · rw [if_pos habsolute] at h
    split at h
    · cases h
    rename_i url hurl
    by_cases hbase : base = []
    · rw [if_pos hbase] at h
      cases h
      exact .inl ⟨hbase, habsolute, url, hurl, rfl⟩
    · rw [if_neg hbase] at h
      split at h
      · cases h
      · rename_i rest hrest
        cases h
        exact .inr ⟨fun hall => hbase hall.1, .inl ⟨base, hrest⟩⟩
  · rw [if_neg habsolute] at h
    refine .inr ⟨fun hall => habsolute hall.2, ?_⟩
    split at h
    · split at h
      · cases h
      rename_i root hroot
      split at h
      · cases h
      · rename_i rest hrest
        cases h
        exact .inl ⟨root, hrest⟩
    · cases h
      exact .inr rfl

section Shape

variable {parse : Text → Option Url}
  (hshape : ∀ t url, parse t = some url → '?' ∉ url.path ∧ (IsRooted url.path ↔ ¬IsOpaque t))

include hshape

/-- **The path that a target names** is rooted, but for the path of an opaque address without a root. -/
theorem shape_of_resourcePath {whole base path p : Text} (hquery : '?' ∉ path)
    (h : resourcePath parse whole base path = .ok p) :
    '?' ∉ p ∧ (IsRooted p ↔ ¬(base = [] ∧ isAbsolute path ∧ IsOpaque path)) := by
  rcases origin_of_resourcePath h with ⟨hbase, habsolute, url, hurl, rfl⟩ | ⟨hother, horigin⟩
  · obtain ⟨hpath, hrooted⟩ := hshape path url hurl
    refine ⟨hpath, hrooted.trans (not_congr ?_)⟩
    exact ⟨fun htaken => ⟨hbase, habsolute, htaken⟩, fun hall => hall.2.2⟩
  · have hrest : '?' ∉ p ∧ IsRooted p := by
      rcases horigin with ⟨root, hwithin⟩ | rfl
      · obtain ⟨rfl, hrooted⟩ := within?_eq_some hwithin
        exact ⟨fun hmem => hquery (List.mem_append_right root hmem), hrooted⟩
      · exact ⟨question_not_mem_withSlash hquery, isRooted_withSlash path⟩
    exact ⟨hrest.1, iff_of_true hrest.2 fun hall => hother ⟨hall.1, hall.2.1⟩⟩

/-- **A resolved target is shaped.** -/
theorem shaped_of_resolve {target base : Text} {t : Target} (h : resolve target base parse = .ok t) :
    Shaped target base t := by
  rw [resolve_eq] at h
  cases hpath : resourcePath parse target (trimSlashes base) (cutQuery target).1 with
  | error r =>
    rw [hpath] at h
    cases h
  | ok path =>
    rw [hpath] at h
    cases h
    obtain ⟨hquery, hrooted⟩ := shape_of_resourcePath hshape (question_not_mem_fst_cutQuery target) hpath
    refine ⟨?_, ?_, hquery, hrooted⟩
    · exact exists_dropTail_append_replicate '/' base
    · intro hlast
      exact absurd (getLast?_dropTail base '/' hlast) (by decide)

end Shape

end Target

/-! ### Requests -/

namespace Request

/-- A request that is made of what the target in its request line resolves to.  Where it has a service root, the
path goes on behind it with a slash or not at all. -/
structure Joins (parse : Text → Option Url) (base : Text) (e : Embedded) (r : Request) : Prop where
  resolved : ∃ line, RequestLine.read e.operation.requestLine = .ok line ∧
    Target.resolve line.target base parse = .ok { base := r.base, path := r.path, query := r.query }
  uri_eq : r.uri = assemble r.base r.path r.query
  separated : r.base ≠ [] → IsRooted r.path

theorem joins_of_accepted {options : Options}
    (hshape : ∀ t url, options.parse t = some url → '?' ∉ url.path ∧ (IsRooted url.path ↔ ¬IsOpaque t))
    {e : Embedded} {member : Bool} {r : Request} (h : e.Accepted options member r) :
    Joins options.parse options.base e r := by
  obtain ⟨op, hid, hr⟩ := h
  obtain ⟨line, target, body, hline, -, htarget, -, -, rfl⟩ := Acceptance.request_eq_ok_iff.1 hr
  rw [hid.requestLine_eq] at hline
  have hresolved := Outcome.mapError_eq_ok.1 htarget
  refine ⟨⟨line, hline, hresolved⟩, rfl, fun hbase => ?_⟩
  exact (Target.shaped_of_resolve hshape hresolved).rooted_iff.2 fun htaken => hbase htaken.1

/-- **The shape of resolved targets**: a target that is resolved has the service root without slashes at its end and
a path without question mark, which is rooted unless the target is an opaque address and there is no root.  So the
requests of an accepted batch have URIs in which nothing runs into the root.  This holds of every reader of addresses
that finds paths without question mark, rooted ones where the address is not opaque. -/
theorem resolved_shape (parse : Text → Option Url)
    (hshape : ∀ t url, parse t = some url → '?' ∉ url.path ∧ (IsRooted url.path ↔ ¬IsOpaque t)) (base : Text) :
    (∀ target t, Target.resolve target base parse = .ok t → Target.Shaped target base t) ∧
    ∀ (options : Options) (boundary : Text) (body : Bytes) (parts : List (Part Request)), options.base = base →
      options.parse = parse → readBatch options boundary body = .ok parts →
        ∃ bodyParts, BodyPart.readAll options.strict boundary body = .ok bodyParts ∧
          List.Forall₂ (BodyPart.Becomes (Joins parse base) (List.Forall₂ (Joins parse base))) bodyParts parts := by
  refine ⟨fun target t h => Target.shaped_of_resolve hshape h, ?_⟩
  rintro options boundary body parts rfl rfl h
  refine exists_readAll h fun _ part p _ haccept => BodyPart.becomes_of_part ?_ ?_ haccept
  · intro e op r hop hr
    exact joins_of_accepted hshape ⟨op, Acceptance.identified_of_withPartId hop, hr⟩
  · intro _ _ es rs _ hrs
    exact (Acceptance.accepted_of_members hrs).imp fun e r hr => joins_of_accepted hshape hr

/-- A target with a host, under a root with two slashes behind it, and a batch with a relative target. -/
theorem resolved_shape_rooted :
    let base := "http://host/svc//".toList
    let target := "http://host/svc/Items?$top=1".toList
    let found : Target := { base := "http://host/svc".toList, path := "/Items".toList, query := "$top=1".toList }
    let body : Bytes := Utf8.encode ("--b\r\nContent-Type: application/http\r\n".toList
      ++ "Content-Transfer-Encoding: binary\r\n\r\nGET Items HTTP/1.1\r\n\r\n\r\n--b--\r\n".toList)
    let r : Request := {
      method := .get, base := "http://host/svc".toList, path := "/Items".toList
      uri := "http://host/svc/Items".toList, headers := .atLine 6 }
    Target.resolve target base = .ok found ∧ Target.Shaped target base found ∧
      readBatch { base } "b".toList body = .ok [.single r] ∧
      ∃ bodyParts, BodyPart.readAll true "b".toList body = .ok bodyParts ∧
        List.Forall₂ (BodyPart.Becomes (Joins Url.parse? base) (List.Forall₂ (Joins Url.parse? base)))
          bodyParts [.single r] := by
  intro base target found body r
  obtain ⟨hshape, hbatch⟩ := resolved_shape Url.parse? (fun _ _ => Url.shape_of_parse?) base
  have hfound : Target.resolve target base = .ok found := by decide +kernel
  have hread : readBatch { base } "b".toList body = .ok [.single r] := by decide +kernel
  exact ⟨hfound, hshape target found hfound, hread, hbatch { base } "b".toList body _ rfl rfl hread⟩

/-- Without a service root the path of an opaque address begins with no slash, and so does that of a request. -/
theorem unrooted_path :
    let target := "a:b://c".toList
    let path := "b://c".toList
    let body : Bytes := Utf8.encode ("--b\r\nContent-Type: application/http\r\n".toList
      ++ "Content-Transfer-Encoding: binary\r\n\r\nGET a:b://c HTTP/1.1\r\n\r\n\r\n--b--\r\n".toList)
    Target.resolve target [] = .ok { base := [], path, query := [] } ∧
      readBatch {} "b".toList body
        = .ok [.single { method := .get, base := [], path, uri := path, headers := .atLine 6 }] ∧
      ¬IsRooted path := by
  intro target path body
  refine ⟨by decide +kernel, by decide +kernel, ?_⟩
  rintro (hnil | hhead)
  · exact absurd hnil (by decide)
  · exact absurd hhead (by decide)

end Request

end BatchExchange
