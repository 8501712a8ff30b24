import BatchExchange.Proofs.Text
import BatchExchange.Target

/-!
# The forms of a target

A resource of a service is named in three ways: by its path within the service, by its path behind the path
of the service root, and by its address.  Each is read by rules of its own, and they agree.

* `Target.isAbsolute_iff`: what is read as an address.
* `Target.cutQuery_append`: a query is cut off where the first question mark stands.
* `Target.IsRoot`, `Target.IsResource`: service roots, and paths within them, that all three forms can name.
* `Target.resolve_forms`: what the three forms are resolved to, and what stands beside the root.
-/

namespace BatchExchange.Target

/-! ### Addresses -/

/-- **A text is read as an address** where it has `://`. -/
theorem isAbsolute_iff {t : Text} : isAbsolute t ↔ "://".toList <:+: t := by
  induction t with
  | nil => simp [isAbsolute]
  | cons c t ih =>
    have hlead : (after? "://".toList (c :: t)).isSome ↔ "://".toList <+: c :: t := by
      rw [Option.isSome_iff_exists]
      exact exists_congr fun rest => after?_eq_some_iff.trans eq_comm
    rw [isAbsolute, Bool.or_eq_true, hlead, ih, List.infix_cons_iff]

/-- A text has `://` only where it has a colon. -/
theorem isAbsolute_append {s : Text} (hs : ':' ∉ s) (t : Text) : isAbsolute (s ++ t) = isAbsolute t := by
  induction s with
  | nil => rfl
  | cons c s ih =>
    rw [List.mem_cons, not_or] at hs
    have hc : after? "://".toList (c :: (s ++ t)) = none := if_neg hs.1
    rw [List.cons_append, isAbsolute, hc, ih hs.2]
    rfl

/-- A single slash between two texts makes no `://`. -/
theorem isAbsolute_append_slash {s t : Text} (hs : isAbsolute s = false) (hend : s.getLast? ≠ some '/')
    (ht : isAbsolute t = false) (hhead : t.head? ≠ some '/') : isAbsolute (s ++ '/' :: t) = false := by
  induction s with
  | nil => exact (isAbsolute_append (s := ['/']) (by decide) t).trans ht
  | cons c s ih =>
    rw [isAbsolute, Bool.or_eq_false_iff] at hs
    have hlead : after? "://".toList (c :: (s ++ '/' :: t)) = none := by
      match s with
      | [] =>
        cases t with
        | nil => simp [after?]
        | cons d t =>
          have hd : '/' ≠ d := fun e => hhead (by rw [← e]; rfl)
          simp [after?, hd]
      | [d] =>
        have hd : '/' ≠ d := fun e => hend (by rw [← e]; rfl)
        simp [after?, hd]
      | d :: e :: s =>
        have hnone : after? "://".toList (c :: d :: e :: s) = none := by
          rw [← Option.isNone_iff_eq_none, ← Option.isSome_eq_false_iff]
          exact hs.1
        exact after?_append_eq_none hnone (by simp) ('/' :: t)
    have hrest : s.getLast? ≠ some '/' := by
      cases s with
      | nil => simp
      | cons d s => rwa [List.getLast?_cons_cons] at hend
    rw [List.cons_append, isAbsolute, hlead, ih hs.2 hrest]
    rfl

/-! ### Slashes and queries -/

theorem trimSlashes_append_replicate (t : Text) (n : Nat) :
    trimSlashes (t ++ List.replicate n '/') = trimSlashes t :=
  dropTail_append_replicate (by decide) t n

theorem trimSlashes_of_getLast? {t : Text} (h : t.getLast? ≠ some '/') : trimSlashes t = t := by
  apply dropTail_of_getLast?
  intro c hc
  exact decide_eq_false fun e => h (e ▸ hc)

theorem trimSlashes_concat {c : Char} (hc : c ≠ '/') (t : Text) : trimSlashes (t ++ [c]) = t ++ [c] :=
  trimSlashes_of_getLast? (by simpa using hc)

theorem within?_append {root rest : Text} (h : rest.head? = some '/') : within? root (root ++ rest) = some rest := by
  rw [within?, after?_append, Option.filter_eq_some_iff]
  exact ⟨rfl, by simp [h]⟩

/-- What goes on in the middle of a segment is not within the root. -/
theorem within?_append_cons {c : Char} (hc : c ≠ '/') (root rest : Text) :
    within? root (root ++ c :: rest) = none := by
  rw [within?, after?_append, Option.filter_eq_none_iff]
  intro t ht
  cases ht
  simpa using hc

/-- **A query is cut off at the first question mark**, so what stands in front of it belongs to the path. -/
theorem cutQuery_append {s : Text} (hs : '?' ∉ s) (t : Text) :
    cutQuery (s ++ t) = (s ++ (cutQuery t).1, (cutQuery t).2) := by
  cases ht : cut? '?' t with
  | none =>
    have hst : '?' ∉ s ++ t := by
      rw [List.mem_append, not_or]
      exact ⟨hs, cut?_eq_none_iff.1 ht⟩
    rw [cutQuery, cutQuery, ht, cut?_eq_none_iff.2 hst]
    rfl
  | some p =>
    obtain ⟨path, query⟩ := p
    obtain ⟨rfl, hpath⟩ := cut?_eq_some_iff.1 ht
    have hst : cut? '?' (s ++ (path ++ '?' :: query)) = some (s ++ path, query) := by
      rw [cut?_eq_some_iff, List.append_assoc, List.mem_append, not_or]
      exact ⟨rfl, hs, hpath⟩
    rw [cutQuery, cutQuery, ht, hst]
    rfl

theorem cutQuery_of_not_mem {t : Text} (h : '?' ∉ t) : cutQuery t = (t, []) := by
  have hcut := cutQuery_append h []
  rwa [List.append_nil, show cutQuery [] = ([], []) from rfl, List.append_nil] at hcut

/-! ### Roots and resources -/

/-- The text of a service root. -/
def address (scheme authority path : Text) : Text := scheme ++ "://".toList ++ authority ++ path

theorem address_ne_nil (scheme authority path : Text) : address scheme authority path ≠ [] := by
  simp [address]

theorem isAbsolute_address_append (scheme authority path t : Text) :
    isAbsolute (address scheme authority path ++ t) := by
  rw [isAbsolute_iff]
  exact ⟨scheme, authority ++ path ++ t, by simp [address]⟩

/-- A service root that a reader of addresses reads as one with the path that it ends with. -/
structure IsRoot (parse : Text → Option Url) (scheme authority path : Text) : Prop where
  rooted : path = [] ∨ path.head? = some '/'
  trimmed : (address scheme authority path).getLast? ≠ some '/'
  query : '?' ∉ address scheme authority path
  plain : ¬"://".toList <:+: path
  read : ∃ url, parse (address scheme authority path) = some url ∧
    url.path = if path = [] then ['/'] else path

/-- A path within a service, written without the slash that it begins with. -/
structure IsResource (p : Text) : Prop where
  filled : p ≠ []
  relative : p.head? ≠ some '/'
  query : '?' ∉ p
  plain : ¬"://".toList <:+: p

/-- A target is resolved to the resource `p` of a service root, and with a query behind it to `p` with this
query. -/
structure Names (parse : Text → Option Url) (base root p target : Text) : Prop where
  bare : resolve target base parse = .ok { base := root, path := '/' :: p, query := [] }
  asked : ∀ query,
    resolve (target ++ '?' :: query) base parse = .ok { base := root, path := '/' :: p, query }

variable {parse : Text → Option Url}

theorem resolve_eq (target base : Text) :
    resolve target base parse
      = (resourcePath parse target (trimSlashes base) (cutQuery target).1).map fun path =>
          { base := trimSlashes base, path, query := (cutQuery target).2 } := by
  obtain ⟨⟨path, query⟩, hcut⟩ : ∃ pieces, cutQuery target = pieces := ⟨_, rfl⟩
  rw [resolve, hcut]
  dsimp only
  cases resourcePath parse target (trimSlashes base) path <;> rfl

/-- What a refusal would quote does not matter for a target that is accepted. -/
theorem Names.of_resourcePath {base root p target : Text} (hbase : trimSlashes base = root)
    (hquery : '?' ∉ target) (h : ∀ whole, resourcePath parse whole root target = .ok ('/' :: p)) :
    Names parse base root p target where
  bare := by
    rw [resolve_eq, hbase, cutQuery_of_not_mem hquery, h]
    rfl
  asked query := by
    have hcut : cutQuery (target ++ '?' :: query) = (target, query) := by
      rw [cutQuery_append hquery, show cutQuery ('?' :: query) = ([], query) from rfl, List.append_nil]
    rw [resolve_eq, hbase, hcut, h]
    rfl

namespace IsResource

variable {p : Text} (h : IsResource p)

include h

theorem isAbsolute : isAbsolute p = false := by
  rw [← Bool.not_eq_true, isAbsolute_iff]
  exact h.plain

/-- A path within a service is taken as it is. -/
theorem names_relative {base root : Text} (hbase : trimSlashes base = root) : Names parse base root p p := by
  apply Names.of_resourcePath hbase h.query
  intro whole
  rw [resourcePath, h.isAbsolute, if_neg (by simp), if_neg h.relative, withSlash,
    if_neg (by simp [h.filled, h.relative])]

end IsResource

namespace IsRoot

variable {scheme authority path : Text} (h : IsRoot parse scheme authority path)

include h

theorem path_query : '?' ∉ path := fun hmem => h.query (List.mem_append_right _ hmem)

theorem path_trimmed : path.getLast? ≠ some '/' := by
  intro hlast
  apply h.trimmed
  rw [address, List.getLast?_append, hlast, Option.some_or]

variable {p : Text} (hp : IsResource p)

include hp

theorem names_rooted {base : Text} (hbase : trimSlashes base = address scheme authority path) :
    Names parse base (address scheme authority path) p (path ++ '/' :: p) := by
  have hquery : '?' ∉ path ++ '/' :: p := by
    simp [h.path_query, hp.query]
  apply Names.of_resourcePath hbase hquery
  intro whole
  have hrooted : isAbsolute (path ++ '/' :: p) = false := by
    apply isAbsolute_append_slash _ h.path_trimmed hp.isAbsolute hp.relative
    rw [← Bool.not_eq_true, isAbsolute_iff]
    exact h.plain
  have hslash : (path ++ '/' :: p).head? = some '/' := by
    rcases h.rooted with rfl | hhead
    · rfl
    · rw [List.head?_append, hhead, Option.some_or]
  obtain ⟨url, hurl, hpath⟩ := h.read
  have htrim : trimSlashes url.path = path := by
    rw [hpath]
    split
    · rename_i hnil
      rw [hnil]
      rfl
    · exact trimSlashes_of_getLast? h.path_trimmed
  rw [resourcePath, hrooted, if_neg (by simp), if_pos hslash, if_neg (address_ne_nil scheme authority path), hurl,
    Option.map_some, htrim]
  dsimp only
  rw [within?_append rfl]

theorem names_address {base : Text} (hbase : trimSlashes base = address scheme authority path)
    (hread : (parse (address scheme authority path ++ '/' :: p)).isSome) :
    Names parse base (address scheme authority path) p (address scheme authority path ++ '/' :: p) := by
  have hquery : '?' ∉ address scheme authority path ++ '/' :: p := by
    simp [h.query, hp.query]
  apply Names.of_resourcePath hbase hquery
  intro whole
  obtain ⟨url, hurl⟩ := Option.isSome_iff_exists.1 hread
  rw [resourcePath, if_pos (isAbsolute_address_append scheme authority path _), hurl]
  dsimp only
  rw [if_neg (address_ne_nil scheme authority path), within?_append rfl]

omit hp

/-- **What stands beside the root is foreign**, whether it is read as an address or not. -/
theorem resolve_beside {base : Text} (hbase : trimSlashes base = address scheme authority path) {c : Char}
    (hslash : c ≠ '/') (hc : c ≠ '?') (rest : Text) :
    resolve (address scheme authority path ++ c :: rest) base parse
      = (Cause.foreignTarget (address scheme authority path ++ c :: rest)).anywhere := by
  have hquery : '?' ∉ address scheme authority path ++ [c] := by
    simp [h.query, hc.symm]
  have hcut : cutQuery (address scheme authority path ++ c :: rest)
      = (address scheme authority path ++ c :: (cutQuery rest).1, (cutQuery rest).2) := by
    have happend := cutQuery_append hquery rest
    rwa [List.append_assoc, List.append_assoc] at happend
  rw [resolve_eq, hbase, hcut, resourcePath, if_pos (isAbsolute_address_append scheme authority path _)]
  cases parse (address scheme authority path ++ c :: (cutQuery rest).1) with
  | none => rfl
  | some url =>
    dsimp only
    rw [if_neg (address_ne_nil scheme authority path), within?_append_cons hslash]
    rfl

end IsRoot

/-- **The three forms of a target agree**, for every reader of addresses that reads the root: with or without a
query, with any number of slashes behind the base, a path within the service, the same path behind that of the
root, and its address are resolved alike.  An address that goes on in the middle of the last segment of the root
is refused. -/
theorem resolve_forms (parse : Text → Option Url) {scheme authority path : Text}
    (h : IsRoot parse scheme authority path) (slashes : Nat) :
    let root := address scheme authority path
    let base := root ++ List.replicate slashes '/'
    (∀ p, IsResource p → Names parse base root p p ∧ Names parse base root p (path ++ '/' :: p) ∧
      ((parse (root ++ '/' :: p)).isSome → Names parse base root p (root ++ '/' :: p))) ∧
    ∀ c rest, c ≠ '/' → c ≠ '?' →
      resolve (root ++ c :: rest) base parse = (Cause.foreignTarget (root ++ c :: rest)).anywhere := by
  intro root base
  have hbase : trimSlashes base = root := by
    rw [trimSlashes_append_replicate, trimSlashes_of_getLast? h.trimmed]
  refine ⟨fun p hp => ⟨?_, ?_, ?_⟩, ?_⟩
  · exact hp.names_relative hbase
  · exact h.names_rooted hp hbase
  · exact h.names_address hp hbase
  · intro c rest hslash hc
    exact h.resolve_beside hbase hslash hc rest

/-- A resource with a colon in its name and a query with a question mark, and a service beside the root. -/
theorem resolve_forms_numbered :
    let path := "/svc/v1".toList
    let root := address "http".toList "host:8080".toList path
    let base := root ++ List.replicate 2 '/'
    let p := "Notes('a:/b')".toList
    let query := "$filter=Name eq '?'".toList
    let found : Target := { base := root, path := '/' :: p, query }
    root = "http://host:8080/svc/v1".toList ∧ IsRoot Url.parse? "http".toList "host:8080".toList path ∧
      IsResource p ∧
      (Url.parse? (root ++ '/' :: p)).isSome ∧
      resolve (p ++ '?' :: query) base = .ok found ∧
      resolve (path ++ '/' :: p ++ '?' :: query) base = .ok found ∧
      resolve (root ++ '/' :: p ++ '?' :: query) base = .ok found ∧
      resolve (root ++ '0' :: '/' :: p) base = (Cause.foreignTarget (root ++ '0' :: '/' :: p)).anywhere := by
  intro path root base p query found
  have hread : Url.parse? root = some { scheme := "http".toList, path } := by decide +kernel
  have hroot : IsRoot Url.parse? "http".toList "host:8080".toList path :=
    ⟨.inr (by decide), by decide, by decide, by rw [← isAbsolute_iff]; decide, _, hread, by decide⟩
  have hresource : IsResource p := ⟨by decide, by decide, by decide, by rw [← isAbsolute_iff]; decide⟩
  have haddress : (Url.parse? (root ++ '/' :: p)).isSome := by decide +kernel
  obtain ⟨hforms, hbeside⟩ := resolve_forms Url.parse? hroot 2
  obtain ⟨hrelative, hrooted, hwhole⟩ := hforms p hresource
  exact ⟨by decide, hroot, hresource, haddress, hrelative.asked query, hrooted.asked query,
    (hwhole haddress).asked query, hbeside '0' ('/' :: p) (by decide) (by decide)⟩

end BatchExchange.Target
