import BatchExchange.Outer.Envelope
import BatchExchange.Proofs.Target
import BatchExchange.Proofs.Url
import Mathlib.Data.List.Basic

/-!
# Targets below the service root

The root of a service is the path of its endpoint without the last segment, behind the authority that the URI
or the headers name.  An absolute path below the root is a target of the service, but not every one is taken
for it: a text with `://` anywhere is read as an address, and so is the base, which is none without authority.
A reader of addresses is taken to refuse what begins with a slash, and to find the path of the root behind its
authority.

* `rootOf_endpoint`: the root of an endpoint.
* `IsAddressed`: an authority under which the root is read back, as it is under the name of a plain host
  (`IsAddressed.of_isHostName`).
* `resolve_below_root`: what an absolute path below the root is resolved to.
-/

namespace BatchExchange

namespace Outer

open Url (ArePlain)
open Url.Path (render)

/-! ### Roots -/

section Plain

variable {segments : List Text} (h : ArePlain segments)

include h

theorem not_mem_root {c : Char} (hslash : c ≠ '/') (hc : c.isAlphanum = false) : c ∉ render segments := by
  intro hmem
  rcases Url.Path.eq_slash_or_isAlphanum_of_mem h hmem with rfl | halnum
  · exact hslash rfl
  · rw [hc] at halnum
    cases halnum

/-- A root that is not empty ends with a letter or digit. -/
theorem exists_root_eq_concat (hne : segments ≠ []) :
    ∃ t c, render segments = t ++ [c] ∧ c.isAlphanum := by
  induction segments using List.reverseRecOn with
  | nil => exact absurd rfl hne
  | append_singleton segments s =>
    have hs := h s (by simp)
    obtain ⟨t, c, rfl⟩ := (List.eq_nil_or_concat' s).resolve_left hs.1
    exact ⟨render segments ++ '/' :: t, c, by simp [render], hs.2 c (by simp)⟩

theorem trimSlashes_root : Target.trimSlashes (render segments) = render segments := by
  by_cases hne : segments = []
  · rw [hne]
    rfl
  · obtain ⟨t, c, hroot, hc⟩ := exists_root_eq_concat h hne
    have hslash : c ≠ '/' := by
      rintro rfl
      exact absurd hc (by decide)
    rw [hroot, Target.trimSlashes_concat hslash]

/-- **The root of an endpoint** is what stands in front of its last segment. -/
theorem rootOf_endpoint (n : Nat) :
    Envelope.rootOf (render segments ++ '/' :: Envelope.segment ++ List.replicate n '/')
      = render segments := by
  have hend : Target.trimSlashes (render segments ++ '/' :: Envelope.segment)
      = render segments ++ '/' :: Envelope.segment := by
    have hconcat : render segments ++ '/' :: Envelope.segment
        = (render segments ++ "/$batc".toList) ++ ['h'] := by
      rw [List.append_assoc]
      rfl
    rw [hconcat, Target.trimSlashes_concat (by decide)]
  have hbefore : before? Envelope.segment (render segments ++ '/' :: Envelope.segment)
      = some (render segments ++ ['/']) := before?_eq_some_iff.2 (by simp)
  rw [Envelope.rootOf, Target.trimSlashes_append_replicate, hend, hbefore, Option.getD_some]
  exact (Target.trimSlashes_append_replicate (render segments) 1).trans (trimSlashes_root h)

end Plain

/-! ### Bases -/

/-- The authority of the service: that of the URI, or else the host that the headers name. -/
def authority? (uri : Uri) (headers : List (Text × Bytes)) : Option Text :=
  uri.authority.or (Envelope.first? headers HeaderName.host)

/-- The base of a service is its root, behind the authority if there is one. -/
theorem base_withUri (e : Envelope) (uri : Uri) (headers : List (Text × Bytes)) :
    (e.withUri uri headers).base = (authority? uri headers).elim (Envelope.rootOf uri.path) fun a =>
      uri.scheme.getD "http".toList ++ "://".toList ++ a ++ Envelope.rootOf uri.path := by
  unfold Envelope.withUri authority?
  cases uri.authority.or (Envelope.first? headers HeaderName.host) with
  | none => rfl
  | some a => rfl

/-- An authority whose address with the path `root` is read with this path. -/
structure IsAddressed (parse : Text → Option Url) (scheme authority root : Text) : Prop where
  filled : authority ≠ []
  slash : '/' ∉ authority
  read : ∃ url, parse (scheme ++ "://".toList ++ authority ++ root) = some url ∧
    url.path = if root = [] then ['/'] else root

/-- The name of a plain host is such an authority. -/
theorem IsAddressed.of_isHostName {scheme host : Text} (hscheme : scheme ∈ Url.webSchemes)
    (hhost : Url.IsHostName host) {segments : List Text} (h : ArePlain segments) :
    IsAddressed Url.parse? scheme host (render segments) where
  filled := hhost.filled
  slash := fun hmem => hhost.forall_mem (p := (· ≠ '/')) (by decide) (by decide) (by decide) '/' hmem rfl
  read := ⟨_, Url.parse?_of_isHostName hscheme hhost h, rfl⟩

theorem trimSlashes_address {parse : Text → Option Url} {segments : List Text} (h : ArePlain segments)
    {scheme authority : Text} (ha : IsAddressed parse scheme authority (render segments)) :
    Target.trimSlashes (scheme ++ "://".toList ++ authority ++ render segments)
      = scheme ++ "://".toList ++ authority ++ render segments := by
  by_cases hne : segments = []
  · obtain ⟨t, c, rfl⟩ := (List.eq_nil_or_concat' authority).resolve_left ha.filled
    have hslash : c ≠ '/' := by
      rintro rfl
      exact ha.slash (by simp)
    rw [hne, show render [] = [] from rfl, List.append_nil, ← List.append_assoc,
      Target.trimSlashes_concat hslash]
  · obtain ⟨t, c, hroot, hc⟩ := exists_root_eq_concat h hne
    have hslash : c ≠ '/' := by
      rintro rfl
      exact absurd hc (by decide)
    rw [hroot, ← List.append_assoc, Target.trimSlashes_concat hslash]

/-- **Targets below the root of their service**: an absolute path below the root is resolved to the path behind
it, unless this has `://`, or the base is a path without authority. -/
theorem resolve_below_root (parse : Text → Option Url) (hslash : ∀ t, parse ('/' :: t) = none)
    {segments : List Text} (h : ArePlain segments) {uri : Uri} {n : Nat}
    (hpath : uri.path = render segments ++ '/' :: Envelope.segment ++ List.replicate n '/')
    {headers : List (Text × Bytes)}
    (haddress : ∀ a, authority? uri headers = some a →
      IsAddressed parse (uri.scheme.getD "http".toList) a (render segments))
    {p : Text} (hp : '?' ∉ p) (e : Envelope) :
    Target.resolve (render segments ++ '/' :: p) (e.withUri uri headers).base parse =
      if Target.isAbsolute p then (Cause.foreignTarget (render segments ++ '/' :: p)).anywhere
      else if authority? uri headers = none ∧ render segments ≠ [] then
        (Cause.foreignTarget (render segments)).anywhere
      else .ok { base := (e.withUri uri headers).base, path := '/' :: p, query := [] } := by
  have hquery : '?' ∉ render segments ++ '/' :: p := by
    rw [List.mem_append, List.mem_cons]
    rintro (hmem | hmem | hmem)
    · exact not_mem_root h (by decide) (by decide) hmem
    · exact absurd hmem (by decide)
    · exact hp hmem
  have habsolute : Target.isAbsolute (render segments ++ '/' :: p) = Target.isAbsolute p := by
    have hcolon : ':' ∉ render segments ++ ['/'] := by
      rw [List.mem_append, List.mem_singleton]
      rintro (hmem | hmem)
      · exact not_mem_root h (by decide) (by decide) hmem
      · exact absurd hmem (by decide)
    rw [← Target.isAbsolute_append hcolon p, List.append_assoc]
    rfl
  obtain ⟨t, htarget⟩ : ∃ t, render segments ++ '/' :: p = '/' :: t := by
    cases segments with
    | nil => exact ⟨p, rfl⟩
    | cons s segments => exact ⟨_, rfl⟩
  have hwithin : Target.within? (render segments) (render segments ++ '/' :: p) = some ('/' :: p) :=
    Target.within?_append rfl
  have hroot : Envelope.rootOf uri.path = render segments := by rw [hpath, rootOf_endpoint h]
  rw [Target.resolve, Target.cutQuery_of_not_mem hquery]
  dsimp only
  rw [Target.resourcePath, habsolute]
  by_cases habs : Target.isAbsolute p
  · rw [if_pos habs, if_pos habs, htarget, hslash]
    rfl
  · rw [if_neg habs, if_neg habs, if_pos (by rw [htarget]; rfl), base_withUri, hroot]
    -- the base is an address or the bare root; only the former is read as an absolute one
    cases hauthority : authority? uri headers with
    | none =>
      rw [Option.elim_none, trimSlashes_root h]
      by_cases hnil : render segments = []
      · rw [if_pos hnil, if_neg (fun hne => hne.2 hnil)]
        rw [hnil] at hwithin ⊢
        dsimp only
        rw [hwithin]
        rfl
      · obtain ⟨r, hr⟩ : ∃ r, render segments = '/' :: r := by
          cases segments with
          | nil => exact absurd rfl hnil
          | cons s segments => exact ⟨_, rfl⟩
        rw [if_neg hnil, if_pos ⟨rfl, hnil⟩, hr, hslash]
        rfl
    | some a =>
      have ha := haddress a hauthority
      obtain ⟨url, hurl, hurlpath⟩ := ha.read
      rw [Option.elim_some, trimSlashes_address h ha, if_neg (by simp), if_neg (by simp), hurl, Option.map_some]
      have hback : Target.trimSlashes url.path = render segments := by
        rw [hurlpath]
        split
        · rename_i hnil
          rw [hnil]
          rfl
        · exact trimSlashes_root h
      rw [hback]
      dsimp only
      rw [hwithin]
      rfl

/-- An endpoint that is known by the host of its headers. -/
theorem resolve_below_root_of_host :
    let uri : Uri := { path := "/svc/v1/$batch/".toList }
    let headers : List (Text × Bytes) := [("Host".toList, Utf8.encode "Example.org".toList)]
    let base := (({} : Envelope).withUri uri headers).base
    IsAddressed Url.parse? "http".toList "Example.org".toList (render ["svc".toList, "v1".toList]) ∧
      Target.resolve "/svc/v1/People(1)".toList base
        = .ok { base, path := "/People(1)".toList, query := [] } := by
  intro uri headers base
  have hroot : ArePlain ["svc".toList, "v1".toList] := by decide
  have hauthority : authority? uri headers = some "Example.org".toList := by decide +kernel
  have hhost : Url.IsHostName "Example.org".toList :=
    ⟨by decide, forall_mem_of_all (by decide), by decide, by decide⟩
  have haddressed : IsAddressed Url.parse? "http".toList "Example.org".toList (render ["svc".toList, "v1".toList]) :=
    .of_isHostName (by decide) hhost hroot
  refine ⟨haddressed, ?_⟩
  have haddress : ∀ a, authority? uri headers = some a →
      IsAddressed Url.parse? (uri.scheme.getD "http".toList) a (render ["svc".toList, "v1".toList]) := by
    intro a ha
    rw [hauthority] at ha
    cases ha
    exact haddressed
  have hpath : uri.path = render ["svc".toList, "v1".toList] ++ '/' :: Envelope.segment ++ List.replicate 1 '/' := by
    decide
  have hquery : '?' ∉ "People(1)".toList := by decide
  have hresolve := resolve_below_root Url.parse? Url.parse?_of_slash hroot hpath haddress hquery {}
  rw [if_neg (by decide), if_neg (by rw [hauthority]; simp)] at hresolve
  exact hresolve

/-- Targets that begin with the path of the root and are refused. -/
theorem refused_below_root :
    let uri : Uri := { path := "/svc/$batch".toList }
    let bare := (({} : Envelope).withUri uri []).base
    let address := (({} : Envelope).withUri uri [("Host".toList, Utf8.encode "host".toList)]).base
    bare = "/svc".toList ∧ address = "http://host/svc".toList ∧
      Target.resolve "/svc/People".toList bare = (Cause.foreignTarget "/svc".toList).anywhere ∧
      Target.resolve "/svc/Links('a://b')".toList address
        = (Cause.foreignTarget "/svc/Links('a://b')".toList).anywhere := by
  decide +kernel

end Outer

end BatchExchange
