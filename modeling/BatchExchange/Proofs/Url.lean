import BatchExchange.Proofs.Text
import BatchExchange.Url
import Mathlib.Data.List.TakeWhile

/-!
# Addresses of plain hosts

An address that consists of scheme, plain host name and plain segments is read with just these segments as its
path (`Url.parse?_of_isHostName`); what begins with a slash is no address (`Url.parse?_of_slash`).
-/

namespace BatchExchange

theorem dropTail_eq_self {α : Type} {p : α → Bool} {l : List α} (h : ∀ a ∈ l, p a = false) : dropTail p l = l :=
  dropTail_of_getLast? fun a ha => h a (List.mem_of_getLast? ha)

theorem dropWhile_eq_self {α : Type} {p : α → Bool} {l : List α} (h : ∀ a ∈ l.head?, p a = false) :
    l.dropWhile p = l := by
  cases l with
  | nil => rfl
  | cons a l => rw [List.dropWhile_cons, h a rfl, if_neg (by simp)]

namespace Url

open BatchExchange.Url.Path (render)

/-! ### Plain paths -/

/-- Segments of letters and digits. -/
def ArePlain (segments : List Text) : Prop := ∀ s ∈ segments, s ≠ [] ∧ ∀ c ∈ s, c.isAlphanum

instance (segments : List Text) : Decidable (ArePlain segments) :=
  decidable_of_iff (segments.all fun s => s ≠ [] && s.all Char.isAlphanum) (by simp [ArePlain])

namespace Path

theorem eq_slash_or_isAlphanum_of_mem {segments : List Text} (h : ArePlain segments) {c : Char}
    (hc : c ∈ render segments) : c = '/' ∨ c.isAlphanum := by
  obtain ⟨s, hs, hc⟩ := List.mem_flatMap.1 hc
  rcases List.mem_cons.1 hc with rfl | hc
  · exact .inl rfl
  · exact .inr ((h s hs).2 c hc)

theorem encode_of_isAlphanum {s : Text} (h : ∀ c ∈ s, c.isAlphanum) : encode s = s := by
  have hplain : ∀ c ∈ s, Percent.isPathEscaped c = false := fun c hc =>
    Text.alphanum_cases (p := fun c => Percent.isPathEscaped c = false) (by decide) (h c hc)
  rw [encode, Percent.encode]
  induction s with
  | nil => rfl
  | cons c s ih =>
    rw [List.forall_mem_cons] at h hplain
    rw [List.flatMap_cons, hplain.1, ih h.2 hplain.2]
    rfl

/-- Letters and digits make no dots. -/
theorem not_isDot_of_isAlphanum {s : Text} (hne : s ≠ []) (h : ∀ c ∈ s, c.isAlphanum) :
    isSingleDot s = false ∧ isDoubleDot s = false := by
  obtain ⟨c, t, rfl⟩ := List.exists_cons_of_ne_nil hne
  have hc : c.toLower ≠ '.' ∧ c.toLower ≠ '%' :=
    Text.alphanum_cases (p := fun c => c.toLower ≠ '.' ∧ c.toLower ≠ '%') (by decide) (h c (by simp))
  constructor
  · simp [isSingleDot, Text.foldCase, hc.1, hc.2]
  · simp [isDoubleDot, Text.foldCase, hc.1, hc.2]

theorem resolve_of_arePlain {segments : List Text} (h : ArePlain segments) (done : List Text) :
    resolve false done segments = done ++ segments := by
  induction segments generalizing done with
  | nil => exact (List.append_nil done).symm
  | cons s segments ih =>
    obtain ⟨hs, hrest⟩ := List.forall_mem_cons.1 h
    have hbreaks : dropBreaks s = s := dropBreaks_eq_self fun c hc =>
      Text.alphanum_cases (p := fun c => isBreak c = false) (by decide) (hs.2 c hc)
    obtain ⟨hsingle, hdouble⟩ := not_isDot_of_isAlphanum hs.1 hs.2
    rw [resolve, hbreaks, hsingle, hdouble, encode_of_isAlphanum hs.2, if_neg (by simp), if_neg (by simp),
      if_neg (by simp), ih hrest, List.append_assoc]
    rfl

theorem splitOnP_render {segments : List Text} (h : ArePlain segments) {s : Text}
    (hs : ∀ c ∈ s, c.isAlphanum) : (s ++ render segments).splitOnP (isSlash true) = s :: segments := by
  have hinside : ∀ c ∈ s, isSlash true c = false := fun c hc =>
    Text.alphanum_cases (p := fun c => isSlash true c = false) (by decide) (hs c hc)
  induction segments generalizing s with
  | nil => rw [show render [] = [] from rfl, List.append_nil, List.splitOnP_eq_singleton hinside]
  | cons t segments ih =>
    obtain ⟨ht, hrest⟩ := List.forall_mem_cons.1 h
    have hrender : render (t :: segments) = '/' :: (t ++ render segments) := rfl
    rw [hrender, List.splitOnP_append_cons_of_forall_mem hinside '/' (by decide), ih hrest ht.2 ?_]
    exact fun c hc => Text.alphanum_cases (p := fun c => isSlash true c = false) (by decide) (ht.2 c hc)

theorem segments_eq (special : Bool) (t : Text) :
    Path.segments special t = (match (t.dropWhile isBreak).splitOnP (isSlash special) with
      | [] :: first :: rest => first :: rest
      | parts => parts) := rfl

/-- **A plain path is read as it is written**, and an empty one as a slash. -/
theorem read_render {segments : List Text} (h : ArePlain segments) :
    read true (render segments) = if render segments = [] then ['/'] else render segments := by
  cases segments with
  | nil => rfl
  | cons s segments =>
    obtain ⟨hs, hrest⟩ := List.forall_mem_cons.1 h
    have hrender : render (s :: segments) = '/' :: (s ++ render segments) := rfl
    have hsplit : Path.segments true (render (s :: segments)) = s :: segments := by
      have hstart : (render (s :: segments)).dropWhile isBreak = render (s :: segments) :=
        dropWhile_eq_self (by rw [hrender]; simp [isBreak])
      have hpieces : (render (s :: segments)).splitOnP (isSlash true) = [] :: s :: segments :=
        splitOnP_render (s := []) h (fun _ hc => (nomatch hc))
      rw [segments_eq, hstart, hpieces]
    rw [read, hsplit, resolve_of_arePlain h, if_neg (by rw [hrender]; simp), List.nil_append]

end Path

/-! ### Plain hosts -/

/-- A host name: letters, digits, hyphens and full stops, with no label in Punycode and no number at its end. -/
structure IsHostName (host : Text) : Prop where
  filled : host ≠ []
  plain : ∀ c ∈ host, c.isAlphanum ∨ c = '-' ∨ c = '.'
  literal : ∀ label ∈ host.foldCase.splitOn '.', after? "xn--".toList label = none
  named : Address.isDotted host.foldCase = false

/-- What holds of letters, digits, hyphens and full stops holds of the characters of a host name. -/
theorem IsHostName.forall_mem {host : Text} (h : IsHostName host) {p : Char → Prop}
    (halnum : ∀ n < 128, (Char.ofNat n).isAlphanum → p (Char.ofNat n)) (hhyphen : p '-') (hstop : p '.') :
    ∀ c ∈ host, p c := by
  intro c hc
  rcases h.plain c hc with hc | rfl | rfl
  · exact Text.alphanum_cases halnum hc
  · exact hhyphen
  · exact hstop

theorem Percent.decode_of_not_mem {bytes : Bytes} (h : 37 ∉ bytes) : Percent.decode bytes = bytes := by
  fun_induction Percent.decode bytes with
  | case1 => rfl
  | case2 high low rest octet hoctet ih => exact absurd List.mem_cons_self h
  | case3 high low rest hoctet ih => exact absurd List.mem_cons_self h
  | case4 b bytes hno ih =>
    rw [List.mem_cons, not_or] at h
    rw [ih h.2]

theorem Host.isDomain_of_isHostName {host : Text} (h : IsHostName host) : Host.isDomain host := by
  have hbracket : Host.bracketed? host = none := by
    obtain ⟨c, t, hhost⟩ := List.exists_cons_of_ne_nil h.filled
    have hc : c ≠ '[' := h.forall_mem (p := (· ≠ '[')) (by decide) (by decide) (by decide) c (by simp [hhost])
    rw [Host.bracketed?, hhost, show after? ['['] (c :: t) = none from if_neg hc.symm]
    rfl
  have hascii : ∀ c ∈ host, c.toNat < 128 ∧ Domain.isSeparator c = false :=
    h.forall_mem (by decide) (by decide) (by decide)
  have hpercent : 37 ∉ Utf8.encode host := by
    intro hmem
    have hchar : '%' ∈ host := Utf8.mem_of_mem_encode (b := 37) (by decide) hmem
    exact absurd (hascii '%' hchar).2 (by decide)
  have hdomain : Host.domain? host = some host.foldCase := by
    rw [Host.domain?, Percent.decode_of_not_mem hpercent, Domain.plain?_of_ascii hascii h.literal]
  have hfilled : host.foldCase ≠ [] := fun hnil => h.filled (List.map_eq_nil_iff.1 hnil)
  rw [Host.isDomain, hbracket, hdomain]
  simp [hfilled, h.named]

/-- The length of a host ends where the path begins. -/
theorem hostLength_append {host root : Text}
    (hhost : ∀ c ∈ host, endsAuthority true c = false ∧ c ≠ ':' ∧ c ≠ '[' ∧ c ≠ ']')
    (hroot : ∀ c ∈ root.head?, c = '/') : hostLength true false (host ++ root) = host.length := by
  induction host with
  | nil =>
    cases root with
    | nil => rfl
    | cons c root =>
      obtain rfl := hroot c rfl
      rfl
  | cons c host ih =>
    rw [List.forall_mem_cons] at hhost
    obtain ⟨⟨hends, hcolon, hopen, hclose⟩, hrest⟩ := hhost
    rw [List.cons_append, hostLength, if_neg (by simp [hends, hcolon]), if_neg hopen, if_neg hclose,
      ih hrest, List.length_cons]

theorem dropAuthority?_of_isHostName {host root : Text} (h : IsHostName host)
    (hroot : ∀ c ∈ root.head?, c = '/') : dropAuthority? true (host ++ root) = some root := by
  have hends : ∀ c ∈ host, (!endsAuthority true c) = true :=
    h.forall_mem (by decide) (by decide) (by decide)
  have hstop : root.takeWhile (!endsAuthority true ·) = [] := by
    cases root with
    | nil => rfl
    | cons c root =>
      obtain rfl := hroot c rfl
      rfl
  have huser : dropUser? true (host ++ root) = some (false, host ++ root) := by
    have hat : '@' ∉ host.reverse := by
      intro hmem
      have hno := h.forall_mem (p := (· ≠ '@')) (by decide) (by decide) (by decide)
      exact hno '@' (List.mem_reverse.1 hmem) rfl
    rw [dropUser?, List.takeWhile_append_of_pos hends, hstop, List.append_nil, cut?_eq_none_iff.2 hat]
  have hlength : hostLength true false (host ++ root) = host.length :=
    hostLength_append (h.forall_mem (by decide) (by decide) (by decide)) hroot
  have hnumber : dropNumber? root = some root := by
    cases root with
    | nil => rfl
    | cons c root =>
      obtain rfl := hroot c rfl
      rfl
  rw [dropAuthority?, huser]
  simp only [Option.bind_eq_bind, Option.bind_some, hlength, List.take_left, List.drop_left, if_true]
  rw [if_neg h.filled, Host.isDomain_of_isHostName h, if_pos rfl, hnumber]

/-! ### Addresses -/

/-- The schemes of the web. -/
def webSchemes : List Text := ["http".toList, "https".toList]

/-- **What begins with a slash is no address**, since it has no scheme. -/
theorem parse?_of_slash (t : Text) : parse? ('/' :: t) = none := by
  have htrim : trimControls ('/' :: t) = '/' :: dropTail (·.toNat ≤ 0x20) t := by
    have hdrop : ('/' :: t).dropWhile (·.toNat ≤ 0x20) = '/' :: t := rfl
    rw [trimControls, hdrop]
    exact dropTail_append (l := []) (by decide) t
  have hscheme : scheme? ('/' :: dropTail (·.toNat ≤ 0x20) t) = none := by
    generalize dropTail (·.toNat ≤ 0x20) t = s
    rw [scheme?]
    cases hcut : cut? ':' ('/' :: s) with
    | none => rfl
    | some p =>
      obtain ⟨scheme, rest⟩ := p
      obtain ⟨hsplit, -⟩ := cut?_eq_some_iff.1 hcut
      cases scheme with
      | nil => cases hsplit
      | cons c scheme =>
        obtain ⟨rfl, -⟩ := List.cons.inj hsplit
        rfl
  rw [parse?, htrim, hscheme]
  rfl

/-- What is part of an address wherever it stands: no space, control, question mark or number sign. -/
def isInner (c : Char) : Bool := 0x20 < c.toNat && c ≠ '?' && c ≠ '#'

section Inner

variable {t : Text} (h : ∀ c ∈ t, isInner c)

include h

theorem trimControls_of_isInner : trimControls t = t := by
  have hspace : ∀ c ∈ t, decide (c.toNat ≤ 0x20) = false := by
    intro c hc
    have hinner := h c hc
    simp only [isInner, Bool.and_eq_true, decide_eq_true_eq] at hinner
    exact decide_eq_false (Nat.not_le_of_lt hinner.1.1)
  rw [trimControls, dropWhile_eq_self fun c hc => hspace c (List.mem_of_mem_head? hc),
    dropTail_eq_self hspace]

theorem dropBreaks_of_isInner : Path.dropBreaks t = t := by
  apply Path.dropBreaks_eq_self
  intro c hc
  cases hbreak : Path.isBreak c with
  | false => rfl
  | true =>
    have hinner := h c hc
    simp only [Path.isBreak, decide_eq_true_eq, List.mem_cons, List.not_mem_nil, or_false] at hbreak
    rcases hbreak with rfl | rfl | rfl
    all_goals exact absurd hinner (by decide)

theorem pathPart_of_isInner : pathPart t = t := by
  rw [pathPart, List.takeWhile_eq_self_iff]
  intro c hc
  have hinner := h c hc
  rw [isInner, Bool.and_assoc, Bool.and_eq_true] at hinner
  exact hinner.2

end Inner

section Address

variable {scheme : Text} (hscheme : scheme ∈ webSchemes)

include hscheme

theorem scheme?_of_mem_webSchemes (rest : Text) :
    scheme? (scheme ++ ':' :: rest) = some (scheme, rest) ∧ Kind.ofScheme scheme = .special := by
  rcases List.mem_cons.1 hscheme with rfl | hscheme
  · exact ⟨rfl, rfl⟩
  · obtain rfl := List.mem_singleton.1 hscheme
    exact ⟨rfl, rfl⟩

/-- **An address of a plain host** is read with the path that it writes. -/
theorem parse?_of_isHostName {host : Text} (h : IsHostName host) {segments : List Text}
    (hsegments : ArePlain segments) :
    parse? (scheme ++ "://".toList ++ host ++ render segments)
      = some { scheme, path := if render segments = [] then ['/'] else render segments } := by
  have hhost : ∀ c ∈ host, isInner c := h.forall_mem (by decide) (by decide) (by decide)
  have hroot : ∀ c ∈ render segments, isInner c := by
    intro c hc
    rcases Path.eq_slash_or_isAlphanum_of_mem hsegments hc with rfl | hc
    · decide
    · exact Text.alphanum_cases (p := fun c => isInner c) (by decide) hc
  have hweb : ∀ s ∈ webSchemes, (s ++ "://".toList).all isInner := by decide
  have hrest : ∀ c ∈ "//".toList ++ (host ++ render segments), isInner c := by
    intro c hc
    rw [List.mem_append, List.mem_append] at hc
    rcases hc with hc | hc | hc
    · exact List.all_eq_true.1 (hweb scheme hscheme) c
        (List.mem_append_right scheme (List.mem_cons_of_mem ':' hc))
    · exact hhost c hc
    · exact hroot c hc
  have haddress : scheme ++ "://".toList ++ host ++ render segments
      = scheme ++ ':' :: ("//".toList ++ (host ++ render segments)) := by
    simp
  have hall : ∀ c ∈ scheme ++ ':' :: ("//".toList ++ (host ++ render segments)), isInner c := by
    intro c hc
    rw [List.mem_append, List.mem_cons] at hc
    rcases hc with hc | rfl | hc
    · exact List.all_eq_true.1 (hweb scheme hscheme) c (List.mem_append_left _ hc)
    · decide
    · exact hrest c hc
  obtain ⟨hread, hkind⟩ := scheme?_of_mem_webSchemes hscheme ("//".toList ++ (host ++ render segments))
  have hslashes : ("//".toList ++ (host ++ render segments)).dropWhile (isSlash true)
      = host ++ render segments := by
    have hhead : ∀ c ∈ (host ++ render segments).head?, isSlash true c = false := by
      obtain ⟨c, t, rfl⟩ := List.exists_cons_of_ne_nil h.filled
      have hc : ∀ d ∈ c :: t, isSlash true d = false :=
        h.forall_mem (by decide) (by decide) (by decide)
      intro d hd
      obtain rfl : c = d := Option.some.inj hd
      exact hc c List.mem_cons_self
    exact dropWhile_eq_self hhead
  have hhead : ∀ c ∈ (render segments).head?, c = '/' := by
    cases segments with
    | nil => simp [render]
    | cons s segments => simp [render]
  rw [haddress, parse?, trimControls_of_isInner hall, hread]
  simp only [Option.bind_eq_bind, Option.bind_some, hkind]
  rw [dropBreaks_of_isInner hrest, hslashes, dropAuthority?_of_isHostName h hhead, Option.bind_some,
    pathPart_of_isInner hroot, Path.read_render hsegments]

end Address

end Url

end BatchExchange
