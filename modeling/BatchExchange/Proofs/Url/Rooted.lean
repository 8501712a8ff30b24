import BatchExchange.Proofs.Text
import BatchExchange.Url

/-!
# Where paths of addresses begin

The path of an address is empty or begins with a slash, with one exception: behind a scheme without rules of its
own, a text that begins with anything else is taken as it is.  No path has a question mark in it, since that is
escaped in segments and ends a text.

* `Url.IsRooted`: paths that are empty or begin with a slash.
* `Url.IsOpaque`: addresses with a text in the place of a path.
* `Url.shape_of_parse?`: the paths of all addresses.
-/

namespace BatchExchange.Url

/-- The path is empty or begins with a slash. -/
def IsRooted (path : Text) : Prop := path = [] ∨ path.head? = some '/'

/-- Behind the scheme, which has no rules of its own, the address goes on with neither a slash nor query and
fragment. -/
def IsOpaque (t : Text) : Prop :=
  ∃ scheme rest, scheme? (trimControls t) = some (scheme, rest) ∧ Kind.ofScheme scheme = .general ∧
    ∃ c ∈ (Path.dropBreaks rest).head?, c ≠ '/' ∧ c ≠ '?' ∧ c ≠ '#'

/-! ### Escapes -/

namespace Percent

theorem question_not_mem_encodeOctet (b : UInt8) : '?' ∉ encodeOctet b := by
  have hdigit : ∀ n < 16, '?' ≠ Hexadecimal.upper n := by decide
  have hb : b.toNat < 256 := b.toNat_lt
  have hhigh := hdigit (b.toNat / 16) (by omega)
  have hlow := hdigit (b.toNat % 16) (by omega)
  simp [encodeOctet, Hexadecimal.octet, hhigh, hlow]

/-- What is escaped stands nowhere in an escaped text. -/
theorem question_not_mem_encode {escaped : Char → Bool} {t : Text} (h : '?' ∈ t → escaped '?') :
    '?' ∉ encode escaped t := by
  intro hmem
  obtain ⟨c, hc, hmem⟩ := List.mem_flatMap.1 hmem
  split at hmem
  · obtain ⟨b, -, hb⟩ := List.mem_flatMap.1 hmem
    exact question_not_mem_encodeOctet b hb
  · rename_i hkept
    rw [List.mem_singleton] at hmem
    subst hmem
    exact hkept (h hc)

/-- An escaped text begins with a slash only if the text does. -/
theorem head?_encode_cons (escaped : Char → Bool) {c : Char} (hc : c ≠ '/') (t : Text) :
    ∃ d, (encode escaped (c :: t)).head? = some d ∧ d ≠ '/' := by
  rw [encode, List.flatMap_cons]
  by_cases hescaped : escaped c
  · obtain ⟨b, bytes, hbytes⟩ := List.exists_cons_of_ne_nil (Utf8.encodeChar_ne_nil c)
    rw [if_pos hescaped, hbytes]
    exact ⟨'%', rfl, by decide⟩
  · rw [if_neg hescaped]
    exact ⟨c, rfl, hc⟩

end Percent

/-! ### Segments -/

namespace Path

theorem isRooted_render (segments : List Text) : IsRooted (render segments) := by
  cases segments with
  | nil => exact .inl rfl
  | cons s segments => exact .inr rfl

theorem question_not_mem_render {segments : List Text} (h : ∀ s ∈ segments, '?' ∉ s) : '?' ∉ render segments := by
  intro hmem
  obtain ⟨s, hs, hmem⟩ := List.mem_flatMap.1 hmem
  rcases List.mem_cons.1 hmem with heq | hmem
  · exact absurd heq (by decide)
  · exact h s hs hmem

theorem question_not_mem_encode (segment : Text) : '?' ∉ encode segment :=
  Percent.question_not_mem_encode fun _ => by decide

theorem question_not_mem_of_isDrive {segment : Text} (h : isDrive segment) : '?' ∉ segment.take 1 ++ [':'] := by
  match segment, h with
  | [letter, _], h =>
    rw [isDrive, Bool.and_eq_true] at h
    have hletter : '?' ≠ letter := by
      rintro rfl
      exact absurd h.1 (by decide)
    simp [hletter]

theorem question_not_mem_of_cutDrive? {segment drive rest : Text} (h : cutDrive? segment = some (drive, rest)) :
    '?' ∉ drive := by
  rw [cutDrive?] at h
  split at h
  · cases h
  split at h
  · split at h
    · rename_i letter _ _ _ _ _ _ hdrive
      cases h
      rw [Bool.and_eq_true, Bool.and_eq_true] at hdrive
      have hletter : '?' ≠ letter := by
        rintro rfl
        exact absurd hdrive.1.1 (by decide)
      simp [hletter]
    · cases h
  · cases h

theorem question_not_mem_first {segment s : Text} (hs : s ∈ first segment) : '?' ∉ s := by
  rw [first] at hs
  split at hs
  · rename_i hdrive
    rw [List.mem_singleton.1 hs]
    exact question_not_mem_of_isDrive hdrive
  split at hs
  · rename_i drive rest hcut
    rcases List.mem_cons.1 hs with rfl | hs
    · exact question_not_mem_of_cutDrive? hcut
    · rw [List.mem_singleton.1 hs]
      exact question_not_mem_encode rest
  · rw [List.mem_singleton.1 hs]
    exact question_not_mem_encode _

/-- **No segment of a path has a question mark**, if none had before. -/
theorem question_not_mem_resolve {file : Bool} {done : List Text} (hdone : ∀ s ∈ done, '?' ∉ s)
    (segments : List Text) : ∀ s ∈ resolve file done segments, '?' ∉ s := by
  have hstop : ∀ rest : List Text, ∀ s ∈ (if rest = [] then [[]] else [] : List Text), '?' ∉ s := by
    intro rest s hs
    split at hs
    · rw [List.mem_singleton.1 hs]
      exact List.not_mem_nil
    · cases hs
  induction segments generalizing done with
  | nil => exact hdone
  | cons segment rest ih =>
    rw [resolve]
    split
    · refine ih (List.forall_mem_append.2 ⟨fun s hs => ?_, hstop rest⟩)
      rw [shorten] at hs
      split at hs
      · exact hdone s hs
      · exact hdone s ((List.dropLast_sublist done).subset hs)
    split
    · exact ih (List.forall_mem_append.2 ⟨hdone, hstop rest⟩)
    split
    · exact ih fun s hs => question_not_mem_first hs
    · refine ih (List.forall_mem_append.2 ⟨hdone, ?_⟩)
      exact List.forall_mem_singleton.2 (question_not_mem_encode _)

theorem question_not_mem_render_resolve (file : Bool) (segments : List Text) :
    '?' ∉ render (resolve file [] segments) :=
  question_not_mem_render (question_not_mem_resolve (List.forall_mem_nil _) segments)

theorem shape_read (special : Bool) (t : Text) : '?' ∉ read special t ∧ IsRooted (read special t) := by
  constructor
  · exact question_not_mem_render_resolve false _
  · exact isRooted_render _

theorem shape_readFile (t : Text) : '?' ∉ readFile t ∧ IsRooted (readFile t) := by
  refine ⟨?_, .inr rfl⟩
  rw [readFile, List.mem_cons, not_or]
  refine ⟨by decide, fun hmem => ?_⟩
  exact question_not_mem_render_resolve true _ ((List.dropWhile_sublist _).subset hmem)

end Path

/-! ### Addresses -/

theorem question_not_mem_pathPart (t : Text) : '?' ∉ pathPart t := by
  intro hmem
  have hkept := List.mem_takeWhile_imp hmem
  exact absurd hkept (by decide)

theorem shape_of_filePath? {t path : Text} (h : filePath? t = some path) : '?' ∉ path ∧ IsRooted path := by
  rw [filePath?] at h
  split at h
  · cases h
    exact Path.shape_readFile _
  · dsimp only at h
    split_ifs at h
    all_goals
      cases h
      exact Path.shape_readFile _

/-- A text that is taken as it is has a slash in front of nothing only. -/
theorem isRooted_encode_pathPart_iff {t : Text} (hslash : t.head? ≠ some '/') :
    IsRooted (Percent.encode Percent.isControl (pathPart t)) ↔
      ¬∃ c ∈ t.head?, c ≠ '/' ∧ c ≠ '?' ∧ c ≠ '#' := by
  cases t with
  | nil =>
    refine iff_of_true (.inl rfl) ?_
    rintro ⟨c, hc, -⟩
    cases hc
  | cons c t =>
    have hc : c ≠ '/' := fun e => hslash (congrArg some e)
    by_cases hend : c = '?' ∨ c = '#'
    · have hpart : pathPart (c :: t) = [] := by
        rcases hend with rfl | rfl
        · rfl
        · rfl
      rw [hpart]
      refine iff_of_true (.inl rfl) ?_
      rintro ⟨_, ⟨⟩, -, hquestion, hnumber⟩
      exact hend.elim hquestion hnumber
    · rw [not_or] at hend
      have hpart : pathPart (c :: t) = c :: pathPart t := List.takeWhile_cons_of_pos (by simp [hend])
      obtain ⟨d, hd, hne⟩ := Percent.head?_encode_cons Percent.isControl hc (pathPart t)
      rw [hpart]
      refine iff_of_false ?_ (not_not_intro ⟨c, rfl, hc, hend⟩)
      rintro (hnil | hroot)
      · rw [hnil] at hd
        cases hd
      · rw [hd] at hroot
        exact hne (Option.some.inj hroot)

/-- **Behind a scheme without rules of its own** the path is rooted, unless it is a text taken as it is. -/
theorem shape_of_generalPath? {t path : Text} (h : generalPath? t = some path) :
    '?' ∉ path ∧ (IsRooted path ↔ ¬∃ c ∈ t.head?, c ≠ '/' ∧ c ≠ '?' ∧ c ≠ '#') := by
  have hrooted : ∀ {path}, '?' ∉ path ∧ IsRooted path → t.head? = some '/' →
      '?' ∉ path ∧ (IsRooted path ↔ ¬∃ c ∈ t.head?, c ≠ '/' ∧ c ≠ '?' ∧ c ≠ '#') := by
    rintro path ⟨hquery, hrooted⟩ hhead
    refine ⟨hquery, iff_of_true hrooted ?_⟩
    rw [hhead]
    rintro ⟨_, ⟨⟩, hslash, -⟩
    exact hslash rfl
  rw [generalPath?] at h
  split at h
  · rename_i rest hafter
    have hhead : t.head? = some '/' := by
      rw [after?_eq_some_iff.1 hafter]
      rfl
    obtain ⟨rest, -, h⟩ := Option.bind_eq_some_iff.1 h
    dsimp only at h
    split_ifs at h
    · cases h
      exact hrooted ⟨List.not_mem_nil, .inl rfl⟩ hhead
    · cases h
      exact hrooted (Path.shape_read false _) hhead
  · split at h
    · rename_i hhead
      cases h
      exact hrooted (Path.shape_read false _) hhead
    · rename_i hhead
      cases h
      refine ⟨?_, isRooted_encode_pathPart_iff hhead⟩
      exact Percent.question_not_mem_encode fun hmem => absurd hmem (question_not_mem_pathPart t)

theorem isOpaque_iff {t scheme rest : Text} (hscheme : scheme? (trimControls t) = some (scheme, rest)) :
    IsOpaque t ↔ Kind.ofScheme scheme = .general ∧
      ∃ c ∈ (Path.dropBreaks rest).head?, c ≠ '/' ∧ c ≠ '?' ∧ c ≠ '#' := by
  constructor
  · rintro ⟨scheme', rest', hscheme', hkind, hrest⟩
    cases hscheme.symm.trans hscheme'
    exact ⟨hkind, hrest⟩
  · rintro ⟨hkind, hrest⟩
    exact ⟨scheme, rest, hscheme, hkind, hrest⟩

/-- **The path of an address** has no question mark, and is rooted exactly when the address is not opaque. -/
theorem shape_of_parse? {t : Text} {url : Url} (h : parse? t = some url) :
    '?' ∉ url.path ∧ (IsRooted url.path ↔ ¬IsOpaque t) := by
  rw [parse?] at h
  obtain ⟨⟨scheme, rest⟩, hscheme, h⟩ := Option.bind_eq_some_iff.1 h
  rw [isOpaque_iff hscheme]
  dsimp only at h
  -- only an address of a general scheme can be opaque
  split at h
  · rename_i hkind
    obtain ⟨path, hpath, h⟩ := Option.bind_eq_some_iff.1 h
    cases h
    obtain ⟨hquery, hrooted⟩ := shape_of_filePath? hpath
    exact ⟨hquery, iff_of_true hrooted fun h => (nomatch hkind.symm.trans h.1)⟩
  · rename_i hkind
    obtain ⟨behind, -, h⟩ := Option.bind_eq_some_iff.1 h
    cases h
    obtain ⟨hquery, hrooted⟩ := Path.shape_read true (pathPart behind)
    exact ⟨hquery, iff_of_true hrooted fun h => (nomatch hkind.symm.trans h.1)⟩
  · rename_i hkind
    obtain ⟨path, hpath, h⟩ := Option.bind_eq_some_iff.1 h
    cases h
    obtain ⟨hquery, hrooted⟩ := shape_of_generalPath? hpath
    refine ⟨hquery, hrooted.trans (not_congr ?_)⟩
    exact ⟨fun hrest => ⟨hkind, hrest⟩, fun h => h.2⟩

end BatchExchange.Url
