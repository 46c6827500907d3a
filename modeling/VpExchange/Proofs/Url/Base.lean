import VpExchange.Proofs.Url.Delimiters

set_option autoImplicit false

namespace VpExchange

namespace Url

def EndsOpen (cs : List Char) : Prop := ∀ c ∈ cs.getLast?, c = '/'

namespace EndsOpen

theorem of_suffix {cs ds : List Char} (h : EndsOpen ds) (suffix : cs <:+ ds) : EndsOpen cs := by
  intro c last
  obtain ⟨front, rfl⟩ := suffix
  apply h c
  rw [List.getLast?_append, Option.mem_def.mp last]
  rfl

theorem slash_cons {cs : List Char} (h : EndsOpen cs) : EndsOpen ('/' :: cs) := by
  intro c last
  cases cs with
  | nil => simpa [eq_comm] using last
  | cons d cs => exact h c (by simpa using last)

theorem eq_nil_or {cs : List Char} (h : EndsOpen cs) : cs = [] ∨ ∃ front, cs = front ++ ['/'] := by
  rcases List.eq_nil_or_concat cs with rfl | ⟨front, last, rfl⟩
  · exact .inl rfl
  · obtain rfl := h last (by simp)
    exact .inr ⟨front, by simp⟩

theorem cleaned (front : List Char) : EndsOpen (cleaned (front ++ ['/'])) := by
  obtain ⟨kept, begun⟩ : ∃ kept, (front ++ ['/']).dropWhile (fun c => c.toNat ≤ 32) = kept ++ ['/'] := by
    induction front with
    | nil => exact ⟨[], rfl⟩
    | cons c front ih =>
      by_cases outer : c.toNat ≤ 32
      · simpa [outer] using ih
      · exact ⟨c :: front, by simp [outer]⟩
  have inner : (fun c : Char => decide (c.toNat ≤ 32)) '/' = false := rfl
  intro c last
  simp only [Url.cleaned, begun, List.reverse_append, List.reverse_singleton, List.singleton_append,
    List.dropWhile_cons, inner] at last
  simpa [eq_comm] using last

end EndsOpen

theorem suffix_of_splitScheme {cs rest : List Char} {scheme : String}
    (h : splitScheme? cs = some (scheme, rest)) : rest <:+ cs := by
  simp only [splitScheme?] at h
  split at h
  · next behind =>
    split_ifs at h
    cases h
    have colon : _ <:+ cs := List.dropWhile_suffix isSchemeChar
    rw [behind] at colon
    exact (List.suffix_cons _ _).trans colon
  · cases h

theorem suffix_splitHost (inside : Bool) (cs : List Char) : (splitHost inside cs).2 <:+ cs := by
  fun_induction splitHost inside cs with
  | case1 => exact List.suffix_rfl
  | case2 => exact List.suffix_rfl
  | case3 inside c rest _ inside' host rest' split ih =>
    rw [split] at ih
    exact ih.trans (List.suffix_cons c rest)

theorem suffix_splitUserinfo (cs : List Char) : (splitUserinfo cs).2 <:+ cs := by
  simp only [splitUserinfo]
  split_ifs
  · exact List.suffix_rfl
  · rw [← List.reverse_prefix, List.reverse_reverse]
    exact List.takeWhile_prefix _

theorem suffix_of_readAuthority {scheme : String} {cs rest : List Char} {a : Authority}
    (h : readAuthority scheme cs = .ok (a, rest)) : rest <:+ cs := by
  obtain ⟨-, -, -, -, rfl⟩ := readAuthority_eq_ok h
  have within := (List.dropWhile_suffix (· ≠ '\\')).trans
    ((suffix_splitHost false _).trans (suffix_splitUserinfo (cs.takeWhile fun c => !endsAuthority scheme c)))
  obtain ⟨front, parts⟩ := within
  refine ⟨front, ?_⟩
  rw [← List.append_assoc, parts, List.takeWhile_append_dropWhile]

theorem endsOpen_readFileAuthority {cs rest : List Char} {a : Authority} (ends : EndsOpen cs)
    (h : readFileAuthority cs = .ok (a, rest)) : EndsOpen rest := by
  obtain ⟨-, n, -, -, left⟩ := readFileAuthority_eq_ok h
  have behind : EndsOpen (cs.drop n) := ends.of_suffix (List.drop_suffix n cs)
  rcases left with rfl | rfl
  · exact behind
  · exact behind.slash_cons

theorem complete_of_parseFile {cs : List Char} {u : Url} (ends : EndsOpen cs) (h : parseFile cs = .ok u) :
    ∃ a rest, EndsOpen rest ∧ u = complete "file" a [] rest := by
  simp only [parseFile] at h
  split at h
  · split_ifs at h
    · obtain ⟨⟨a, rest⟩, read, ⟨⟩⟩ := bind_eq_ok_iff.mp h
      have behind := ends.of_suffix (List.suffix_append [_, _] _)
      exact ⟨_, _, endsOpen_readFileAuthority behind read, rfl⟩
    · cases h
      exact ⟨_, _, ends, rfl⟩
  · cases h
    exact ⟨_, _, ends, rfl⟩

theorem complete_of_parse {s : String} {u : Url} (h : parse s = .ok u) (ends : EndsOpen (cleaned s.toList)) :
    (∃ t, u.path = .rootless t) ∨ ∃ scheme a cs, EndsOpen cs ∧ u = complete scheme a [] cs := by
  rw [parse] at h
  split at h
  · cases h
  next scheme rest named =>
  replace ends := ends.of_suffix (suffix_of_splitScheme named)
  split_ifs at h with file special
  · obtain ⟨a, rest', ends', rfl⟩ := complete_of_parseFile ends h
    exact .inr ⟨_, _, _, ends', rfl⟩
  · obtain ⟨⟨a, rest'⟩, authority, ⟨⟩⟩ := bind_eq_ok_iff.mp h
    have suffix := (suffix_of_readAuthority authority).trans (List.dropWhile_suffix _)
    exact .inr ⟨scheme, _, _, ends.of_suffix suffix, rfl⟩
  · split at h
    · obtain ⟨⟨a, rest'⟩, authority, ⟨⟩⟩ := bind_eq_ok_iff.mp h
      have suffix := (suffix_of_readAuthority authority).trans (List.suffix_append ['/', '/'] _)
      exact .inr ⟨scheme, _, _, ends.of_suffix suffix, rfl⟩
    · cases h
      exact .inr ⟨scheme, _, _, ends, rfl⟩
    · cases h
      exact .inl ⟨_, rfl⟩

def isNameChar (c : Char) : Bool := c.isLower || c.isDigit || c == '-'

theorem toNat_lt_of_isNameChar {c : Char} (h : isNameChar c = true) : c.toNat < 128 := by
  have last {a b : UInt32} (within : (decide (c.val ≥ a) && decide (c.val ≤ b)) = true) : c.val ≤ b := by
    simp only [Bool.and_eq_true, decide_eq_true_eq] at within
    exact within.2
  simp only [isNameChar, Bool.or_eq_true, beq_iff_eq] at h
  rcases h with (lower | digit) | rfl
  · exact Nat.lt_of_le_of_lt (last lower) (by decide)
  · exact Nat.lt_of_le_of_lt (last digit) (by decide)
  · decide

-- What is written as it is in a path, and is none of the signs that paths are read by.
def StandsForItself (c : Char) : Prop :=
  c.toLower = c ∧ c ∉ ['.', '%', '/', '\\', ':', '|'] ∧ endsPath c = false ∧ 32 < c.toNat ∧
    percentChar EncodeSet.path c = [c]

instance (c : Char) : Decidable (StandsForItself c) := inferInstanceAs (Decidable (_ ∧ _))

theorem standsForItself_of_isNameChar {c : Char} (h : isNameChar c = true) : StandsForItself c := by
  exact @forall_char (fun c => isNameChar c = true → StandsForItself c) 128 (by decide +kernel) c
    (toNat_lt_of_isNameChar h) h

def IsName (cs : List Char) : Prop := ∀ c ∈ cs, StandsForItself c

instance (cs : List Char) : Decidable (IsName cs) := List.decidableBAll StandsForItself cs

namespace IsName

variable {name : List Char}

theorem plain (h : IsName name) : Plain name := fun c mem => (h c mem).2.2.1

theorem not_slash (h : IsName name) (scheme : String) : ∀ c ∈ name, isSlash scheme c = false := by
  intro c mem
  have := (h c mem).2.1
  simp only [List.mem_cons, not_or] at this
  simp [isSlash, this]

theorem percentEncode (h : IsName name) : percentEncode EncodeSet.path name = name := by
  induction name with
  | nil => rfl
  | cons c name ih =>
    have first := (h c List.mem_cons_self).2.2.2.2
    have rest := ih fun d mem => h d (List.mem_cons_of_mem c mem)
    rw [Url.percentEncode, List.flatMap_cons, first, ← Url.percentEncode, rest, List.singleton_append]

theorem not_dots (h : IsName name) : isSingleDot name = false ∧ isDoubleDot name = false := by
  cases name with
  | nil => exact ⟨rfl, rfl⟩
  | cons c name =>
    obtain ⟨lower, signs, -⟩ := h c List.mem_cons_self
    simp only [List.mem_cons, not_or] at signs
    simp [isSingleDot, isDoubleDot, lower, signs]

theorem not_drive (h : IsName name) : isDrive name = false := by
  match name with
  | [] | [_] | _ :: _ :: _ :: _ => rfl
  | [a, b] =>
    have signs := (h b (by simp)).2.1
    simp only [List.mem_cons, not_or] at signs
    simp [isDrive, signs]

end IsName

theorem EndsOpen.splitChars {cs : List Char} (h : EndsOpen cs) (scheme : String) :
    ∃ pieces, Text.splitChars (isSlash scheme) cs = pieces ++ [[]] := by
  rcases h.eq_nil_or with rfl | ⟨front, rfl⟩
  · exact ⟨[], rfl⟩
  · exact ⟨_, Text.splitChars_append_cons rfl front []⟩

theorem addSegment_of_name {name : List Char} (h : IsName name) (scheme : String) (isLast : Bool)
    (ss : List String) : addSegment scheme isLast ss name = ss ++ [String.ofList name] := by
  simp [addSegment, h.not_dots, h.not_drive, h.percentEncode]

theorem addSegments_append_nil (scheme : String) (ss : List String) (pieces : List (List Char)) :
    ∃ kept, addSegments scheme ss (pieces ++ [[]]) = kept ++ [""] := by
  induction pieces generalizing ss with
  | nil => exact ⟨ss, @addSegment_of_name [] nofun scheme true ss⟩
  | cons piece pieces ih => exact ih _

theorem EndsOpen.resolve {cs : List Char} (h : EndsOpen cs) (scheme : String) (ss : List String) :
    ∃ kept, resolve scheme ss cs = kept ++ [""] := by
  have close {cs : List Char} (h : EndsOpen cs) :
      ∃ kept, addSegments scheme ss (Text.splitChars (isSlash scheme) cs) = kept ++ [""] := by
    obtain ⟨pieces, split⟩ := h.splitChars scheme
    rw [split]
    exact addSegments_append_nil scheme ss pieces
  cases cs with
  | nil => exact close h
  | cons c rest =>
    simp only [Url.resolve]
    split_ifs
    · exact close (h.of_suffix (List.suffix_cons c rest))
    · exact close h

def Stays (scheme : String) (kept : List String) : Prop :=
  ∀ s rest, s ≠ "" → withoutLeadingEmpty scheme (kept ++ s :: rest) = kept ++ s :: rest

theorem stays_nil (scheme : String) : Stays scheme [] := by
  intro s rest some
  simp [withoutLeadingEmpty, some]

-- Under `file` empty segments in front go. What is kept is nothing or begins with one that is not empty, and
-- either way it is kept with other segments behind it too.
theorem withoutLeadingEmpty_append (scheme : String) (ss : List String) :
    ∃ kept, withoutLeadingEmpty scheme (ss ++ [""]) = kept ++ [""] ∧ Stays scheme kept := by
  cases file : isFile scheme with
  | false => exact ⟨ss, by simp [withoutLeadingEmpty, file], by simp [Stays, withoutLeadingEmpty, file]⟩
  | true =>
    cases behind : ss.dropWhile (· = "") with
    | nil =>
      refine ⟨[], ?_, stays_nil scheme⟩
      have all : ∀ s ∈ ss, decide (s = "") = true := List.dropWhile_eq_nil_iff.mp behind
      simp [withoutLeadingEmpty, file, List.dropWhile_append_of_pos all]
    | cons first kept =>
      have some : first ≠ "" := by
        have := @List.head_dropWhile_not _ (· = "") ss (by simp [behind])
        simpa [behind] using this
      refine ⟨first :: kept, ?_, ?_⟩
      · simp [withoutLeadingEmpty, file, List.dropWhile_append, behind]
      · intro s rest _
        simp [withoutLeadingEmpty, file, some]

theorem pathText_of_bare (scheme : String) {cs : List Char}
    (bare : queryAndFragment scheme (cs.dropWhile fun c => !endsPath c) = (none, none)) :
    pathText cs = cs := by
  have ended : cs.dropWhile (fun c => !endsPath c) = [] := by
    cases behind : cs.dropWhile (fun c => !endsPath c) with
    | nil => rfl
    | cons c rest =>
      have ends : endsPath c = true := by
        have := @List.head_dropWhile_not _ (fun c => !endsPath c) cs (by simp [behind])
        simpa [behind] using this
      rw [behind] at bare
      rcases endsPath_iff.mp ends with rfl | rfl
      · simp only [queryAndFragment] at bare
        split at bare <;> cases bare
      · cases bare
  calc pathText cs = pathText cs ++ cs.dropWhile (fun c => !endsPath c) := by rw [ended, List.append_nil]
    _ = cs := List.takeWhile_append_dropWhile

theorem path_of_bare {scheme : String} {a : Option Authority} {cs : List Char} (ends : EndsOpen cs)
    (query : (complete scheme a [] cs).query = none) (fragment : (complete scheme a [] cs).fragment = none) :
    (complete scheme a [] cs).path = .segments [] ∨
      ∃ kept, (complete scheme a [] cs).path = .segments (kept ++ [""]) ∧ Stays scheme kept := by
  have whole : pathText cs = cs := pathText_of_bare scheme (Prod.ext query fragment)
  simp only [complete, whole]
  split_ifs
  · exact .inl rfl
  · obtain ⟨front, resolved⟩ := ends.resolve scheme []
    obtain ⟨kept, closed, stays⟩ := withoutLeadingEmpty_append scheme front
    exact .inr ⟨kept, by rw [resolved, closed], stays⟩

theorem cleaned_of_visible {cs : List Char} (h : ∀ c ∈ cs, 32 < c.toNat) : cleaned cs = cs := by
  have front {cs : List Char} (h : ∀ c ∈ cs, 32 < c.toNat) : cs.dropWhile (fun c => c.toNat ≤ 32) = cs := by
    cases cs with
    | nil => rfl
    | cons c cs =>
      have := h c List.mem_cons_self
      simp [show ¬c.toNat ≤ 32 by omega]
  have back : ∀ c ∈ cs.reverse, 32 < c.toNat := by simpa using h
  have kept : ∀ c ∈ cs, decide (c ≠ '\t' ∧ c ≠ '\n' ∧ c ≠ '\r') = true := by
    intro c mem
    have visible := h c mem
    refine decide_eq_true ⟨?_, ?_, ?_⟩ <;> rintro rfl <;> exact absurd visible (by decide)
  rw [cleaned, front h, front back, List.reverse_reverse, List.filter_eq_self.mpr kept]

theorem complete_of_plain {scheme : String} {a : Option Authority} {before : List String} {cs : List Char}
    (h : Plain cs) (some : cs ≠ []) : complete scheme a before cs =
      ⟨scheme, a, .segments (withoutLeadingEmpty scheme (resolve scheme before cs)), none, none⟩ := by
  have whole : ∀ c ∈ cs, (!endsPath c) = true := by simpa [Plain] using h
  have path : pathText cs = cs := List.takeWhile_eq_self_iff.mpr whole
  simp [complete, path, List.dropWhile_eq_nil_iff.mpr whole, queryAndFragment, some]

theorem cleaned_names {dir name : String} (hd : IsName dir.toList) (hn : IsName name.toList) :
    cleaned (dir ++ "/" ++ name).toList = dir.toList ++ '/' :: name.toList := by
  have text : (dir ++ "/" ++ name).toList = dir.toList ++ '/' :: name.toList := by simp
  rw [text]
  apply cleaned_of_visible
  intro c mem
  rcases List.mem_append.mp mem with mem | mem
  · exact (hd c mem).2.2.2.1
  · rcases List.mem_cons.mp mem with rfl | mem
    · decide
    · exact (hn c mem).2.2.2.1

theorem plain_names {dir name : String} (hd : IsName dir.toList) (hn : IsName name.toList) :
    Plain (dir.toList ++ '/' :: name.toList) := by
  simp [hd.plain, hn.plain, show endsPath '/' = false from rfl]

theorem complete_names {scheme : String} {a : Option Authority} {kept : List String} {dir name : String}
    (stays : Stays scheme kept) (some : dir ≠ "") (hd : IsName dir.toList) (hn : IsName name.toList) :
    complete scheme a kept (cleaned (dir ++ "/" ++ name).toList) =
      ⟨scheme, a, .segments (kept ++ [dir, name]), none, none⟩ := by
  have pieces : Text.splitChars (isSlash scheme) (dir.toList ++ '/' :: name.toList) =
      [dir.toList, name.toList] := by
    rw [Text.splitChars_append_cons rfl, Text.splitChars_of_forall (hd.not_slash scheme),
      Text.splitChars_of_forall (hn.not_slash scheme)]
    rfl
  have resolved : resolve scheme kept (dir.toList ++ '/' :: name.toList) = kept ++ [dir, name] := by
    have added : addSegments scheme kept [dir.toList, name.toList] = kept ++ [dir, name] := by
      simp [addSegments, addSegment_of_name hd, addSegment_of_name hn]
    rw [← added, ← pieces]
    cases front : dir.toList with
    | nil => exact absurd (by simpa using front) some
    | cons c rest =>
      have other := hd.not_slash scheme c (by simp [front])
      simp [resolve, other]
  rw [cleaned_names hd hn, complete_of_plain (plain_names hd hn) (by simp), resolved, stays dir [name] some]

theorem text_segments (hasAuthority : Bool) (ss : List String) : (Path.segments ss).text hasAuthority =
    (if hasAuthority = false ∧ ss.head? = some "" ∧ 1 < ss.length then "/." else "") ++
      String.join (ss.map ("/" ++ ·)) := by
  match hasAuthority, ss with
  | true, ss => simp [Path.text]
  | false, [] => simp [Path.text]
  | false, [first] => simp [Path.text]
  | false, first :: second :: rest =>
    by_cases empty : first = ""
    · subst empty
      simp [Path.text]
    · simp [Path.text, empty]

theorem text_names {u : Url} {kept : List String} {dir name : String}
    (path : u.path = .segments (kept ++ [""])) (query : u.query = none) (fragment : u.fragment = none)
    (some : dir ≠ "") :
    ({ u with path := .segments (kept ++ [dir, name]) } : Url).text = u.text ++ dir ++ "/" ++ name := by
  have same (hasAuthority : Bool) : (Path.segments (kept ++ [dir, name])).text hasAuthority =
      (Path.segments (kept ++ [""])).text hasAuthority ++ dir ++ "/" ++ name := by
    -- Whether the path is marked as one depends on its first two segments, of which the first is kept.
    have joined : String.join ((kept ++ [dir, name]).map ("/" ++ ·)) =
        String.join ((kept ++ [""]).map ("/" ++ ·)) ++ dir ++ "/" ++ name := by
      simp [String.join_append, String.append_assoc]
    rw [text_segments, text_segments, joined]
    cases kept <;> simp [some, String.append_assoc]
  simp [text, path, query, fragment, same, String.append_assoc]

theorem text_names_of_pathless {u : Url} {dir name : String} (path : u.path = .segments [])
    (query : u.query = none) (fragment : u.fragment = none) (some : dir ≠ "") :
    ({ u with path := .segments [dir, name] } : Url).text = u.text ++ "/" ++ dir ++ "/" ++ name := by
  have marked (hasAuthority : Bool) :
      (Path.segments [dir, name]).text hasAuthority = "/" ++ dir ++ "/" ++ name := by
    simp [text_segments, some, String.append_assoc]
  have empty (hasAuthority : Bool) : (Path.segments []).text hasAuthority = "" := by
    simp [text_segments]
  simp [text, path, query, fragment, marked, empty, String.append_assoc]

theorem join_of_closed {base : Url} {kept : List String} (path : base.path = .segments (kept ++ [""]))
    (relative : String) :
    base.join relative = .ok (complete base.scheme base.authority kept (cleaned relative.toList)) := by
  simp [join, path, show isPlainDrive "" = false from rfl]

theorem join_of_pathless {base : Url} (path : base.path = .segments []) (relative : String) :
    base.join relative = .ok (complete base.scheme base.authority [] (cleaned relative.toList)) := by
  simp [join, path]

theorem join_of_bare {scheme : String} {a : Option Authority} {cs : List Char} {dir name : String}
    (ends : EndsOpen cs) (some : dir ≠ "") (hd : IsName dir.toList) (hn : IsName name.toList) {base : Url}
    (shape : base = complete scheme a [] cs) (query : base.query = none) (fragment : base.fragment = none) :
    ∃ u, base.join (dir ++ "/" ++ name) = .ok u ∧
      u.text = base.text ++ (if base.path = .segments [] then "/" else "") ++ dir ++ "/" ++ name := by
  have closed := @path_of_bare scheme a cs ends (shape ▸ query) (shape ▸ fragment)
  rw [← shape] at closed
  have scheme' : base.scheme = scheme := shape ▸ rfl
  rcases closed with path | ⟨kept, path, stays⟩
  · refine ⟨_, join_of_pathless path _, ?_⟩
    rw [complete_names (stays_nil _) some hd hn, if_pos path,
      ← text_names_of_pathless path query fragment some, query, fragment]
    rfl
  · refine ⟨_, join_of_closed path _, ?_⟩
    have more : base.path ≠ .segments [] := by simp [path]
    rw [complete_names (scheme' ▸ stays) some hd hn, if_neg more, String.append_empty,
      ← text_names path query fragment some, query, fragment]

theorem bare_of_complete {scheme : String} {a : Option Authority} {before : List String} {cs : List Char}
    (h : Plain cs) :
    (complete scheme a before cs).query = none ∧ (complete scheme a before cs).fragment = none := by
  have whole : ∀ c ∈ cs, (!endsPath c) = true := by simpa [Plain] using h
  simp [complete, List.dropWhile_eq_nil_iff.mpr whole, queryAndFragment]

theorem bare_of_join {base u : Url} {relative : String} (h : base.Delimited)
    (plain : Plain (cleaned relative.toList)) (joined : base.join relative = .ok u) :
    u.scheme = base.scheme ∧ u.authority = base.authority ∧ u.query = none ∧ u.fragment = none := by
  have close {before : List String} {cs : List Char} (plain : Plain cs) :
      (complete base.scheme base.authority before cs).scheme = base.scheme ∧
      (complete base.scheme base.authority before cs).authority = base.authority ∧
      (complete base.scheme base.authority before cs).query = none ∧
      (complete base.scheme base.authority before cs).fragment = none := ⟨rfl, rfl, bare_of_complete plain⟩
  rw [join] at joined
  cases path : base.path with
  | rootless s => simp [path] at joined
  | segments ss =>
    simp only [path, Except.ok.injEq] at joined
    subst joined
    have kept := h.path
    rw [path] at kept
    split
    · next last given =>
      have drive : Plain (last.toList ++ cleaned relative.toList) :=
        Plain.append_iff.mpr ⟨kept last (List.mem_of_getLast? given), plain⟩
      split_ifs
      · exact close plain
      · exact close drive
      · exact close plain
    · exact close plain

theorem Delimited.plain_text_iff {u : Url} (h : u.Delimited) :
    Plain u.text.toList ↔ u.query = none ∧ u.fragment = none := by
  rw [toList_text, Plain.append_iff, behind]
  constructor
  · rintro ⟨-, plain⟩
    cases query : u.query <;> cases fragment : u.fragment <;> simp_all [endsPath]
  · rintro ⟨query, fragment⟩
    simp [query, fragment, h.front]

end Url

end VpExchange
