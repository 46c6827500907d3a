import VpExchange.Proofs.Url.Plain

set_option autoImplicit false

namespace VpExchange

namespace Url

def Path.Plain : Path → Prop
  | .segments ss => ∀ s ∈ ss, Url.Plain s.toList
  | .rootless s => Url.Plain s.toList

theorem endsPath_of_isAlpha {c : Char} (h : c.isAlpha = true) : endsPath c = false := by
  by_contra ends
  rcases endsPath_iff.mp (by simpa using ends) with rfl | rfl <;> cases h

theorem plain_of_isDrive {cs : List Char} (h : isDrive cs = true) : Plain (cs.take 1 ++ [':']) := by
  match cs, h with
  | [a, b], h =>
    simp only [isDrive, Bool.and_eq_true] at h
    simp [endsPath_of_isAlpha h.1, show endsPath ':' = false from rfl]

theorem plain_shorten {ss : List String} (h : ∀ s ∈ ss, Plain s.toList) :
    ∀ s ∈ shorten ss, Plain s.toList := by
  rw [shorten]
  split
  · split_ifs
    · exact h
    · exact fun s hs => h s (List.dropLast_subset _ hs)
  · simp

theorem plain_addSegment {scheme : String} {isLast : Bool} {ss : List String} {piece : List Char}
    (h : ∀ s ∈ ss, Plain s.toList) : ∀ s ∈ addSegment scheme isLast ss piece, Plain s.toList := by
  have closed {ss : List String} (h : ∀ s ∈ ss, Plain s.toList) :
      ∀ s ∈ (if isLast then ss ++ [""] else ss), Plain s.toList := by
    cases isLast
    · exact h
    · simpa [or_imp, forall_and] using h
  rw [addSegment]
  by_cases double : isDoubleDot piece = true
  · rw [if_pos double]
    exact closed (plain_shorten h)
  rw [if_neg double]
  by_cases single : isSingleDot piece = true
  · rw [if_pos single]
    exact closed h
  rw [if_neg single]
  split_ifs with drive
  · simp only [Bool.and_eq_true] at drive
    simpa using plain_of_isDrive drive.2
  · have encoded : Plain (percentEncode EncodeSet.path piece) :=
      .percentEncode fun c _ => mem_of_endsPath (by decide) (by decide)
    simpa [or_imp, forall_and, encoded] using h

theorem plain_addSegments {scheme : String} {ss : List String} {pieces : List (List Char)}
    (h : ∀ s ∈ ss, Plain s.toList) : ∀ s ∈ addSegments scheme ss pieces, Plain s.toList := by
  induction pieces generalizing ss with
  | nil => exact h
  | cons piece pieces ih => exact ih (plain_addSegment h)

theorem plain_withoutLeadingEmpty {scheme : String} {ss : List String} (h : ∀ s ∈ ss, Plain s.toList) :
    ∀ s ∈ withoutLeadingEmpty scheme ss, Plain s.toList := by
  rw [withoutLeadingEmpty]
  split_ifs
  · split
    · simp
    · exact fun s mem => h s ((List.dropWhile_sublist _).subset mem)
  · exact h

theorem number_notMem_queryAndFragment (scheme : String) (cs : List Char) :
    ∀ q ∈ (queryAndFragment scheme cs).1, '#' ∉ q.toList := by
  have encoded (set : EncodeSet) (rest : List Char) :
      '#' ∉ percentEncode set (rest.takeWhile (· ≠ '#')) := by
    intro mem
    rcases mem_percentEncode mem with sign | ⟨mem, -⟩
    · exact absurd sign (by decide)
    · simpa using List.mem_takeWhile_imp mem
  fun_cases queryAndFragment scheme cs with
  | case1 rest set | case2 rest set =>
    rintro q ⟨⟩
    simpa using encoded set rest
  | case3 => exact nofun
  | case4 => exact nofun

theorem Path.Plain.text {p : Path} (h : p.Plain) (hasAuthority : Bool) :
    Url.Plain (p.text hasAuthority).toList := by
  cases p with
  | rootless s => exact h
  | segments ss =>
    have slashed (s : String) (mem : s ∈ ss) : Url.Plain ("/" ++ s).toList := by
      simpa using ⟨rfl, h s mem⟩
    have joined : Url.Plain (String.join (ss.map ("/" ++ ·))).toList := by
      rw [String.toList_join]
      exact .flatten (by simpa using slashed)
    have lead : Url.Plain "/.".toList := by decide
    simp only [Path.text, String.toList_append]
    split
    · exact Url.Plain.append_iff.mpr ⟨lead, joined⟩
    · exact joined

structure Delimited (u : Url) : Prop where
  scheme : Plain u.scheme.toList
  authority : ∀ a ∈ u.authority, a.Plain
  path : u.path.Plain
  query : ∀ q ∈ u.query, '#' ∉ q.toList

theorem plain_splitScheme {cs rest : List Char} {scheme : String}
    (h : splitScheme? cs = some (scheme, rest)) : Plain scheme.toList := by
  have letters {c : Char} : c.toNat < 91 → 65 ≤ c.toNat → endsPath c.toLower = false :=
    @forall_char (fun c => 65 ≤ c.toNat → endsPath c.toLower = false) 91 (by decide) c
  have lower (c : Char) (named : isSchemeChar c = true) : endsPath c.toLower = false := by
    by_cases upper : c.val ≥ 'A'.val ∧ c.val ≤ 'Z'.val
    · exact letters (Nat.lt_succ_of_le upper.2) upper.1
    · have same : c.toLower = c := dif_neg upper
      rw [same]
      by_contra ends
      rcases endsPath_iff.mp (by simpa using ends) with rfl | rfl <;> cases named
  simp only [splitScheme?] at h
  split at h
  · next c name rest' taken _ =>
    split_ifs at h
    cases h
    intro d hd
    simp only [String.toList_ofList, List.mem_map] at hd
    obtain ⟨c, mem, rfl⟩ := hd
    exact lower c (List.mem_takeWhile_imp mem)
  · cases h

theorem delimited_complete {scheme : String} {a : Option Authority} {before : List String} (cs : List Char)
    (named : Plain scheme.toList) (authority : ∀ x ∈ a, x.Plain)
    (h : ∀ s ∈ before, Plain s.toList) : (complete scheme a before cs).Delimited where
  scheme := named
  authority := authority
  path := by
    have segments (pieces : List (List Char)) :
        ∀ s ∈ withoutLeadingEmpty scheme (addSegments scheme before pieces), Plain s.toList :=
      plain_withoutLeadingEmpty (plain_addSegments h)
    show Path.Plain (.segments (if _ then _ else _))
    split_ifs
    · exact nofun
    · exact segments _
  query := number_notMem_queryAndFragment scheme _

theorem delimited_of_parseFile {cs : List Char} {u : Url} (h : parseFile cs = .ok u) : u.Delimited := by
  have close {a : Authority} {rest : List Char} {onDrive : Bool} (named : a.Plain) :
      (complete "file" (some (if onDrive then { a with host := "" } else a)) [] rest).Delimited := by
    refine delimited_complete rest (by decide) ?_ nofun
    rintro _ ⟨⟩
    split_ifs
    · exact ⟨named.1, Plain.nil⟩
    · exact named
  have empty : Authority.Plain ⟨"", "", none⟩ := ⟨Plain.nil, Plain.nil⟩
  simp only [parseFile] at h
  split at h
  · split_ifs at h
    · obtain ⟨⟨a, rest⟩, read, ⟨⟩⟩ := bind_eq_ok_iff.mp h
      exact close (plain_readFileAuthority read)
    · cases h
      exact close empty
  · cases h
    exact close empty

theorem delimited_of_parse {s : String} {u : Url} (h : parse s = .ok u) : u.Delimited := by
  rw [parse] at h
  split at h
  · cases h
  next scheme rest named =>
  have scheme := plain_splitScheme named
  have encoded (cs : List Char) : Plain (percentEncode EncodeSet.controls (pathText cs)) :=
    .percentEncode fun c mem ends => absurd ends (by simp [Plain.pathText cs c mem])
  split_ifs at h with file special
  · exact delimited_of_parseFile h
  · obtain ⟨⟨a, rest⟩, authority, ⟨⟩⟩ := bind_eq_ok_iff.mp h
    exact delimited_complete _ scheme (by simpa using plain_readAuthority authority) nofun
  · split at h
    · obtain ⟨⟨a, rest⟩, authority, ⟨⟩⟩ := bind_eq_ok_iff.mp h
      exact delimited_complete _ scheme (by simpa using plain_readAuthority authority) nofun
    · cases h
      exact delimited_complete _ scheme nofun nofun
    · cases h
      exact ⟨scheme, nofun, by simpa [Path.Plain] using encoded _, number_notMem_queryAndFragment _ _⟩

theorem delimited_of_join {base u : Url} {relative : String} (h : base.Delimited)
    (joined : base.join relative = .ok u) : u.Delimited := by
  rw [join] at joined
  cases path : base.path with
  | rootless s => simp [path] at joined
  | segments ss =>
    have kept : ∀ s ∈ ss, Plain s.toList := by
      have := h.path
      rwa [path] at this
    have cut : ∀ s ∈ ss.dropLast, Plain s.toList := fun s mem => kept s (List.dropLast_subset _ mem)
    simp only [path, Except.ok.injEq] at joined
    subst joined
    split
    · split_ifs
      · exact delimited_complete _ h.scheme h.authority kept
      · exact delimited_complete _ h.scheme h.authority cut
      · exact delimited_complete _ h.scheme h.authority cut
    · exact delimited_complete _ h.scheme h.authority nofun

def front (u : Url) : String :=
  u.scheme ++ ":" ++ u.authority.elim "" Authority.text ++ u.path.text u.authority.isSome

def behind (u : Url) : List Char :=
  u.query.elim [] (fun q => '?' :: q.toList) ++ u.fragment.elim [] (fun f => '#' :: f.toList)

theorem toList_text (u : Url) : u.text.toList = u.front.toList ++ u.behind := by
  rw [text, front, behind]
  cases u.query <;> cases u.fragment <;> simp

def queryIn (cs : List Char) : Option (List Char) :=
  match (cs.takeWhile (· ≠ '#')).dropWhile (· ≠ '?') with
  | [] => none
  | _ :: q => some q

def fragmentIn (cs : List Char) : Option (List Char) :=
  match cs.dropWhile (· ≠ '#') with
  | [] => none
  | _ :: f => some f

namespace Delimited

variable {u : Url}

theorem front (h : u.Delimited) : Plain u.front.toList := by
  have authority : Plain (u.authority.elim "" Authority.text).toList := by
    cases given : u.authority with
    | none => exact Plain.nil
    | some a => exact (h.authority a given).text
  have colon : Plain ":".toList := by decide
  simp only [Url.front, String.toList_append, Plain.append_iff]
  exact ⟨⟨⟨h.scheme, colon⟩, authority⟩, h.path.text _⟩

theorem pathText_text (h : u.Delimited) : pathText u.text.toList = u.front.toList := by
  have ended : u.behind.takeWhile (fun c => !endsPath c) = [] := by
    rw [behind]
    cases u.query <;> cases u.fragment <;> rfl
  have whole : ∀ c ∈ u.front.toList, (!endsPath c) = true := by simpa [Plain] using h.front
  rw [toList_text, pathText, List.takeWhile_append_of_pos whole, ended, List.append_nil]

theorem ne_of_mem_front (h : u.Delimited) {c : Char} (mem : c ∈ u.front.toList) : c ≠ '?' ∧ c ≠ '#' := by
  simpa [endsPath] using h.front c mem

theorem queryIn_text (h : u.Delimited) : queryIn u.text.toList = u.query.map String.toList := by
  have before : u.behind.takeWhile (· ≠ '#') = u.query.elim [] (fun q => '?' :: q.toList) := by
    have fragment : (u.fragment.elim [] (fun f => '#' :: f.toList)).takeWhile (· ≠ '#') = [] := by
      cases u.fragment <;> rfl
    rw [behind]
    cases given : u.query with
    | none => simpa using fragment
    | some q =>
      have whole : ∀ c ∈ '?' :: q.toList, decide (c ≠ '#') = true := by
        have := h.query q given
        grind
      rw [Option.elim_some, List.takeWhile_append_of_pos whole, fragment, List.append_nil]
  have number : ∀ c ∈ u.front.toList, decide (c ≠ '#') = true := by
    simpa using fun c mem => (h.ne_of_mem_front mem).2
  have question : ∀ c ∈ u.front.toList, decide (c ≠ '?') = true := by
    simpa using fun c mem => (h.ne_of_mem_front mem).1
  rw [queryIn, toList_text, List.takeWhile_append_of_pos number, before,
    List.dropWhile_append_of_pos question]
  cases u.query <;> rfl

theorem fragmentIn_text (h : u.Delimited) : fragmentIn u.text.toList = u.fragment.map String.toList := by
  have number : ∀ c ∈ u.front.toList ++ u.query.elim [] (fun q => '?' :: q.toList),
      decide (c ≠ '#') = true := by
    intro c mem
    rcases List.mem_append.mp mem with mem | mem
    · simpa using (h.ne_of_mem_front mem).2
    · cases given : u.query with
      | none => simp [given] at mem
      | some q =>
        have := h.query q given
        grind
  rw [fragmentIn, toList_text, behind, ← List.append_assoc, List.dropWhile_append_of_pos number]
  cases u.fragment <;> rfl

end Delimited

end Url

end VpExchange
