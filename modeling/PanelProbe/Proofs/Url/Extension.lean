import PanelProbe.Proofs.Url.Name
import PanelProbe.Proofs.Url.Segments

/-!
URLs that are written by putting a path behind a base address. The text of the base is read as
before, and the path grows the last part the base has: its fragment, its query, or its path.
-/

set_option autoImplicit false

namespace PanelProbe.Url

/-! Characters that stay in a path. -/

theorem ne_of_keptInPath {c mark : Char} (kept : keptInPath c = true)
    (escaped : keptInPath mark = false) : c ≠ mark := by
  rintro rfl
  rw [kept] at escaped
  cases escaped

theorem toNat_of_keptInPath {c : Char} (kept : keptInPath c = true) :
    0x20 < c.toNat ∧ c.toNat < 0x7F := by
  have apart : c ≠ ' ' := ne_of_keptInPath kept (by decide)
  simp only [keptInPath, keptInFragment, keptPlain, Bool.and_eq_true, decide_eq_true_eq] at kept
  obtain ⟨⟨⟨low, high⟩, -⟩, -⟩ := kept
  have other : c.toNat ≠ 0x20 := fun same => apart (Char.toNat_inj.1 same)
  omega

private theorem notMem_of_kept {more : List Char} {mark : Char}
    (kept : ∀ c ∈ more, keptInPath c = true) (escaped : keptInPath mark = false)
    (apart : mark ≠ '/') : mark ∉ '/' :: more := by
  intro mem
  obtain rfl | mem := List.mem_cons.1 mem
  · exact apart rfl
  · exact ne_of_keptInPath (kept mark mem) escaped rfl

/-! The parts of a URL, one after the other. -/

def tabless (text : List Char) : List Char :=
  text.filter fun c => c ≠ '\t' && c ≠ '\n' && c ≠ '\r'

/-- The last character, if there is one, is not dropped from the end of a URL. -/
def Closed (text : List Char) : Prop := ∀ c ∈ text.getLast?, ¬IsEdge c

theorem closed_nil : Closed [] := by simp [Closed]

theorem Closed.append_cons {more : List Char} (closed : Closed more) (front : List Char) :
    Closed (front ++ '/' :: more) := by
  intro c last
  rw [List.getLast?_append, List.getLast?_cons, Option.some_or] at last
  cases ended : more.getLast? with
  | none =>
    rw [ended] at last
    obtain rfl := Option.some.inj last
    decide
  | some d =>
    rw [ended] at last
    obtain rfl := Option.some.inj last
    exact closed d ended

theorem clean_append (base : List Char) : ∃ tail, (∀ c ∈ tail, IsEdge c) ∧ ∀ more, Closed more →
    clean (base ++ '/' :: more) = clean base ++ tail ++ '/' :: tabless more := by
  let isEdge (c : Char) := decide (IsEdge c)
  obtain ⟨dropped, edges, whole⟩ := Text.exists_dropEnd isEdge (base.dropWhile isEdge)
  refine ⟨tabless dropped, fun c member => ?_, fun more closed => ?_⟩
  · exact of_decide_eq_true (edges c (List.mem_of_mem_filter member))
  have last : ∀ c ∈ ('/' :: more).getLast?, isEdge c = false := fun c member =>
    decide_eq_false (closed.append_cons [] c member)
  have slash : isEdge '/' = false := by decide
  have cleaned : clean base = tabless (Text.dropEnd isEdge (base.dropWhile isEdge)) := rfl
  change tabless (Text.dropEnd isEdge ((base ++ '/' :: more).dropWhile isEdge)) = _
  rw [Text.dropWhile_append_cons slash, Text.dropEnd_append (List.cons_ne_nil _ _) last, cleaned]
  conv_lhs => rw [whole]
  simp [tabless]

theorem tabless_of_kept {more : List Char} (kept : ∀ c ∈ more, keptInPath c = true) :
    tabless more = more := by
  refine List.filter_eq_self.2 fun c member => ?_
  have large := (toNat_of_keptInPath (kept c member)).1
  simp only [Bool.and_eq_true, decide_eq_true_eq]
  refine ⟨⟨?_, ?_⟩, ?_⟩ <;> rintro rfl <;> exact absurd large (by decide)

theorem closed_of_kept {more : List Char} (kept : ∀ c ∈ more, keptInPath c = true) :
    Closed more := by
  intro c last edge
  exact absurd edge (Nat.not_le.2 (toNat_of_keptInPath (kept c (List.mem_of_getLast? last))).1)

private theorem clean_append_slash (base : List Char) :
    ∃ front, ∀ more, (∀ c ∈ more, keptInPath c = true) →
      clean (base ++ '/' :: more) = front ++ '/' :: more := by
  obtain ⟨tail, -, cleaned⟩ := clean_append base
  refine ⟨clean base ++ tail, fun more kept => ?_⟩
  rw [cleaned more (closed_of_kept kept), tabless_of_kept kept]

theorem cutScheme?_of_notMem {text : List Char} (absent : ':' ∉ text) : cutScheme? text = none := by
  simp only [cutScheme?, Text.cut_of_notMem absent]

private theorem cutScheme?_append {name : List Char} (absent : ':' ∉ name) :
    ∃ scheme? : Option String, ∀ behind,
      cutScheme? (name ++ ':' :: behind) = scheme?.map (·, behind) := by
  simp only [cutScheme?, Text.cut_append_cons absent]
  cases name with
  | nil => exact ⟨none, fun _ => rfl⟩
  | cons c rest =>
    dsimp only
    split
    · exact ⟨some _, fun _ => rfl⟩
    · exact ⟨none, fun _ => rfl⟩

variable {scheme : String}

theorem authorityOf_nil (special : isSpecial scheme = true) (followed : Bool) :
    authorityOf scheme followed [] = .error .emptyHost := by
  simp [authorityOf, Text.cutLast, Text.cut, cutPort, special]

theorem hierarchy_of_special (special : isSpecial scheme = true)
    (noFile : (scheme == "file") = false) (more : Bool) (text : List Char) :
    hierarchy scheme more text =
      let rest := text.dropWhile (isSlash true)
      let path := rest.dropWhile (!isSlash true ·)
      (authorityOf scheme (more || !path.isEmpty) (rest.takeWhile (!isSlash true ·))).map
        fun (a, left) => (some a, pathOf scheme (left ++ path)) := by
  simp only [hierarchy, noFile, special, Bool.true_or, Bool.false_eq_true, if_false, if_true]
  cases authorityOf scheme _ _ <;> rfl

theorem hierarchy_slash (special : isSpecial scheme = true) (noFile : (scheme == "file") = false)
    (more : Bool) {text : List Char} (named : text.dropWhile (isSlash true) ≠ [])
    (rest : List Char) :
    hierarchy scheme more (text ++ '/' :: rest) =
      (authorityOf scheme true ((text.dropWhile (isSlash true)).takeWhile (!isSlash true ·))).map
        fun found => (some found.1, pathOf scheme (found.2 ++
          (text.dropWhile (isSlash true)).dropWhile (!isSlash true ·) ++ '/' :: rest)) := by
  have blank : ¬(text.dropWhile (isSlash true)).isEmpty = true := by simpa using named
  have stops : (!isSlash true '/') = false := rfl
  rw [hierarchy_of_special special noFile, List.dropWhile_append, if_neg blank]
  dsimp only
  have followed (front : List Char) : (more || !(front ++ '/' :: rest).isEmpty) = true := by simp
  rw [Text.takeWhile_append_cons stops, Text.dropWhile_append_cons stops, followed]
  simp only [List.append_assoc]

private theorem hierarchy_append_slash {more : Bool} {text : List Char} {found : Option Authority}
    {path : Path} (special : isSpecial scheme = true) (noFile : (scheme == "file") = false)
    (read : hierarchy scheme more (text ++ ['/']) = .ok (found, path)) :
    ∃ kept, path = .segments (kept.reverse ++ [[]]) ∧ ∀ rest,
      hierarchy scheme more (text ++ '/' :: rest) =
        .ok (found, .segments (resolveDots false kept (splitPath true rest))) := by
  by_cases blank : text.dropWhile (isSlash true) = []
  · rw [hierarchy_of_special special noFile, List.dropWhile_append,
      if_pos (by simp [blank])] at read
    change (authorityOf scheme _ []).map _ = _ at read
    rw [authorityOf_nil special] at read
    cases read
  · simp only [hierarchy_slash special noFile more blank] at read ⊢
    obtain ⟨⟨a, left⟩, same, both⟩ := ok_of_map_eq_ok read
    obtain ⟨rfl, ended⟩ := Prod.mk.inj both
    obtain ⟨kept, resolved⟩ := pathOf_append_slash scheme
      (left ++ (text.dropWhile (isSlash true)).dropWhile (!isSlash true ·))
    simp only [noFile, special] at resolved
    refine ⟨kept, ?_, fun rest => ?_⟩
    · rw [← ended, resolved, resolveDots_of_end]
    · rw [same, ← resolved rest]
      rfl

/-! Whole URLs. -/

def assembled (scheme : String) (query fragment : Option (List Char))
    (found : Option Authority × Path) : Url where
  scheme := scheme
  username := (found.1.map Authority.username).getD []
  password := found.1.bind Authority.password
  host := found.1.map Authority.host
  port := found.1.bind Authority.port
  path := found.2
  query := query.map (Percent.encode (keptInQuery (isSpecial scheme)))
  fragment := fragment.map (Percent.encode keptInFragment)

theorem parse_of_cuts {input text place front : List Char} {query fragment : Option (List Char)}
    (named : cutScheme? (clean input) = some (scheme, text))
    (atHash : Text.cut '#' text = (front, fragment))
    (atMark : Text.cut '?' front = (place, query)) :
    parse input = (hierarchy scheme (query.isSome || fragment.isSome) place).map
      (assembled scheme query fragment) := by
  rw [parse, named]
  dsimp only
  rw [atHash]
  dsimp only
  rw [atMark]
  dsimp only
  cases hierarchy scheme (query.isSome || fragment.isSome) place <;> rfl

/-- Where the text behind a base address and a slash goes, when that address with the slash alone is
the URL `u`. -/
inductive Grows (base : List Char) (u : Url) : Prop
  | inFragment (present : u.fragment ≠ none)
      (grown : ∀ more, (∀ c ∈ more, keptInPath c = true) →
        ∃ fragment, parse (base ++ '/' :: more) = .ok { u with fragment := some fragment })
  | inQuery (noFragment : u.fragment = none) (present : u.query ≠ none)
      (grown : ∀ more, (∀ c ∈ more, keptInPath c = true) →
        ∃ query, parse (base ++ '/' :: more) = .ok { u with query := some query })
  | inPath (kept : List (List Char)) (noFragment : u.fragment = none) (noQuery : u.query = none)
      (path : u.path = .segments (kept.reverse ++ [[]]))
      (grown : ∀ more, (∀ c ∈ more, keptInPath c = true) →
        parse (base ++ '/' :: more) =
          .ok { u with path := .segments (resolveDots false kept (splitPath true more)) })

theorem scheme_of_parse {input text : List Char} {u : Url} (parsed : parse input = .ok u)
    (named : cutScheme? (clean input) = some (scheme, text)) : u.scheme = scheme := by
  rcases atHash : Text.cut '#' text with ⟨front, fragment⟩
  rcases atMark : Text.cut '?' front with ⟨place, query⟩
  rw [parse_of_cuts named atHash atMark] at parsed
  obtain ⟨found, -, rfl⟩ := ok_of_map_eq_ok parsed
  rfl

section Behind

variable {base behind : List Char} {u : Url}
  (named : ∀ more, (∀ c ∈ more, keptInPath c = true) →
    cutScheme? (clean (base ++ '/' :: more)) = some (scheme, behind ++ '/' :: more))
  (parsed : parse (base ++ ['/']) = .ok u)

include named parsed

private theorem grows_of_hash (hash : '#' ∈ behind) : Grows base u := by
  obtain ⟨before, fragment, rfl, noHash⟩ := List.eq_append_cons_of_mem hash
  rcases cuts : Text.cut '?' before with ⟨place, query⟩
  have read : ∀ more, (∀ c ∈ more, keptInPath c = true) → parse (base ++ '/' :: more) =
      (hierarchy scheme (query.isSome || true) place).map
        (assembled scheme query (some (fragment ++ '/' :: more))) := by
    intro more kept
    refine parse_of_cuts (named more kept) ?_ cuts
    rw [List.append_assoc, List.cons_append, Text.cut_append_cons noHash]
  rw [read [] (by simp)] at parsed
  obtain ⟨found, located, rfl⟩ := ok_of_map_eq_ok parsed
  refine .inFragment (by simp [assembled]) fun more kept =>
    ⟨Percent.encode keptInFragment (fragment ++ '/' :: more), ?_⟩
  rw [read more kept, located]
  rfl

private theorem grows_of_mark (noHash : '#' ∉ behind) (mark : '?' ∈ behind) : Grows base u := by
  obtain ⟨place, query, rfl, noMark⟩ := List.eq_append_cons_of_mem mark
  have read : ∀ more, (∀ c ∈ more, keptInPath c = true) → parse (base ++ '/' :: more) =
      (hierarchy scheme (true || false) place).map
        (assembled scheme (some (query ++ '/' :: more)) none) := by
    intro more kept
    have absent : '#' ∉ (place ++ '?' :: query) ++ '/' :: more := fun mem =>
      (List.mem_append.1 mem).elim noHash (notMem_of_kept kept (by decide) (by decide))
    refine parse_of_cuts (named more kept) (Text.cut_of_notMem absent) ?_
    rw [List.append_assoc, List.cons_append, Text.cut_append_cons noMark]
  rw [read [] (by simp)] at parsed
  obtain ⟨found, located, rfl⟩ := ok_of_map_eq_ok parsed
  refine .inQuery rfl (by simp [assembled]) fun more kept =>
    ⟨Percent.encode (keptInQuery (isSpecial scheme)) (query ++ '/' :: more), ?_⟩
  rw [read more kept, located]
  rfl

private theorem grows_of_neither (special : isSpecial scheme = true)
    (noFile : (scheme == "file") = false)
    (noHash : '#' ∉ behind) (noMark : '?' ∉ behind) : Grows base u := by
  have read : ∀ more, (∀ c ∈ more, keptInPath c = true) → parse (base ++ '/' :: more) =
      (hierarchy scheme (false || false) (behind ++ '/' :: more)).map
        (assembled scheme none none) := by
    intro more kept
    have absent (mark : Char) (escaped : keptInPath mark = false) (apart : mark ≠ '/')
        (before : mark ∉ behind) : mark ∉ behind ++ '/' :: more := fun mem =>
      (List.mem_append.1 mem).elim before (notMem_of_kept kept escaped apart)
    exact parse_of_cuts (named more kept)
      (Text.cut_of_notMem (absent '#' (by decide) (by decide) noHash))
      (Text.cut_of_notMem (absent '?' (by decide) (by decide) noMark))
  rw [read [] (by simp)] at parsed
  obtain ⟨⟨found, path⟩, located, rfl⟩ := ok_of_map_eq_ok parsed
  obtain ⟨kept, path, extended⟩ := hierarchy_append_slash special noFile located
  refine .inPath kept rfl rfl path fun more inPath => ?_
  rw [read more inPath, extended more]
  rfl

end Behind

/-- A URL of the web grows in its fragment if it has one, else in its query if it has one, and in
its path if it has neither. -/
theorem grows_of_parse {base : List Char} {u : Url} (parsed : parse (base ++ ['/']) = .ok u)
    (web : u.scheme = "http" ∨ u.scheme = "https") : Grows base u := by
  have noMore : ∀ c ∈ ([] : List Char), keptInPath c = true := by simp
  obtain ⟨front, cleaned⟩ := clean_append_slash base
  by_cases colon : ':' ∈ front
  swap
  · have absent : ':' ∉ front ++ ['/'] := by simp [colon]
    rw [parse, cleaned [] noMore, cutScheme?_of_notMem absent] at parsed
    cases parsed
  obtain ⟨name, behind, rfl, absent⟩ := List.eq_append_cons_of_mem colon
  obtain ⟨scheme?, cutAt⟩ := cutScheme?_append absent
  have named : ∀ more, (∀ c ∈ more, keptInPath c = true) →
      cutScheme? (clean (base ++ '/' :: more)) = scheme?.map (·, behind ++ '/' :: more) := by
    intro more kept
    rw [cleaned more kept, List.append_assoc, List.cons_append, cutAt]
  cases scheme? with
  | none =>
    rw [parse, named [] noMore] at parsed
    cases parsed
  | some scheme =>
    by_cases hash : '#' ∈ behind
    · exact grows_of_hash named parsed hash
    by_cases mark : '?' ∈ behind
    · exact grows_of_mark named parsed hash mark
    · rw [scheme_of_parse parsed (named [] noMore)] at web
      obtain rfl | rfl := web
      · exact grows_of_neither named parsed rfl rfl hash mark
      · exact grows_of_neither named parsed rfl rfl hash mark

end PanelProbe.Url
