import PanelProbe.Proofs.Url.Extension

/-!
Paths behind a base address that has neither query nor fragment. Either none of the texts is a URL,
or all are URLs of the server that the base address names, and their paths go on from its path.
-/

set_option autoImplicit false

namespace PanelProbe.Url

variable {scheme : String} {base text behind : List Char} {u : Url}

/-! Hosts. -/

private theorem authorityOf_followed (special : isSpecial scheme = true) (first second : Bool)
    (text : List Char) : authorityOf scheme first text = authorityOf scheme second text := by
  simp [authorityOf, special]

theorem IsEdge.isSlash {c : Char} (edge : IsEdge c) : isSlash true c = false := by
  have slash : c ≠ '/' := edge.ne (by decide)
  have backslash : c ≠ '\\' := edge.ne (by decide)
  simp [Url.isSlash, slash, backslash]

private theorem authorityOf_joined {place tail : List Char} {found : Authority × List Char}
    (special : isSpecial scheme = true) (edges : ∀ c ∈ tail, IsEdge c)
    (read : authorityOf scheme true (place.takeWhile (!isSlash true ·)) = .ok found) :
    (∃ fault, authorityOf scheme true ((place ++ tail).takeWhile (!isSlash true ·)) =
        .error fault) ∨
      authorityOf scheme true ((place ++ tail).takeWhile (!isSlash true ·)) = .ok found := by
  by_cases inside : ∃ c ∈ place, isSlash true c = true
  · obtain ⟨c, member, slash⟩ := inside
    obtain ⟨front, back, rfl⟩ := List.append_of_mem member
    have stops : (!isSlash true c) = false := by rw [slash]; rfl
    rw [Text.takeWhile_append_cons stops] at read
    rw [List.append_assoc, List.cons_append, Text.takeWhile_append_cons stops]
    exact .inr read
  · have plain : ∀ c ∈ place ++ tail, isSlash true c = false := by
      intro c member
      obtain early | late := List.mem_append.1 member
      · exact Bool.eq_false_iff.2 fun slash => inside ⟨c, early, slash⟩
      · exact (edges c late).isSlash
    have whole : (place ++ tail).takeWhile (!isSlash true ·) = place ++ tail :=
      List.takeWhile_eq_self_iff.2 fun c member => by rw [plain c member]; rfl
    have first : place.takeWhile (!isSlash true ·) = place :=
      List.takeWhile_eq_self_iff.2 fun c member => by
        rw [plain c (List.mem_append_left _ member)]; rfl
    rw [whole]
    rw [first] at read
    obtain rfl | ⟨front, c, rfl⟩ := List.eq_nil_or_concat' tail
    · rw [List.append_nil]
      exact .inr read
    · rw [← List.append_assoc] at plain ⊢
      have refused := (edges c (by simp)).authorityOf_ne special
        (fun d member => plain d (List.mem_append_left _ member)) true
      cases again : authorityOf scheme true (place ++ front ++ [c]) with
      | ok other => exact absurd again (refused other)
      | error fault => exact .inl ⟨fault, rfl⟩

private theorem hierarchy_joined {found : Option Authority} {path : Path} {tail : List Char}
    (special : isSpecial scheme = true) (noFile : (scheme == "file") = false)
    (read : hierarchy scheme false text = .ok (found, path)) (edges : ∀ c ∈ tail, IsEdge c) :
    (∃ fault, ∀ rest, hierarchy scheme false (text ++ tail ++ '/' :: rest) = .error fault) ∨
      ∃ kept, ∀ rest, hierarchy scheme false (text ++ tail ++ '/' :: rest) =
        .ok (found, .segments (resolveDots false kept (splitPath true rest))) := by
  rw [hierarchy_of_special special noFile] at read
  obtain ⟨⟨a, left⟩, host, both⟩ := ok_of_map_eq_ok read
  obtain ⟨rfl, -⟩ := Prod.mk.inj both
  have named : text.dropWhile (isSlash true) ≠ [] := by
    intro blank
    rw [blank] at host
    change authorityOf scheme _ [] = _ at host
    rw [authorityOf_nil special] at host
    cases host
  have blank : ¬(text.dropWhile (isSlash true)).isEmpty = true := by simpa using named
  have whole : (text ++ tail).dropWhile (isSlash true) = text.dropWhile (isSlash true) ++ tail := by
    rw [List.dropWhile_append, if_neg blank]
  have nonblank : (text ++ tail).dropWhile (isSlash true) ≠ [] := by
    rw [whole]
    exact List.append_ne_nil_of_left_ne_nil named tail
  have joined := hierarchy_slash special noFile false nonblank
  rw [whole] at joined
  rw [authorityOf_followed special _ true] at host
  obtain ⟨fault, refused⟩ | same := authorityOf_joined special edges host
  · exact .inl ⟨fault, fun rest => by rw [joined, refused]; rfl⟩
  · obtain ⟨kept, resolved⟩ := pathOf_append_slash scheme
      (left ++ (text.dropWhile (isSlash true) ++ tail).dropWhile (!isSlash true ·))
    simp only [noFile, special] at resolved
    refine .inr ⟨kept, fun rest => ?_⟩
    rw [joined, same, ← resolved]
    rfl

/-! Cleaning. -/

private theorem exists_clean (text : List Char) : ∃ front kept back, text = front ++ kept ++ back ∧
    (∀ c ∈ front ++ back, IsEdge c) ∧ clean text = tabless kept := by
  let isEdge (c : Char) := decide (IsEdge c)
  obtain ⟨back, edges, whole⟩ := Text.exists_dropEnd isEdge (text.dropWhile isEdge)
  refine ⟨text.takeWhile isEdge, Text.dropEnd isEdge (text.dropWhile isEdge), back, ?_,
    fun c member => ?_, rfl⟩
  · rw [List.append_assoc, ← whole, List.takeWhile_append_dropWhile]
  · obtain early | late := List.mem_append.1 member
    · exact of_decide_eq_true (List.mem_takeWhile_imp (p := isEdge) early)
    · exact of_decide_eq_true (edges c late)

private theorem mem_clean_iff {c : Char} (high : 0x20 < c.toNat) : c ∈ clean text ↔ c ∈ text := by
  obtain ⟨front, kept, back, whole, edges, cleaned⟩ := exists_clean text
  have stays : ¬IsEdge c := Nat.not_le.2 high
  have apart : c ∉ front ∧ c ∉ back := not_or.1 fun member =>
    stays (edges c (List.mem_append.2 member))
  have plain : (c ≠ '\t' && c ≠ '\n' && c ≠ '\r') = true := by
    simp only [Bool.and_eq_true, decide_eq_true_eq]
    refine ⟨⟨?_, ?_⟩, ?_⟩ <;> rintro rfl <;> exact absurd high (by decide)
  rw [cleaned, tabless, List.mem_filter, whole]
  simp only [plain, List.mem_append, apart, false_or, or_false, and_true]

/-! Schemes. -/

private theorem exists_of_cutScheme? (named : cutScheme? text = some (scheme, behind)) :
    ∃ name, text = name ++ ':' :: behind ∧ '?' ∉ name ∧ '#' ∉ name ∧
      ∀ more, cutScheme? (name ++ ':' :: more) = some (scheme, more) := by
  by_cases colon : ':' ∈ text
  swap
  · rw [cutScheme?_of_notMem colon] at named
    cases named
  obtain ⟨name, rest, rfl, absent⟩ := List.eq_append_cons_of_mem colon
  simp only [cutScheme?, Text.cut_append_cons absent] at named ⊢
  cases name with
  | nil => cases named
  | cons first name =>
    dsimp only at named ⊢
    split at named
    · rename_i valid
      obtain ⟨rfl, rfl⟩ := Prod.mk.inj (Option.some.inj named)
      obtain ⟨alpha, others⟩ := Bool.and_eq_true_iff.1 valid
      have outside {mark : Char} (noAlpha : mark.isAlpha = false) (noMark : (mark.isAlphanum ||
          "+-.".toList.contains mark) = false) : mark ∉ first :: name := by
        intro member
        obtain rfl | later := List.mem_cons.1 member
        · rw [noAlpha] at alpha
          cases alpha
        · have found := List.all_eq_true.1 others mark later
          rw [noMark] at found
          cases found
      refine ⟨first :: name, rfl, outside (by decide) (by decide), outside (by decide) (by decide),
        fun more => ?_⟩
      rw [Text.cut_append_cons absent]
      exact if_pos valid
    · cases named

/-! Whole URLs. -/

/-- Neither query nor fragment begins in the text. -/
def Unmarked (text : List Char) : Prop := '?' ∉ text ∧ '#' ∉ text

theorem unmarked_nil : Unmarked [] := by simp [Unmarked]

theorem unmarked_append_iff {more : List Char} :
    Unmarked (text ++ more) ↔ Unmarked text ∧ Unmarked more := by
  simp only [Unmarked, List.mem_append, not_or]
  exact and_and_and_comm

theorem unmarked_slash_iff : Unmarked ('/' :: text) ↔ Unmarked text := by simp [Unmarked]

/-- What is put behind the base address and a slash goes on from the segments kept. -/
def Extends (base : List Char) (u : Url) (kept : List (List Char)) : Prop :=
  ∀ more, Closed more → Unmarked more → parse (base ++ '/' :: more) =
    .ok { u with path := .segments (resolveDots false kept (splitPath true (tabless more))) }

/-- Texts with paths behind a base address are URLs of its server, or none of them is one. -/
theorem parse_joined (parsed : parse base = .ok u) (web : u.scheme = "http" ∨ u.scheme = "https")
    (unmarked : Unmarked base) :
    (∃ fault, ∀ more, Closed more → Unmarked more → parse (base ++ '/' :: more) = .error fault) ∨
      ∃ kept, Extends base u kept := by
  cases named : cutScheme? (clean base) with
  | none => rw [parse, named] at parsed; cases parsed
  | some both =>
    obtain ⟨scheme, behind⟩ := both
    rw [scheme_of_parse parsed named] at web
    have special : isSpecial scheme = true := by obtain rfl | rfl := web <;> rfl
    have noFile : (scheme == "file") = false := by obtain rfl | rfl := web <;> rfl
    obtain ⟨name, whole, -, -, cutAt⟩ := exists_of_cutScheme? named
    have absent {mark : Char} (high : 0x20 < mark.toNat) (outside : mark ∉ base) :
        mark ∉ behind := fun member =>
      outside ((mem_clean_iff high).1 (by rw [whole]; simp [member]))
    have noMark := absent (by decide) unmarked.1
    have noHash := absent (by decide) unmarked.2
    rw [parse_of_cuts named (Text.cut_of_notMem noHash) (Text.cut_of_notMem noMark)] at parsed
    obtain ⟨⟨found, path⟩, located, rfl⟩ := ok_of_map_eq_ok parsed
    obtain ⟨tail, edges, cleaned⟩ := clean_append base
    have joined : ∀ more, Closed more → Unmarked more → parse (base ++ '/' :: more) =
        (hierarchy scheme false (behind ++ tail ++ '/' :: tabless more)).map
          (assembled scheme none none) := by
      intro more closed unmarked
      have outside {mark : Char} (high : 0x20 < mark.toNat) (apart : mark ≠ '/')
          (before : mark ∉ behind) (later : mark ∉ more) :
          mark ∉ behind ++ tail ++ '/' :: tabless more := by
        simp only [List.mem_append, List.mem_cons, not_or]
        exact ⟨⟨before, fun member => (edges mark member).ne high rfl⟩, apart,
          fun member => later (List.mem_of_mem_filter member)⟩
      have renamed : cutScheme? (clean (base ++ '/' :: more)) =
          some (scheme, behind ++ tail ++ '/' :: tabless more) := by
        rw [cleaned more closed, whole, List.append_assoc, List.append_assoc, List.cons_append,
          cutAt, List.append_assoc]
      exact parse_of_cuts renamed
        (Text.cut_of_notMem (outside (by decide) (by decide) noHash unmarked.2))
        (Text.cut_of_notMem (outside (by decide) (by decide) noMark unmarked.1))
    obtain ⟨fault, fails⟩ | ⟨kept, goes⟩ := hierarchy_joined special noFile located edges
    · refine .inl ⟨fault, fun more closed unmarked => ?_⟩
      rw [joined more closed unmarked, fails]
      rfl
    · refine .inr ⟨kept, fun more closed unmarked => ?_⟩
      rw [joined more closed unmarked, goes]
      rfl

theorem unmarked_of_parse (parsed : parse (base ++ ['/']) = .ok u) (noQuery : u.query = none)
    (noFragment : u.fragment = none) : Unmarked base := by
  cases named : cutScheme? (clean (base ++ ['/'])) with
  | none => rw [parse, named] at parsed; cases parsed
  | some both =>
    obtain ⟨scheme, behind⟩ := both
    rcases atHash : Text.cut '#' behind with ⟨front, fragment⟩
    rcases atMark : Text.cut '?' front with ⟨place, query⟩
    rw [parse_of_cuts named atHash atMark] at parsed
    obtain ⟨found, -, rfl⟩ := ok_of_map_eq_ok parsed
    obtain rfl : fragment = none := Option.map_eq_none_iff.1 noFragment
    obtain rfl : query = none := Option.map_eq_none_iff.1 noQuery
    obtain ⟨noHash, rfl⟩ := Text.notMem_of_cut atHash
    obtain ⟨noMark, -⟩ := Text.notMem_of_cut atMark
    obtain ⟨name, whole, first, second, -⟩ := exists_of_cutScheme? named
    have outside {mark : Char} (high : 0x20 < mark.toNat) (apart : mark ≠ ':')
        (before : mark ∉ name) (later : mark ∉ front) : mark ∉ base := by
      intro member
      have inside := (mem_clean_iff high).2 (List.mem_append_left ['/'] member)
      rw [whole] at inside
      simp [before, apart, later] at inside
    exact ⟨outside (by decide) (by decide) first noMark,
      outside (by decide) (by decide) second noHash⟩

/-! Paths between. -/

theorem Extends.slash {kept : List (List Char)} (goes : Extends base u kept) :
    parse (base ++ ['/']) = .ok { u with path := .segments (kept.reverse ++ [[]]) } := by
  have read := goes [] closed_nil unmarked_nil
  rwa [tabless, List.filter_nil, resolveDots_of_end] at read

theorem Extends.append {kept : List (List Char)} (goes : Extends base u kept) {path : List Char}
    (unmarked : Unmarked path) : Extends (base ++ '/' :: path) u
      ((splitPath true (tabless path)).foldl (pass false) kept) := by
  intro more closed later
  have both := unmarked_append_iff.2 ⟨unmarked, unmarked_slash_iff.2 later⟩
  have split : tabless (path ++ '/' :: more) = tabless path ++ '/' :: tabless more := by
    simp [tabless]
  have joined := goes _ (closed.append_cons path) both
  rw [split, splitPath_append_slash, resolveDots_append _ _ _ (splitPath_ne_nil _ _)] at joined
  rw [List.append_assoc, List.cons_append, joined]

end PanelProbe.Url
