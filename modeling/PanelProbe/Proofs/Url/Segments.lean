import PanelProbe.Proofs.Percent
import PanelProbe.Url.Parser

/-!
Dot segments and the resolution of paths. What stands before a slash can be resolved on its own: it
leaves segments behind which the resolution of the rest goes on.
-/

set_option autoImplicit false

namespace PanelProbe.Url

/-! Dot segments. -/

private theorem decode_of_isDots {n : Nat} {text : List Char} (dots : isDots n text = true) :
    Percent.decode text = List.replicate n 0x2E := by
  have encoded : ∀ (high low : Nat) (rest : List Char), 16 * high + low = 0x2E →
      ∀ a b, Text.hexValue? a = some high → Text.hexValue? b = some low →
        Percent.decode ('%' :: a :: b :: rest) = 0x2E :: Percent.decode rest := by
    intro high low rest sum a b ha hb
    rw [Percent.decode, ha, hb]
    dsimp only
    rw [sum]
    rfl
  fun_induction isDots n text with
  | case1 text => rw [List.isEmpty_iff.1 dots]; rfl
  | case2 n rest ih =>
    rw [Percent.decode_cons_of_ne (by decide), ih dots]
    rfl
  | case3 n rest ih => rw [encoded 2 14 rest rfl '2' 'e' rfl rfl, ih dots]; rfl
  | case4 n rest ih => rw [encoded 2 14 rest rfl '2' 'E' rfl rfl, ih dots]; rfl
  | case5 => cases dots

private theorem isDots_replicate (n : Nat) : isDots n (List.replicate n '.') = true := by
  induction n with
  | zero => rfl
  | succ n ih => exact ih

private theorem bytes_replicate_point (n : Nat) :
    Percent.bytes (List.replicate n '.') = List.replicate n 0x2E := by
  induction n with
  | zero => rfl
  | succ n ih => exact congrArg (0x2E :: ·) ih

theorem eq_replicate_of_isDots {n : Nat} {text : List Char} (absent : '%' ∉ text)
    (dots : isDots n text = true) : text = List.replicate n '.' := by
  have decoded := decode_of_isDots dots
  rw [Percent.decode_of_notMem absent, ← bytes_replicate_point] at decoded
  exact Percent.bytes_injective decoded

theorem isDots_encode_iff (n : Nat) (text : List Char) :
    isDots n (Percent.encode Percent.isUnreserved text) = true ↔ text = List.replicate n '.' := by
  constructor
  · intro dots
    have decoded := decode_of_isDots dots
    rw [Percent.encode, Percent.decode_encodeBytes (by decide), ← bytes_replicate_point] at decoded
    exact Percent.bytes_injective decoded
  · rintro rfl
    have plain : ∀ c ∈ List.replicate n '.', c.toNat < 0x80 ∧ Percent.isUnreserved c = true := by
      intro c mem
      rw [List.eq_of_mem_replicate mem]
      decide
    rw [Percent.encode_of_kept plain]
    exact isDots_replicate n

/-! Splitting. -/

theorem splitPath_append_slash (special : Bool) (text more : List Char) :
    splitPath special (text ++ '/' :: more) = splitPath special text ++ splitPath special more :=
  List.splitOnP_append_cons text more rfl

theorem splitPath_ne_nil (special : Bool) (text : List Char) : splitPath special text ≠ [] :=
  List.splitOnP_ne_nil _ text

theorem splitPath_of_forall {special : Bool} {text : List Char}
    (whole : ∀ c ∈ text, isSlash special c = false) : splitPath special text = [text] :=
  List.splitOnP_eq_singleton whole

theorem splitPath_eq_splitOn {text : List Char} (plain : '\\' ∉ text) :
    splitPath true text = text.splitOn '/' := by
  rw [splitPath, List.splitOn]
  induction text with
  | nil => rfl
  | cons c rest ih =>
    obtain ⟨apart, later⟩ := not_or.1 (mt List.mem_cons.2 plain)
    have same : isSlash true c = (c == '/') := by simp [isSlash, Ne.symm apart]
    rw [List.splitOnP_cons_eq_if_modifyHead, List.splitOnP_cons_eq_if_modifyHead, same, ih later]

theorem flatMap_splitPath {text : List Char} (plain : '\\' ∉ text) :
    (splitPath true text).flatMap ('/' :: ·) = '/' :: text := by
  induction text with
  | nil => rfl
  | cons c rest ih =>
    obtain ⟨apart, later⟩ := not_or.1 (mt List.mem_cons.2 plain)
    have joined := ih later
    rw [splitPath] at joined ⊢
    rw [List.splitOnP_cons_eq_if_modifyHead]
    split
    · rename_i slash
      have same : c = '/' := by simpa [isSlash, Ne.symm apart] using slash
      rw [List.flatMap_cons, joined, same]
      rfl
    · cases parts : rest.splitOnP (isSlash true) with
      | nil => exact absurd parts (List.splitOnP_ne_nil _ rest)
      | cons first others =>
        rw [parts, List.flatMap_cons, List.cons_append] at joined
        rw [List.modifyHead_cons, List.flatMap_cons, List.cons_append, List.cons_append,
          (List.cons.inj joined).2]

theorem keptInPath_of_isUnreserved {c : Char} (h : Percent.isUnreserved c = true) :
    keptInPath c = true ∧ isSlash true c = false := by
  have table : ∀ n : Fin 128, Percent.isUnreserved (Char.ofNat n) = true →
      keptInPath (Char.ofNat n) = true ∧ isSlash true (Char.ofNat n) = false := by decide +kernel
  have found := table ⟨c.toNat, Percent.toNat_of_isUnreserved h⟩
  rw [Char.ofNat_toNat] at found
  exact found h

theorem keptInPath_of_mem_encode {text : List Char} {c : Char}
    (mem : c ∈ Percent.encode Percent.isUnreserved text) :
    keptInPath c = true ∧ isSlash true c = false := by
  obtain unreserved | rfl := Percent.mem_encode_isUnreserved mem
  · exact keptInPath_of_isUnreserved unreserved
  · decide

/-! Resolution. -/

/-- What one segment makes of those before it, the last in front. -/
def pass (file : Bool) (kept : List (List Char)) (s : List Char) : List (List Char) :=
  if isDots 2 s then shorten kept
  else if isDots 1 s then kept
  else segment file kept.isEmpty s :: kept

theorem resolveDots_append (file : Bool) (kept names : List (List Char)) {rest : List (List Char)}
    (nonempty : rest ≠ []) : resolveDots file kept (names ++ rest) =
      resolveDots file (names.foldl (pass file) kept) rest := by
  induction names generalizing kept with
  | nil => rfl
  | cons s names ih =>
    have more : (names ++ rest).isEmpty = false := by simp [nonempty]
    rw [List.cons_append, resolveDots, List.foldl_cons, ← ih, more, pass]
    cases isDots 2 s <;> cases isDots 1 s <;> simp

theorem foldl_pass_append (kept below names : List (List Char)) : ∃ left,
    names.foldl (pass false) (kept ++ below) = names.foldl (pass false) kept ++ left := by
  induction names generalizing kept below with
  | nil => exact ⟨below, rfl⟩
  | cons s names ih =>
    obtain ⟨left, same⟩ : ∃ left, pass false (kept ++ below) s = pass false kept s ++ left := by
      unfold pass
      split
      · cases kept with
        | nil => exact ⟨shorten below, rfl⟩
        | cons last kept =>
          refine ⟨below, ?_⟩
          rw [List.cons_append, shorten, shorten]
          split <;> rfl
      · exact ⟨below, by split <;> rfl⟩
    rw [List.foldl_cons, List.foldl_cons, same]
    exact ih _ left

private theorem mem_resolveDots {kept names : List (List Char)} {name : List Char}
    (member : name ∈ resolveDots false kept names) :
    name ∈ kept ∨ name = [] ∨ ∃ s, name = Percent.encode keptInPath s := by
  have shortened {name : List Char} {kept : List (List Char)} (member : name ∈ shorten kept) :
      name ∈ kept := by
    cases kept with
    | nil => cases member
    | cons last kept =>
      rw [shorten] at member
      split at member
      · exact member
      · exact List.mem_cons_of_mem _ member
  induction names generalizing kept with
  | nil => exact .inl (List.mem_reverse.1 member)
  | cons s rest ih =>
    have left {name : List Char} (member : name ∈ if isDots 2 s then shorten kept else kept) :
        name ∈ kept := by
      split at member
      · exact shortened member
      · exact member
    rw [resolveDots] at member
    split at member
    · dsimp only at member
      split at member
      · obtain rfl | member := List.mem_cons.1 (List.mem_reverse.1 member)
        · exact .inr (.inl rfl)
        · exact .inl (left member)
      · exact (ih member).imp_left left
    · obtain here | found := ih member
      · obtain rfl | earlier := List.mem_cons.1 here
        · exact .inr (.inr ⟨s, rfl⟩)
        · exact .inl earlier
      · exact .inr found

theorem notMem_text_pathOf {scheme : String} {mark : Char} (noFile : (scheme == "file") = false)
    (escaped : keptInPath mark = false) (apart : mark ≠ '/' ∧ mark ≠ '%')
    (noDigit : Text.hexValue? mark = none) (text : List Char) :
    mark ∉ (pathOf scheme text).text := by
  have segments : ∃ names, pathOf scheme text = .segments names ∧
      ∀ name ∈ names, name = [] ∨ ∃ s, name = Percent.encode keptInPath s := by
    unfold pathOf
    split
    · refine ⟨_, rfl, fun name member => .inl ?_⟩
      split at member
      · exact List.mem_singleton.1 member
      · cases member
    · refine ⟨_, rfl, fun name member => ?_⟩
      rw [segmentsOf, noFile] at member
      obtain kept | found := mem_resolveDots member
      · cases kept
      · exact found
  obtain ⟨names, whole, encoded⟩ := segments
  rw [whole, Path.text]
  intro member
  obtain ⟨name, inside, within⟩ := List.mem_flatMap.1 member
  obtain rfl | within := List.mem_cons.1 within
  · exact apart.1 rfl
  · obtain rfl | ⟨s, rfl⟩ := encoded name inside
    · cases within
    · exact Percent.notMem_encode escaped apart.2 noDigit s within

def Plain (name : List Char) : Prop :=
  isDots 1 name = false ∧ isDots 2 name = false ∧ Percent.encode keptInPath name = name

theorem resolveDots_cons_of_plain {name : List Char} (plain : Plain name)
    (kept rest : List (List Char)) :
    resolveDots false kept (name :: rest) = resolveDots false (name :: kept) rest := by
  obtain ⟨single, double, same⟩ := plain
  rw [resolveDots, single, double]
  simp only [segment, same, Bool.false_and, Bool.or_false, Bool.false_eq_true, if_false]

theorem resolveDots_of_plain {names : List (List Char)} (plain : ∀ name ∈ names, Plain name)
    (kept : List (List Char)) : resolveDots false kept names = kept.reverse ++ names := by
  induction names generalizing kept with
  | nil => rw [resolveDots, List.append_nil]
  | cons name rest ih =>
    obtain ⟨first, others⟩ := List.forall_mem_cons.1 plain
    rw [resolveDots_cons_of_plain first, ih others, List.reverse_cons, List.append_assoc,
      List.singleton_append]

theorem resolveDots_of_end (kept : List (List Char)) :
    resolveDots false kept (splitPath true []) = kept.reverse ++ [[]] := by
  have empty : Plain [] := ⟨rfl, rfl, rfl⟩
  exact resolveDots_of_plain (by simpa [splitPath] using empty) kept

theorem pathOf_append_slash (scheme : String) (text : List Char) :
    ∃ kept, ∀ more, pathOf scheme (text ++ '/' :: more) =
      .segments (resolveDots (scheme == "file") kept (splitPath (isSpecial scheme) more)) := by
  have nonempty (more : List Char) : (text ++ '/' :: more).isEmpty = false := by simp
  have slash : isSlash (isSpecial scheme) '/' = true := rfl
  simp only [pathOf, nonempty, segmentsOf, Bool.false_eq_true, if_false]
  cases text with
  | nil => exact ⟨[], fun more => by rw [List.nil_append, dropSlash, slash]; rfl⟩
  | cons c rest =>
    obtain ⟨front, same⟩ : ∃ front, ∀ more,
        dropSlash (isSpecial scheme) (c :: rest ++ '/' :: more) = front ++ '/' :: more := by
      by_cases first : isSlash (isSpecial scheme) c = true
      · exact ⟨rest, fun more => by rw [List.cons_append, dropSlash, if_pos first]⟩
      · exact ⟨c :: rest, fun more => by rw [List.cons_append, dropSlash, if_neg first]⟩
    refine ⟨(splitPath (isSpecial scheme) front).foldl (pass (scheme == "file")) [],
      fun more => ?_⟩
    rw [same, splitPath_append_slash, resolveDots_append _ _ _ (splitPath_ne_nil _ more)]

end PanelProbe.Url
