import PanelProbe.Text.Composition

/-!
Composition at the end of a text: an ASCII character is no mark and is not composed with what stands
before it, so it stays, and the text before it is composed as it is without it.
-/

set_option autoImplicit false

namespace PanelProbe.Text

variable {code : Nat}

private theorem parts_ascii (ascii : code < 0x80) : parts code = [code] :=
  if_pos (Nat.lt_trans ascii (by decide))

private theorem markClass_ascii (ascii : code < 0x80) : markClass code = 0 :=
  if_pos (Nat.lt_trans ascii (by decide))

private theorem pair?_ascii (base : Nat) (ascii : code < 0x80) : pair? base code = none :=
  if_pos (Nat.lt_trans ascii (by decide))

private theorem place_append (part : Nat × Nat) (others : List (Nat × Nat)) :
    place part (others ++ [(0, code)]) = place part others ++ [(0, code)] := by
  induction others with
  | nil => rfl
  | cons next rest ih =>
    rw [List.cons_append, place, place, ih]
    split <;> rfl

private theorem partsOf_append {c : Char} (text : List Char) (ascii : c.toNat < 0x80) :
    partsOf (text ++ [c]) = partsOf text ++ [(0, c.toNat)] := by
  rw [partsOf, List.flatMap_append, List.flatMap_singleton, parts_ascii ascii, List.map_append,
    List.map_singleton, markClass_ascii ascii, partsOf]
  induction (text.flatMap fun c => parts c.toNat).map fun code => (markClass code, code) with
  | nil => rfl
  | cons part rest ih => rw [List.cons_append, List.foldr_cons, ih, place_append, List.foldr_cons]

private theorem composeFrom_append (ascii : code < 0x80) (parts : List (Nat × Nat)) (base : Nat)
    (kept : List (Nat × Nat)) :
    composeFrom base kept (parts ++ [(0, code)]) = composeFrom base kept parts ++ [code] := by
  induction parts generalizing base kept with
  | nil => simp [composeFrom, pair?_ascii base ascii]
  | cons part rest ih =>
    obtain ⟨k, mark⟩ := part
    rw [List.cons_append, composeFrom, composeFrom]
    split
    · exact ih _ _
    · split
      · rw [ih, List.append_assoc]
      · exact ih _ _

private theorem compose_append (ascii : code < 0x80) (parts : List (Nat × Nat)) :
    compose (parts ++ [(0, code)]) = compose parts ++ [code] := by
  induction parts with
  | nil => rfl
  | cons part rest ih =>
    obtain ⟨k, mark⟩ := part
    rw [List.cons_append, compose, compose]
    split
    · exact composeFrom_append ascii rest mark []
    · rw [ih, List.cons_append]

theorem composed_append {c : Char} (text : List Char) (ascii : c.toNat < 0x80) :
    composed (text ++ [c]) = composed text ++ [c] := by
  have small : decide (c.toNat < firstMark) = true :=
    decide_eq_true (Nat.lt_trans ascii (by decide))
  have both : (text ++ [c]).all (fun c => decide (c.toNat < firstMark)) =
      text.all fun c => decide (c.toNat < firstMark) := by
    rw [List.all_append, List.all_cons, small, List.all_nil, Bool.and_true, Bool.and_true]
  rw [composed, composed, both]
  split
  · rfl
  · rw [partsOf_append text ascii, compose_append ascii, List.map_append, List.map_singleton,
      Char.ofNat_toNat]

end PanelProbe.Text
