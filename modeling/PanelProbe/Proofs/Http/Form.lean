import PanelProbe.Http.Form
import PanelProbe.Proofs.Percent
import PanelProbe.Proofs.Text.Cut

/-!
Queries as pairs. A reader that cuts a query at its ampersands and equals signs finds the pairs that
were written, behind those that were there before.
-/

set_option autoImplicit false

namespace PanelProbe.Http.Form

def readComponent (text : List Char) : List UInt8 :=
  Percent.decode (text.map fun c => if c = '+' then ' ' else c)

def readPart (part : List Char) : List UInt8 × List UInt8 :=
  let (name, value) := Text.cut '=' part
  (readComponent name, readComponent (value.getD []))

def read (query : List Char) : List (List UInt8 × List UInt8) :=
  ((query.splitOn '&').filter fun part => !part.isEmpty).map readPart

def bytes (pair : String × String) : List UInt8 × List UInt8 :=
  (Percent.bytes pair.1.toList, Percent.bytes pair.2.toList)

/-! Components. -/

private theorem notMem_component {c : Char} (escaped : isKept c = false) (apart : c ≠ '%' ∧ c ≠ '+')
    (noDigit : Text.hexValue? c = none) (text : String) : c ∉ component text := by
  intro member
  obtain ⟨b, -, written⟩ := List.mem_flatMap.1 member
  split at written
  · exact apart.2 (List.mem_singleton.1 written)
  · exact Percent.notMem_encodeByte escaped apart.1 noDigit b written

private theorem readComponent_component (text : String) :
    readComponent (component text) = Percent.bytes text.toList := by
  unfold readComponent component
  induction Percent.bytes text.toList with
  | nil => rfl
  | cons b rest ih =>
    rw [List.flatMap_cons, List.map_append]
    by_cases space : b = 0x20
    · subst space
      exact congrArg (0x20 :: ·) ih
    · have plain : (Percent.encodeByte isKept b).map (fun c => if c = '+' then ' ' else c) =
          Percent.encodeByte isKept b := by
        refine (List.map_congr_left fun c member => if_neg ?_).trans (List.map_id' _)
        rintro rfl
        exact Percent.notMem_encodeByte (by decide) (by decide) (by decide) b member
      rw [if_neg (by simpa using space), plain, Percent.decode_encodeByte (by decide), ih]

private theorem readPart_pair (p : String × String) : readPart (pair p) = bytes p := by
  have name : '=' ∉ component p.1 :=
    notMem_component (by decide) (by decide) (by decide) p.1
  rw [readPart, pair, Text.cut_append_cons name]
  exact congrArg₂ Prod.mk (readComponent_component p.1) (readComponent_component p.2)

/-! Queries. -/

private theorem read_nil : read [] = [] := rfl

private theorem read_append (first second : List Char) :
    read (first ++ '&' :: second) = read first ++ read second := by
  have parts : (first ++ '&' :: second).splitOn '&' = first.splitOn '&' ++ second.splitOn '&' :=
    List.splitOn_append_cons_self first second
  rw [read, parts, List.filter_append, List.map_append, ← read, ← read]

private theorem read_pair (p : String × String) : read (pair p) = [bytes p] := by
  have absent : '&' ∉ pair p := by
    have outside := notMem_component (c := '&') (by decide) (by decide) (by decide)
    simp [pair, outside]
  have whole : (pair p).splitOn '&' = [pair p] := List.splitOn_eq_singleton absent
  have nonempty : pair p ≠ [] := by simp [pair]
  rw [read, whole, List.filter_cons_of_pos (by simpa using nonempty), List.filter_nil,
    List.map_singleton, readPart_pair]

private theorem read_intercalate (parts : List (List Char)) :
    read (['&'].intercalate parts) = parts.flatMap read := by
  induction parts with
  | nil => rfl
  | cons part rest ih =>
    cases rest with
    | nil => simp
    | cons next more =>
      rw [List.intercalate_cons_cons, List.append_assoc, List.singleton_append, read_append, ih]
      rfl

private theorem getD_append (query : Option (List Char)) (pairs : List (String × String)) :
    (append query pairs).getD [] = ['&'].intercalate
      ((query.toList.filter fun text => !text.isEmpty) ++ pairs.map pair) := by
  obtain _ | _ | ⟨c, rest⟩ := query
  all_goals
    unfold append
    dsimp only
    split
    · rename_i blank
      exact blank.symm
    · rfl

theorem read_append_pairs (query : Option (List Char)) (pairs : List (String × String)) :
    read ((append query pairs).getD []) = read (query.getD []) ++ pairs.map bytes := by
  -- An empty query has no pairs that could be lost with it.
  have before : (query.toList.filter fun text => !text.isEmpty).flatMap read =
      read (query.getD []) := by
    obtain _ | _ | ⟨c, rest⟩ := query <;> simp [read_nil]
  have behind : (pairs.map pair).flatMap read = pairs.map bytes := by
    rw [List.flatMap_map, List.map_eq_flatMap]
    exact List.flatMap_congr fun p _ => read_pair p
  rw [getD_append, read_intercalate, List.flatMap_append, before, behind]

end PanelProbe.Http.Form
