import Mathlib.Data.List.TakeDrop
import PanelProbe.Proofs.Percent
import PanelProbe.Proofs.Text.Composition
import PanelProbe.Proofs.Text.Cut
import PanelProbe.Url.Parser

/-!
Authorities that end in a space or a control. Such a character is in no port, and it stays at the
end of a name through decoding, folding and composition, where no label may have it.
-/

set_option autoImplicit false

namespace PanelProbe

variable {c mark : Char}

namespace Punycode

private theorem decode?_append (text : List Char) (hyphen : c ≠ '-') (noDigit : value? c = none) :
    decode? (text ++ [c]) = none := by
  have unread (k : Reader) : k.read c = none := by rw [Reader.read, noDigit]; rfl
  rw [decode?, Text.cutLast_append hyphen]
  dsimp only
  split
  · rfl
  · split
    · rfl
    · rw [List.foldlM_append]
      cases ((Text.cutLast '-' text).2.foldlM Reader.read
        { placed := (Text.cutLast '-' text).1.getD [] }) with
      | none => rfl
      | some k => simp [unread]

end Punycode

namespace Url

/-! Results. -/

theorem ok_of_map_eq_ok {ε α β : Type} {x : Except ε α} {f : α → β} {b : β} (h : x.map f = .ok b) :
    ∃ a, x = .ok a ∧ f a = b := by
  cases x with
  | error e => cases h
  | ok a => exact ⟨a, rfl, Except.ok.inj h⟩

theorem ok_of_bind_eq_ok {ε α β : Type} {x : Except ε α} {f : α → Except ε β} {b : β}
    (h : x >>= f = .ok b) : ∃ a, x = .ok a ∧ f a = .ok b := by
  cases x with
  | error e => cases h
  | ok a => exact ⟨a, rfl, h⟩

/-! What stands at the end of a part. -/

private theorem exists_mem_splitOn (apart : c ≠ '.') (text : List Char) :
    ∃ label, label ++ [c] ∈ (text ++ [c]).splitOn '.' := by
  induction text with
  | nil =>
    refine ⟨[], ?_⟩
    have absent : '.' ∉ [c] := fun member => apart (List.mem_singleton.1 member).symm
    rw [List.nil_append, List.splitOn_eq_singleton absent]
    exact List.mem_singleton_self _
  | cons d rest ih =>
    obtain ⟨label, member⟩ := ih
    rw [List.cons_append]
    by_cases point : d = '.'
    · rw [List.splitOn_cons_eq_if_modifyHead, if_pos (beq_iff_eq.2 point)]
      exact ⟨label, List.mem_cons_of_mem _ member⟩
    · obtain ⟨first, others, parts, whole⟩ := Text.exists_splitOn_cons point (rest ++ [c])
      rw [parts] at member
      rw [whole]
      obtain rfl | later := List.mem_cons.1 member
      · exact ⟨d :: label, List.mem_cons_self⟩
      · exact ⟨label, List.mem_cons_of_mem _ later⟩

private theorem isSome_of_mapM {α β : Type} {f : α → Option β} {items : List α} {results : List β}
    (all : items.mapM f = some results) : ∀ a ∈ items, (f a).isSome = true := by
  induction items generalizing results with
  | nil => simp
  | cons a rest ih =>
    rw [List.mapM_cons] at all
    simp only [Option.bind_eq_bind, Option.bind_eq_some_iff] at all
    obtain ⟨b, here, others, later, -⟩ := all
    simpa [here] using ih later

private theorem cutPort_append (apart : c ≠ ':') (inside : Bool) (text : List Char) :
    cutPort inside (text ++ [c]) =
      ((cutPort inside text).1 ++ (if (cutPort inside text).2 = none then [c] else []),
        (cutPort inside text).2.map (· ++ [c])) := by
  induction text generalizing inside with
  | nil => simp [cutPort, apart]
  | cons d rest ih =>
    rw [List.cons_append, cutPort, cutPort]
    split
    · rfl
    · rw [ih, List.cons_append]

private theorem cutPort_suffix {inside : Bool} {text host port : List Char}
    (cuts : cutPort inside text = (host, some port)) : port <:+ text := by
  induction text generalizing inside host with
  | nil => simp [cutPort] at cuts
  | cons d rest ih =>
    rw [cutPort] at cuts
    split at cuts
    · obtain rfl := Option.some.inj (congrArg Prod.snd cuts)
      exact List.suffix_cons d rest
    · rcases behind : cutPort (d == '[' || (inside && d != ']')) rest with ⟨front, back⟩
      rw [behind] at cuts
      obtain ⟨-, rfl⟩ := Prod.mk.inj cuts
      exact (ih behind).trans (List.suffix_cons d rest)

/-- The space or a control before it, as they are dropped from the ends of a URL. -/
def IsEdge (c : Char) : Prop := c.toNat ≤ 0x20

instance : DecidablePred IsEdge := fun c => Nat.decLe c.toNat 0x20

namespace IsEdge

variable (edge : IsEdge c)
include edge

theorem ascii : c.toNat < 0x80 := Nat.lt_of_le_of_lt edge (by decide)

theorem ne (high : 0x20 < mark.toNat) : c ≠ mark := by
  rintro rfl
  exact absurd edge (Nat.not_le.2 high)

private theorem of_table {p : Char → Bool} (table : ∀ n : Fin 33, p (Char.ofNat n) = true) :
    p c = true := by
  have found := table ⟨c.toNat, Nat.lt_succ_of_le edge⟩
  rwa [Char.ofNat_toNat] at found

private theorem fold?_eq : Text.fold? c = some [c] := by
  have lower : (c.toLower == c) = true := edge.of_table (p := fun c => c.toLower == c) (by decide)
  rw [Text.fold?_ascii c edge.ascii, beq_iff_eq.1 lower]

private theorem hexValue?_eq : Text.hexValue? c = none := by
  have none : (Text.hexValue? c == Option.none) = true :=
    edge.of_table (p := fun c => Text.hexValue? c == Option.none) (by decide)
  exact beq_iff_eq.1 none

private theorem value?_eq : Punycode.value? c = none := by
  have none : (Punycode.value? c == Option.none) = true :=
    edge.of_table (p := fun c => Punycode.value? c == Option.none) (by decide)
  exact beq_iff_eq.1 none

theorem isForbidden : isForbidden c = true := by
  simp [Url.isForbidden, show c.toNat ≤ 0x20 from edge]

private theorem ofDigits?_append (text : List Char) : Text.ofDigits? (text ++ [c]) = none := by
  have noDigit : (!c.isDigit) = true := edge.of_table (p := fun c => !c.isDigit) (by decide)
  rw [Bool.not_eq_true'] at noDigit
  simp [Text.ofDigits?, noDigit]

/-! Names. -/

private theorem ofFolded?_append (text : List Char) : Label.ofFolded? (text ++ [c]) = none := by
  have unfit : isLabel (text ++ [c]) = false := by simp [isLabel, edge.isForbidden]
  rw [Label.ofFolded?, unfit]
  split
  · rename_i coded
    -- The mark of a coding ends in a hyphen, so the last character is behind it.
    have inside : codedMark.length ≤ text.length := by
      by_contra short
      have whole : codedMark = text ++ [c] := by
        refine (List.isPrefixOf_iff_prefix.1 coded).eq_of_length_le ?_
        rw [List.length_append, List.length_singleton]
        omega
      have last := congrArg List.getLast? whole
      rw [List.getLast?_concat] at last
      exact edge.ne (by decide) (Option.some.inj last).symm
    rw [List.drop_append_of_le_length inside, Label.ofCoding?,
      Punycode.decode?_append _ (edge.ne (by decide)) edge.value?_eq]
    split <;> rfl
  · rfl

private theorem nameOfBytes_ne (data : List UInt8) (name : List Char) :
    nameOfBytes (data ++ [UInt8.ofNat c.toNat]) ≠ .ok name := by
  have refused : (do
      let text ← String.fromUTF8? (ByteArray.mk (data ++ [UInt8.ofNat c.toNat]).toArray)
      let folded ← text.toList.mapM Text.fold?
      ((Text.composed folded.flatten).splitOn '.').mapM Label.ofFolded?) = none := by
    refine Option.eq_none_iff_forall_ne_some.2 fun labels found => ?_
    simp only [Option.bind_eq_bind, Option.bind_eq_some_iff] at found
    obtain ⟨text, decoded, folded, folds, labels⟩ := found
    obtain ⟨front, ends⟩ :=
      Percent.eq_append_of_bytes edge.ascii (Percent.bytes_of_fromUTF8? decoded)
    rw [ends, List.mapM_append] at folds
    simp only [List.mapM_cons, List.mapM_nil, edge.fold?_eq, Option.bind_eq_bind,
      Option.bind_eq_some_iff, Option.pure_def, Option.some.injEq, exists_eq_left'] at folds
    obtain ⟨before, -, rfl⟩ := folds
    rw [List.flatten_append, List.flatten_singleton, Text.composed_append _ edge.ascii] at labels
    obtain ⟨label, member⟩ :=
      exists_mem_splitOn (edge.ne (by decide)) (Text.composed before.flatten)
    have read := isSome_of_mapM labels _ member
    rw [edge.ofFolded?_append] at read
    cases read
  rw [nameOfBytes, refused]
  simp

private theorem ofName_ne (text : List Char) (host : Host) :
    Host.ofName (text ++ [c]) ≠ .ok host := by
  intro read
  unfold Host.ofName at read
  split at read
  case h_1 found bracketed =>
    unfold bracketed? at bracketed
    split at bracketed
    · rename_i rest begins
      have last : rest.getLast? ≠ some ']' := by
        intro closed
        have same := congrArg List.getLast? begins
        rw [List.getLast?_concat, List.getLast?_cons, closed] at same
        exact edge.ne (by decide) (Option.some.inj same)
      rw [if_neg (by simpa using last)] at bracketed
      obtain rfl := Option.some.inj bracketed
      cases read
    · cases bracketed
  case h_2 =>
    rw [Percent.decode_append text edge.ascii (edge.ne (by decide)) edge.hexValue?_eq] at read
    obtain ⟨name, named, -⟩ := ok_of_bind_eq_ok read
    exact edge.nameOfBytes_ne _ name named

/-! Authorities. -/

private theorem portOf_append (scheme : String) (text : List Char) :
    Url.portOf scheme (text ++ [c]) = .error .port := by
  rw [Url.portOf, if_neg (by simp), edge.ofDigits?_append]

theorem authorityOf_ne {scheme : String} {text : List Char} (special : isSpecial scheme = true)
    (whole : ∀ d ∈ text, isSlash true d = false) (followed : Bool) (found : Authority × List Char) :
    authorityOf scheme followed (text ++ [c]) ≠ .ok found := by
  intro read
  unfold authorityOf at read
  rw [Text.cutLast_append (edge.ne (by decide))] at read
  have inside := Text.cutLast_suffix '@' text
  generalize (Text.cutLast '@' text).2 = place at read inside
  dsimp only at read
  rw [cutPort_append (edge.ne (by decide)), special] at read
  rcases cuts : cutPort false place with ⟨host, _ | port⟩
  · rw [cuts] at read
    simp only [if_true, Option.map_none] at read
    rw [if_neg (by simp)] at read
    obtain ⟨name, named, -⟩ := ok_of_bind_eq_ok read
    exact edge.ofName_ne _ name named
  · rw [cuts] at read
    simp only [if_true, Option.map_some, reduceCtorEq, if_false, List.append_nil] at read
    split at read
    · simp at read
    have plain : ∀ d ∈ port ++ [c], decide (d ≠ '\\') = true := by
      intro d member
      obtain early | last := List.mem_append.1 member
      · have split := whole d (inside.subset ((cutPort_suffix cuts).subset early))
        refine decide_eq_true ?_
        rintro rfl
        cases split
      · rw [List.mem_singleton.1 last]
        exact decide_eq_true (edge.ne (by decide))
    obtain ⟨name, -, read⟩ := ok_of_bind_eq_ok read
    rw [Option.getD_some, List.span_eq_takeWhile_dropWhile,
      List.takeWhile_eq_self_iff.2 plain] at read
    obtain ⟨number, numbered, -⟩ := ok_of_bind_eq_ok read
    rw [edge.portOf_append] at numbered
    cases numbered

end IsEdge

end Url

end PanelProbe
