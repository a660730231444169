import Mathlib.Data.List.Basic
import PanelProbe.Percent
import PanelProbe.Session

/-!
Percent-encoding is undone by decoding, so different texts are written differently. An ASCII
character at the end of a text is at the end of what it stands for.
-/

set_option autoImplicit false

namespace PanelProbe.Percent

private theorem hexValue?_digit {n : Nat} (h : n < 16) : Text.hexValue? (digit n) = some n := by
  have table : ∀ m : Fin 16, Text.hexValue? (digit m) = some m.val := by decide
  exact table ⟨n, h⟩

theorem decode_cons_of_ne {c : Char} (h : c ≠ '%') (rest : List Char) :
    decode (c :: rest) = String.utf8EncodeChar c ++ decode rest := by
  rw [decode]
  intro a b more same
  exact absurd same h

theorem decode_of_notMem {text : List Char} (absent : '%' ∉ text) : decode text = bytes text := by
  induction text with
  | nil => rfl
  | cons c rest ih =>
    obtain ⟨apart, later⟩ := not_or.1 (mt List.mem_cons.2 absent)
    rw [decode_cons_of_ne (Ne.symm apart), ih later]
    rfl

private theorem decode_triple (b : UInt8) (rest : List Char) :
    decode (triple b ++ rest) = b :: decode rest := by
  have bound : b.toNat < 256 := b.toNat_lt
  have high : b.toNat / 16 < 16 := by omega
  have low : b.toNat % 16 < 16 := by omega
  have whole : 16 * (b.toNat / 16) + b.toNat % 16 = b.toNat := by omega
  simp only [triple, List.cons_append, List.nil_append, decode, hexValue?_digit high,
    hexValue?_digit low, whole, UInt8.ofNat_toNat]

private theorem utf8EncodeChar_ofNat {b : UInt8} (h : b < 0x80) :
    String.utf8EncodeChar (Char.ofNat b.toNat) = [b] := by
  have table : ∀ m : Fin 128, String.utf8EncodeChar (Char.ofNat m) = [UInt8.ofNat m] := by decide
  have equal := table ⟨b.toNat, h⟩
  rwa [UInt8.ofNat_toNat] at equal

theorem decode_encodeByte {keep : Char → Bool} (escaped : keep '%' = false) (b : UInt8)
    (rest : List Char) : decode (encodeByte keep b ++ rest) = b :: decode rest := by
  unfold encodeByte
  dsimp only
  split
  · rename_i kept
    obtain ⟨ascii, kept⟩ := Bool.and_eq_true_iff.1 kept
    have apart : Char.ofNat b.toNat ≠ '%' := by
      intro same
      rw [same, escaped] at kept
      cases kept
    rw [List.singleton_append, decode_cons_of_ne apart,
      utf8EncodeChar_ofNat (of_decide_eq_true ascii)]
    rfl
  · exact decode_triple b rest

theorem decode_encodeBytes {keep : Char → Bool} (escaped : keep '%' = false)
    (data : List UInt8) : decode (encodeBytes keep data) = data := by
  induction data with
  | nil => rfl
  | cons b rest ih =>
    rw [encodeBytes, List.flatMap_cons, decode_encodeByte escaped]
    exact congrArg (b :: ·) ih

private theorem mem_encodeByte {keep : Char → Bool} {b : UInt8} {c : Char}
    (h : c ∈ encodeByte keep b) :
    keep c = true ∨ c = '%' ∨ ∃ n < 16, c = digit n := by
  have bound : b.toNat < 256 := b.toNat_lt
  unfold encodeByte at h
  dsimp only at h
  split at h
  · rename_i kept
    rw [List.mem_singleton.1 h]
    exact .inl (Bool.and_eq_true_iff.1 kept).2
  · simp only [triple, List.mem_cons, List.not_mem_nil, or_false] at h
    obtain rfl | rfl | rfl := h
    · exact .inr (.inl rfl)
    · exact .inr (.inr ⟨b.toNat / 16, by omega, rfl⟩)
    · exact .inr (.inr ⟨b.toNat % 16, by omega, rfl⟩)

theorem notMem_encodeByte {keep : Char → Bool} {c : Char} (escaped : keep c = false)
    (sign : c ≠ '%') (noDigit : Text.hexValue? c = none) (b : UInt8) : c ∉ encodeByte keep b := by
  intro member
  obtain kept | same | ⟨n, small, rfl⟩ := mem_encodeByte member
  · rw [escaped] at kept
    cases kept
  · exact sign same
  · rw [hexValue?_digit small] at noDigit
    cases noDigit

theorem notMem_encode {keep : Char → Bool} {c : Char} (escaped : keep c = false) (sign : c ≠ '%')
    (noDigit : Text.hexValue? c = none) (text : List Char) : c ∉ encode keep text := by
  intro member
  obtain ⟨b, -, written⟩ := List.mem_flatMap.1 member
  exact notMem_encodeByte escaped sign noDigit b written

theorem toNat_of_isAlphanum {c : Char} (h : c.isAlphanum = true) : c.toNat < 0x80 := by
  have within {last : Char} (small : last.toNat < 0x80) (bound : c.val ≤ last.val) :
      c.toNat < 0x80 := Nat.lt_of_le_of_lt (UInt32.le_iff_toNat_le.1 bound) small
  obtain letter | digit := Bool.or_eq_true_iff.1 h
  · obtain upper | lower := Bool.or_eq_true_iff.1 letter
    · have bound : c.val ≤ 'Z'.val := (of_decide_eq_true upper).2
      exact within (by decide) bound
    · have bound : c.val ≤ 'z'.val := of_decide_eq_true (Bool.and_eq_true_iff.1 lower).2
      exact within (by decide) bound
  · have bound : c.val ≤ '9'.val := of_decide_eq_true (Bool.and_eq_true_iff.1 digit).2
    exact within (by decide) bound

theorem toNat_of_isUnreserved {c : Char} (h : isUnreserved c = true) : c.toNat < 0x80 := by
  simp only [isUnreserved, Bool.or_eq_true, beq_iff_eq] at h
  obtain (((h | rfl) | rfl) | rfl) | rfl := h
  · exact toNat_of_isAlphanum h
  all_goals decide

theorem mem_encode_isUnreserved {text : List Char} {c : Char} (h : c ∈ encode isUnreserved text) :
    isUnreserved c = true ∨ c = '%' := by
  have digits : ∀ n : Fin 16, isUnreserved (digit n) = true := by decide
  obtain ⟨b, -, written⟩ := List.mem_flatMap.1 h
  obtain kept | sign | ⟨n, small, rfl⟩ := mem_encodeByte written
  · exact .inl kept
  · exact .inr sign
  · exact .inl (digits ⟨n, small⟩)

theorem encode_of_kept {keep : Char → Bool} {text : List Char}
    (kept : ∀ c ∈ text, c.toNat < 0x80 ∧ keep c = true) : encode keep text = text := by
  induction text with
  | nil => rfl
  | cons c rest ih =>
    obtain ⟨⟨ascii, here⟩, later⟩ := List.forall_mem_cons.1 kept
    have value : (UInt8.ofNat c.toNat).toNat = c.toNat := by
      rw [UInt8.toNat_ofNat']
      omega
    have small : UInt8.ofNat c.toNat < 0x80 := by
      rw [UInt8.lt_iff_toNat_lt, value]
      exact ascii
    have single := utf8EncodeChar_ofNat small
    rw [value, Char.ofNat_toNat] at single
    have front : encodeByte keep (UInt8.ofNat c.toNat) = [c] := by
      rw [encodeByte, value, Char.ofNat_toNat, decide_eq_true small, here]
      rfl
    have behind := ih later
    unfold encode encodeBytes bytes at behind ⊢
    rw [List.flatMap_cons, single, List.singleton_append, List.flatMap_cons, front, behind]
    rfl

theorem bytes_injective : Function.Injective bytes := by
  intro first second same
  have encoded : first.utf8Encode = second.utf8Encode := congrArg List.toByteArray same
  have decoded := congrArg ByteArray.utf8Decode? encoded
  rw [List.utf8Decode?_utf8Encode, List.utf8Decode?_utf8Encode] at decoded
  exact congrArg Array.toList (Option.some.inj decoded)

private theorem encode_injective {keep : Char → Bool} (escaped : keep '%' = false) :
    Function.Injective (encode keep) := by
  intro first second same
  have decoded := congrArg decode same
  rw [encode, encode, decode_encodeBytes escaped, decode_encodeBytes escaped] at decoded
  exact bytes_injective decoded

/-! The end of a text. -/

private theorem utf8EncodeChar_ascii {c : Char} (ascii : c.toNat < 0x80) :
    String.utf8EncodeChar c = [UInt8.ofNat c.toNat] :=
  if_pos (Nat.le_of_lt_succ ascii)

private theorem decode_cons_of_unread {rest : List Char}
    (unread : ∀ a b more, rest = a :: b :: more →
    Text.hexValue? a = none ∨ Text.hexValue? b = none) :
    decode ('%' :: rest) = String.utf8EncodeChar '%' ++ decode rest := by
  obtain _ | ⟨a, _ | ⟨b, more⟩⟩ := rest
  · rfl
  · rfl
  · rw [decode]
    obtain first | second := unread a b more rfl
    · rw [first]
    · rw [second]
      cases Text.hexValue? a <;> rfl

theorem decode_append {c : Char} (text : List Char) (ascii : c.toNat < 0x80) (sign : c ≠ '%')
    (noDigit : Text.hexValue? c = none) :
    decode (text ++ [c]) = decode text ++ [UInt8.ofNat c.toNat] := by
  fun_induction decode text with
  | case1 =>
    rw [List.nil_append, decode_cons_of_ne sign, utf8EncodeChar_ascii ascii]
    rfl
  | case2 a b rest high low first second ih =>
    simp only [List.cons_append, decode, first, second, ih]
  | case3 a b rest unread ih =>
    have open_end : ∀ x y more, a :: b :: rest ++ [c] = x :: y :: more →
        Text.hexValue? x = none ∨ Text.hexValue? y = none := by
      intro x y more same
      obtain ⟨here, later⟩ := List.cons.inj same
      obtain rfl := here
      obtain rfl := (List.cons.inj later).1
      cases first : Text.hexValue? a with
      | none => exact .inl rfl
      | some high =>
        refine .inr (Option.eq_none_iff_forall_ne_some.2 fun low second => ?_)
        exact unread high low first second
    rw [List.cons_append, decode_cons_of_unread open_end, ih, List.append_assoc]
  | case4 d rest other ih =>
    by_cases begins : d = '%'
    · subst begins
      have open_end : ∀ x y more, rest ++ [c] = x :: y :: more →
          Text.hexValue? x = none ∨ Text.hexValue? y = none := by
        obtain _ | ⟨a, _ | ⟨b, more⟩⟩ := rest
        · simp
        · intro _ _ _ same
          obtain ⟨-, same⟩ := List.cons.inj same
          exact .inr ((List.cons.inj same).1 ▸ noDigit)
        · exact absurd rfl (other a b more rfl)
      rw [List.cons_append, decode_cons_of_unread open_end, ih, List.append_assoc]
    · rw [List.cons_append, decode_cons_of_ne begins, ih, List.append_assoc]

private theorem getLast?_utf8EncodeChar {d : Char} (beyond : 0x80 ≤ d.toNat) :
    ∃ b, (String.utf8EncodeChar d).getLast? = some b ∧ 0x80 ≤ b := by
  unfold String.utf8EncodeChar
  dsimp only
  rw [if_neg (by change 128 ≤ d.val.toNat at beyond; omega)]
  refine ⟨UInt8.ofNat (d.val.toNat % 64 + 128), ?_, ?_⟩
  · split
    · rfl
    · split <;> rfl
  · rw [UInt8.le_iff_toNat_le, UInt8.toNat_ofNat']
    change 128 ≤ _
    omega

theorem eq_append_of_bytes {c : Char} {text : List Char} {data : List UInt8}
    (ascii : c.toNat < 0x80) (ends : bytes text = data ++ [UInt8.ofNat c.toNat]) :
    ∃ front, text = front ++ [c] := by
  obtain rfl | ⟨front, d, rfl⟩ := List.eq_nil_or_concat' text
  · simp [bytes] at ends
  have last := congrArg List.getLast? ends
  have value : (UInt8.ofNat c.toNat).toNat = c.toNat := by
    rw [UInt8.toNat_ofNat']
    omega
  rw [bytes, List.flatMap_append, List.flatMap_singleton, List.getLast?_concat] at last
  by_cases beyond : 0x80 ≤ d.toNat
  · obtain ⟨b, found, high⟩ := getLast?_utf8EncodeChar beyond
    rw [List.getLast?_append, found, Option.some_or] at last
    obtain rfl := Option.some.inj last
    rw [UInt8.le_iff_toNat_le, value] at high
    exact absurd high (Nat.not_le.2 ascii)
  · have small := Nat.not_le.1 beyond
    rw [utf8EncodeChar_ascii small, List.getLast?_concat] at last
    have same := congrArg UInt8.toNat (Option.some.inj last)
    rw [value, UInt8.toNat_ofNat', Nat.mod_eq_of_lt (by omega)] at same
    exact ⟨front, by rw [Char.toNat_inj.1 same]⟩

theorem bytes_of_fromUTF8? {data : List UInt8} {text : String}
    (read : String.fromUTF8? (ByteArray.mk data.toArray) = some text) :
    bytes text.toList = data := by
  unfold String.fromUTF8? at read
  split at read
  · obtain rfl := Option.some.inj read
    rename_i valid
    have written : (String.fromUTF8 ⟨data.toArray⟩ valid).toList.utf8Encode = ⟨data.toArray⟩ := by
      rw [← String.toByteArray_ofList, String.ofList_toList]
      rfl
    have listed := congrArg (fun a => a.data.toList) written
    simpa [List.utf8Encode, bytes] using listed
  · cases read

end PanelProbe.Percent

namespace PanelProbe.ResourceId

theorem segment_injective : Function.Injective segment := by
  intro first second same
  have texts := Percent.encode_injective (by decide) (String.ofList_injective same)
  obtain ⟨first⟩ := first
  obtain ⟨second⟩ := second
  exact congrArg ResourceId.mk (String.toList_injective texts)

end PanelProbe.ResourceId
