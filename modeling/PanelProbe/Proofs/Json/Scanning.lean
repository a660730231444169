import PanelProbe.Json.Printer
import PanelProbe.Proofs.Json.Number

/-!
Scanning what was written: strings come back from their escapes, numbers as their literals are read,
and an indented text has the tokens of its value.
-/

set_option autoImplicit false

namespace PanelProbe

def Number.reread (n : Number) : Number := (Number.ofChars? n.chars).getD n

namespace Json

def Token.mapNumber (f : Number → Number) : Token → Token
  | .number n => .number (f n)
  | token => token

def Token.reread : Token → Token := Token.mapNumber Number.reread

/-- All numbers of a value have literals that can be read. -/
def Legible (v : Json) : Prop :=
  ∀ n, Token.number n ∈ v.tokens → (Number.ofChars? n.chars).isSome = true

theorem itemTokens_cons (v : Json) (rest : List Json) :
    itemTokens (v :: rest) = tokens v ++ rest.flatMap fun w => .comma :: tokens w := by
  induction rest generalizing v with
  | nil => simp [itemTokens]
  | cons w rest ih => simp [itemTokens, ih]

theorem memberTokens_cons (key : String) (v : Json) (rest : Members) :
    memberTokens ((key, v) :: rest) = .string key :: .colon :: tokens v ++
      rest.flatMap fun p => .comma :: .string p.1 :: .colon :: tokens p.2 := by
  induction rest generalizing key v with
  | nil => simp [memberTokens]
  | cons p rest ih =>
    obtain ⟨name, w⟩ := p
    simp [memberTokens, ih]

private theorem number_mem_itemTokens {n : Number} {items : List Json} :
    .number n ∈ itemTokens items ↔ ∃ v ∈ items, .number n ∈ v.tokens := by
  cases items with
  | nil => simp [itemTokens]
  | cons v rest => simp [itemTokens_cons]

private theorem number_mem_memberTokens {n : Number} {members : Members} :
    .number n ∈ memberTokens members ↔ ∃ p ∈ members, .number n ∈ p.2.tokens := by
  cases members with
  | nil => simp [memberTokens]
  | cons p rest =>
    obtain ⟨key, v⟩ := p
    simp [memberTokens_cons]

theorem legible_number_iff {n : Number} :
    (Json.number n).Legible ↔ (Number.ofChars? n.chars).isSome = true := by
  simp [Legible, tokens]

theorem legible_string (s : String) : (Json.string s).Legible := by
  simp [Legible, tokens]

theorem legible_array_iff {items : List Json} :
    (Json.array items).Legible ↔ ∀ v ∈ items, v.Legible := by
  simp only [Legible, tokens, List.cons_append, List.mem_cons, List.mem_append, List.not_mem_nil,
    reduceCtorEq, false_or, or_false, number_mem_itemTokens]
  exact ⟨fun all v member n inside => all n ⟨v, member, inside⟩,
    fun all n ⟨v, member, inside⟩ => all v member n inside⟩

theorem legible_object_iff {members : Members} :
    (Json.object members).Legible ↔ ∀ p ∈ members, p.2.Legible := by
  simp only [Legible, tokens, List.cons_append, List.mem_cons, List.mem_append, List.not_mem_nil,
    reduceCtorEq, false_or, or_false, number_mem_memberTokens]
  exact ⟨fun all p member n inside => all n ⟨p, member, inside⟩,
    fun all n ⟨p, member, inside⟩ => all p member n inside⟩

namespace Scan

def tokens? (s : Scan) (text : List Char) : Option (List Token) := (s.run text).bind finish

theorem tokens?_cons (s : Scan) (c : Char) (text : List Char) :
    s.tokens? (c :: text) = (s.next c).bind (·.tokens? text) := by
  unfold tokens? run
  rw [List.foldlM_cons, Option.bind_eq_bind, Option.bind_assoc]

def noted (found tokens : List Token) : List Token :=
  tokens.foldl (fun found t => t.reread :: found) found

theorem reverse_noted (found tokens : List Token) :
    (noted found tokens).reverse = found.reverse ++ tokens.map Token.reread := by
  induction tokens generalizing found with
  | nil => simp [noted]
  | cons t rest ih =>
    rw [noted, List.foldl_cons, ← noted, ih]
    simp

variable {found : List Token} {seen rest : List Char} {c : Char}

/-! One character, by the place of the scanner. -/

private theorem next_word : next ⟨.word seen, found⟩ c =
    if isWordChar c then some ⟨.word (c :: seen), found⟩
    else (Token.ofWord? seen.reverse).bind fun t => outside (t :: found) c := rfl

private theorem next_text : next ⟨.text seen, found⟩ c =
    if c = '"' then some ⟨.between, .string (String.ofList seen.reverse) :: found⟩
    else if c = '\\' then some ⟨.escape seen, found⟩
    else if c.toNat < 0x20 then none
    else some ⟨.text (c :: seen), found⟩ := rfl

private theorem next_escape : next ⟨.escape seen, found⟩ c =
    if c = 'u' then some ⟨.unicode seen none 4 0, found⟩
    else (simpleEscape? c).map fun c => ⟨.text (c :: seen), found⟩ := rfl

private theorem next_unicode {lead : Option Nat} {left code : Nat} :
    next ⟨.unicode seen lead left code, found⟩ c = (hexValue? c).bind fun digit =>
      if left ≤ 1 then (unit? seen lead (code * 16 + digit)).map fun place => ⟨place, found⟩
      else some ⟨.unicode seen lead (left - 1) (code * 16 + digit), found⟩ := rfl

/-! Strings. -/

inductive CodeUnit : List Char → Nat → Prop
  | four {p q r s : Char} {a b c d : Nat} (first : hexValue? p = some a)
      (second : hexValue? q = some b) (third : hexValue? r = some c)
      (fourth : hexValue? s = some d) : CodeUnit [p, q, r, s] (((a * 16 + b) * 16 + c) * 16 + d)

/-- How the characters of a string may be written between its quotes: as they are, by a short
escape, or by the code units of UTF-16. -/
inductive Spelled : List Char → List Char → Prop
  | done : Spelled [] []
  | plain {c : Char} {value text : List Char} (unquoted : c ≠ '"') (unescaped : c ≠ '\\')
      (visible : ¬c.toNat < 0x20) (later : Spelled value text) : Spelled (c :: value) (c :: text)
  | short {c d : Char} {value text : List Char} (escape : simpleEscape? d = some c)
      (later : Spelled value text) : Spelled (c :: value) ('\\' :: d :: text)
  | unit {digits : List Char} {code : Nat} {value text : List Char} (unit : CodeUnit digits code)
      (alone : code < 0xD800 ∨ 0xDFFF < code) (later : Spelled value text) :
      Spelled (Char.ofNat code :: value) ('\\' :: 'u' :: (digits ++ text))
  | pair {first second : List Char} {lead trail : Nat} {value text : List Char}
      (high : CodeUnit first lead) (low : CodeUnit second trail)
      (leading : 0xD800 ≤ lead ∧ lead ≤ 0xDBFF) (trailing : 0xDC00 ≤ trail ∧ trail ≤ 0xDFFF)
      (later : Spelled value text) :
      Spelled (Char.ofNat (0x10000 + (lead - 0xD800) * 0x400 + (trail - 0xDC00)) :: value)
        ('\\' :: 'u' :: (first ++ '\\' :: 'u' :: (second ++ text)))

private theorem hexValue?_hexDigit {n : Nat} (h : n < 16) : hexValue? (hexDigit n) = some n := by
  have table : ∀ m : Fin 16, hexValue? (hexDigit m) = some m.val := by decide
  exact table ⟨n, h⟩

private theorem tokens?_short {d : Char} (h : simpleEscape? d = some c) :
    tokens? ⟨.text seen, found⟩ ('\\' :: d :: rest) = tokens? ⟨.text (c :: seen), found⟩ rest := by
  have apart : d ≠ 'u' := by
    rintro rfl
    cases h
  have open? : next ⟨.text seen, found⟩ '\\' = some ⟨.escape seen, found⟩ := rfl
  have close? : next ⟨.escape seen, found⟩ d = some ⟨.text (c :: seen), found⟩ := by
    rw [next_escape, if_neg apart, h]
    rfl
  rw [tokens?_cons, open?, Option.bind_some, tokens?_cons, close?, Option.bind_some]

private theorem tokens?_unitMark : tokens? ⟨.text seen, found⟩ ('\\' :: 'u' :: rest) =
    tokens? ⟨.unicode seen none 4 0, found⟩ rest := rfl

private theorem tokens?_trailMark {lead : Nat} :
    tokens? ⟨.trail seen lead, found⟩ ('\\' :: 'u' :: rest) =
    tokens? ⟨.unicode seen (some lead) 4 0, found⟩ rest := rfl

private theorem tokens?_unit {lead : Option Nat} {digits : List Char} {code : Nat}
    (unit : CodeUnit digits code) : tokens? ⟨.unicode seen lead 4 0, found⟩ (digits ++ rest) =
      (unit? seen lead code).bind fun place => tokens? ⟨place, found⟩ rest := by
  obtain ⟨first, second, third, fourth⟩ := unit
  rename_i p q r s a b c d
  have front : tokens? ⟨.unicode seen lead 4 0, found⟩ ([p, q, r, s] ++ rest) =
      tokens? ⟨.unicode seen lead 1 ((a * 16 + b) * 16 + c), found⟩ (s :: rest) := by
    have digit {t : Char} {value left code : Nat} (more : ¬left ≤ 1)
        (read : hexValue? t = some value) : next ⟨.unicode seen lead left code, found⟩ t =
        some ⟨.unicode seen lead (left - 1) (code * 16 + value), found⟩ := by
      rw [next_unicode, read, Option.bind_some, if_neg more]
    rw [List.cons_append, tokens?_cons, digit (by decide) first, Option.bind_some, List.cons_append,
      tokens?_cons, digit (by decide) second, Option.bind_some, List.cons_append, tokens?_cons,
      digit (by decide) third, Option.bind_some, Nat.zero_mul, Nat.zero_add]
    rfl
  rw [front, tokens?_cons, next_unicode, fourth, Option.bind_some, if_pos (le_refl 1)]
  cases unit? seen lead (((a * 16 + b) * 16 + c) * 16 + d) <;> rfl

private theorem tokens?_spelled {value text : List Char} (spelled : Spelled value text) :
    tokens? ⟨.text seen, found⟩ (text ++ rest) =
      tokens? ⟨.text (value.reverse ++ seen), found⟩ rest := by
  induction spelled generalizing seen with
  | done => rfl
  | plain unquoted unescaped visible later ih =>
    rw [List.cons_append, tokens?_cons, next_text, if_neg unquoted, if_neg unescaped,
      if_neg visible, Option.bind_some, ih, List.reverse_cons, List.append_assoc]
    rfl
  | short escape later ih =>
    rw [List.cons_append, List.cons_append, tokens?_short escape, ih, List.reverse_cons,
      List.append_assoc]
    rfl
  | @unit _ code value text unit alone later ih =>
    have place : unit? seen none code = some (.text (Char.ofNat code :: seen)) := by
      rw [unit?]
      rw [if_neg (by omega), if_neg (by omega)]
    rw [List.cons_append, List.cons_append, List.append_assoc, tokens?_unitMark, tokens?_unit unit,
      place, Option.bind_some, ih, List.reverse_cons, List.append_assoc]
    rfl
  | @pair _ _ lead trail value text high low leading trailing later ih =>
    have waits : unit? seen none lead = some (.trail seen lead) := if_pos leading
    have place : unit? seen (some lead) trail = some (.text (Char.ofNat
        (0x10000 + (lead - 0xD800) * 0x400 + (trail - 0xDC00)) :: seen)) := if_pos trailing
    rw [List.cons_append, List.cons_append, List.append_assoc, tokens?_unitMark,
      tokens?_unit high, waits, Option.bind_some, List.cons_append, List.cons_append,
      List.append_assoc, tokens?_trailMark, tokens?_unit low, place, Option.bind_some, ih,
      List.reverse_cons, List.append_assoc]
    rfl

theorem Spelled.escapeChar {value text : List Char} (later : Spelled value text) (c : Char) :
    Spelled (c :: value) (Json.escapeChar c ++ text) := by
  unfold Json.escapeChar
  split_ifs with quote slash back feed line return_ tab control
  · subst quote
    exact .short rfl later
  · subst slash
    exact .short rfl later
  · subst back
    exact .short rfl later
  · subst feed
    exact .short rfl later
  · subst line
    exact .short rfl later
  · subst return_
    exact .short rfl later
  · subst tab
    exact .short rfl later
  · have unit : CodeUnit ['0', '0', hexDigit (c.toNat / 16), hexDigit (c.toNat % 16)] c.toNat := by
      have zero : hexValue? '0' = some 0 := rfl
      have whole : ((0 * 16 + 0) * 16 + c.toNat / 16) * 16 + c.toNat % 16 = c.toNat := by omega
      have digits := CodeUnit.four zero zero (hexValue?_hexDigit (show c.toNat / 16 < 16 by omega))
        (hexValue?_hexDigit (show c.toNat % 16 < 16 by omega))
      rwa [whole] at digits
    have spelled := Spelled.unit unit (.inl (by omega)) later
    rwa [Char.ofNat_toNat] at spelled
  · exact .plain quote slash control later

theorem spelled_escaped (text : List Char) : Spelled text (text.flatMap Json.escapeChar) := by
  induction text with
  | nil => exact .done
  | cons c text ih => exact ih.escapeChar c

theorem tokens?_string {value text : List Char} (spelled : Spelled value text) :
    tokens? ⟨.between, found⟩ ('"' :: (text ++ '"' :: rest)) =
      tokens? ⟨.between, .string (String.ofList value) :: found⟩ rest := by
  have opening : tokens? ⟨.between, found⟩ ('"' :: (text ++ '"' :: rest)) =
      tokens? ⟨.text [], found⟩ (text ++ '"' :: rest) := rfl
  have closing : next ⟨.text (value.reverse ++ []), found⟩ '"' =
      some ⟨.between, .string (String.ofList value) :: found⟩ := by
    rw [next_text, if_pos rfl, List.append_nil, List.reverse_reverse]
  rw [opening, tokens?_spelled spelled, tokens?_cons, closing, Option.bind_some]

private theorem tokens?_quoted (text : String) : tokens? ⟨.between, found⟩ (quoted text ++ rest) =
    tokens? ⟨.between, .string text :: found⟩ rest := by
  have spelling : quoted text ++ rest =
      '"' :: (text.toList.flatMap escapeChar ++ '"' :: rest) := by
    rw [quoted, List.cons_append, List.cons_append, List.append_assoc]
    rfl
  rw [spelling, tokens?_string (spelled_escaped text.toList), String.ofList_toList]

/-! Words and marks. -/

/-- No character in front that a word would go on with. -/
def Ends (text : List Char) : Prop := ∀ c ∈ text.head?, isWordChar c = false

private theorem tokens?_wordChars {word : List Char} (inside : ∀ c ∈ word, isWordChar c = true) :
    tokens? ⟨.word seen, found⟩ (word ++ rest) =
      tokens? ⟨.word (word.reverse ++ seen), found⟩ rest := by
  induction word generalizing seen with
  | nil => rfl
  | cons c word ih =>
    obtain ⟨here, later⟩ := List.forall_mem_cons.1 inside
    have kept : next ⟨.word seen, found⟩ c = some ⟨.word (c :: seen), found⟩ := by
      rw [next_word, if_pos here]
    rw [List.cons_append, tokens?_cons, kept, Option.bind_some, ih later, List.reverse_cons,
      List.append_assoc]
    rfl

private theorem tokens?_word_end (ends : Ends rest) : tokens? ⟨.word seen, found⟩ rest =
    (Token.ofWord? seen.reverse).bind fun token => tokens? ⟨.between, token :: found⟩ rest := by
  cases rest with
  | nil =>
    have left : tokens? ⟨.word seen, found⟩ [] =
        (Token.ofWord? seen.reverse).map fun t => (t :: found).reverse := rfl
    rw [left]
    cases Token.ofWord? seen.reverse <;> rfl
  | cons c rest =>
    have ended : next ⟨.word seen, found⟩ c =
        (Token.ofWord? seen.reverse).bind fun t => outside (t :: found) c := by
      rw [next_word, if_neg (by simp [ends c rfl])]
    rw [tokens?_cons, ended, Option.bind_assoc]
    refine Option.bind_congr fun token _ => ?_
    rw [tokens?_cons]
    rfl

private theorem outside_of_isWordChar (inside : isWordChar c = true) :
    outside found c = some ⟨.word [c], found⟩ := by
  have apart : ∀ d : Char, isWordChar d = false → c ≠ d := by
    rintro d out rfl
    rw [inside] at out
    cases out
  have spaceless : isSpace c = false := by
    simp [isSpace, apart ' ' (by decide), apart '\n' (by decide), apart '\t' (by decide),
      apart '\r' (by decide)]
  have markless : Token.ofMark? c = none := by
    simp [Token.ofMark?, apart '[' (by decide), apart ']' (by decide), apart '\x7b' (by decide),
      apart '\x7d' (by decide), apart ',' (by decide), apart ':' (by decide)]
  rw [outside, spaceless, markless, if_neg (apart '"' (by decide)), if_pos inside]
  rfl

theorem tokens?_bareWord {word : List Char} (filled : word ≠ [])
    (inside : ∀ c ∈ word, isWordChar c = true) (ends : Ends rest) :
    tokens? ⟨.between, found⟩ (word ++ rest) =
      (Token.ofWord? word).bind fun token => tokens? ⟨.between, token :: found⟩ rest := by
  obtain ⟨c, word, rfl⟩ := List.exists_cons_of_ne_nil filled
  obtain ⟨here, later⟩ := List.forall_mem_cons.1 inside
  have first : next ⟨.between, found⟩ c = some ⟨.word [c], found⟩ := outside_of_isWordChar here
  rw [List.cons_append, tokens?_cons, first, Option.bind_some, tokens?_wordChars later,
    tokens?_word_end ends, List.reverse_append, List.reverse_reverse]
  rfl

private theorem tokens?_word (word : List Char) {token : Token}
    (inside : ∀ c ∈ word, isWordChar c = true)
    (spelled : Token.ofWord? word = some token) (ends : Ends rest) :
    tokens? ⟨.between, found⟩ (word ++ rest) = tokens? ⟨.between, token :: found⟩ rest := by
  have filled : word ≠ [] := by
    rintro rfl
    cases spelled
  rw [tokens?_bareWord filled inside ends, spelled, Option.bind_some]

theorem tokens?_mark (mark : Token) (spelled : outside found c = some ⟨.between, mark :: found⟩) :
    tokens? ⟨.between, found⟩ (c :: rest) = tokens? ⟨.between, mark :: found⟩ rest := by
  have read : next ⟨.between, found⟩ c = some ⟨.between, mark :: found⟩ := spelled
  rw [tokens?_cons, read, Option.bind_some]

private theorem tokens?_lineBreak (level : Nat) :
    tokens? ⟨.between, found⟩ (lineBreak level ++ rest) = tokens? ⟨.between, found⟩ rest := by
  have blanks (count : Nat) : tokens? ⟨.between, found⟩ (List.replicate count ' ' ++ rest) =
      tokens? ⟨.between, found⟩ rest := by
    induction count with
    | zero => rfl
    | succ count ih => exact ih
  exact blanks (2 * level)

/-! Numbers. -/

theorem isWordChar_of_isDigit (digit : c.isDigit = true) : isWordChar c = true := by
  simp [isWordChar, Char.isAlphanum, digit]

private theorem isWordChar_of_mem_text {l : NumberLiteral} (sound : l.Sound) (member : c ∈ l.text) :
    isWordChar c = true := by
  have run {digits : List Char} (run : NumberLiteral.IsRun digits) :
      ∀ d ∈ digits, isWordChar d = true :=
    fun d inside => isWordChar_of_isDigit (run.digits d inside)
  have fraction : ∀ d ∈ NumberLiteral.fractionText l.fraction, isWordChar d = true := by
    cases parts : l.fraction with
    | none => simp [NumberLiteral.fractionText]
    | some digits => exact List.forall_mem_cons.2 ⟨by decide, run (sound.fraction _ parts)⟩
  have exponent : ∀ d ∈ NumberLiteral.exponentText l.exponent, isWordChar d = true := by
    cases parts : l.exponent with
    | none => simp [NumberLiteral.exponentText]
    | some part =>
      have sign : isWordChar (if part.1 then '-' else '+') = true := by
        cases part.1 <;> decide
      exact List.forall_mem_cons.2 ⟨by decide,
        List.forall_mem_cons.2 ⟨sign, run (sound.exponent _ parts)⟩⟩
  have magnitude : ∀ d ∈ l.magnitudeText, isWordChar d = true :=
    List.forall_mem_append.2 ⟨run sound.whole, List.forall_mem_append.2 ⟨fraction, exponent⟩⟩
  unfold NumberLiteral.text at member
  split at member
  · exact List.forall_mem_cons.2 ⟨by decide, magnitude⟩ c member
  · exact magnitude c member

theorem ofWord?_literal {word : List Char} (literal : (NumberLiteral.ofChars? word).isSome = true) :
    Token.ofWord? word = (Number.ofChars? word).map .number := by
  have other : ∀ name : List Char, NumberLiteral.ofChars? name = none → word ≠ name := by
    rintro name out rfl
    rw [out] at literal
    cases literal
  rw [Token.ofWord?, if_neg (other _ (by decide)), if_neg (other _ (by decide)),
    if_neg (other _ (by decide))]

private theorem tokens?_number {n : Number} (legible : (Number.ofChars? n.chars).isSome = true)
    (ends : Ends rest) : tokens? ⟨.between, found⟩ (n.chars ++ rest) =
      tokens? ⟨.between, .number n.reread :: found⟩ rest := by
  obtain ⟨read, same⟩ := Option.isSome_iff_exists.1 legible
  have literal : (NumberLiteral.ofChars? n.chars).isSome = true :=
    Option.isSome_of_isSome_bind legible
  have spelled : Token.ofWord? n.chars = some (.number n.reread) := by
    rw [ofWord?_literal literal, Number.reread, same]
    rfl
  refine tokens?_word n.chars (fun c member => ?_) spelled ends
  rw [← Number.text_literal] at member
  exact isWordChar_of_mem_text (Number.sound_literal n) member

/-! Values. -/

private theorem ends_items {level : Nat} (items : List Json) (ends : Ends rest) :
    Ends (indentedItems level items ++ rest) := by
  cases items with
  | nil => exact ends
  | cons v items =>
    rintro c ⟨⟩
    decide

private theorem ends_members {level : Nat} (members : Members) (ends : Ends rest) :
    Ends (indentedMembers level members ++ rest) := by
  cases members with
  | nil => exact ends
  | cons p members =>
    rintro c ⟨⟩
    decide

private theorem ends_lineBreak (level : Nat) : Ends (lineBreak level ++ rest) := by
  rintro c ⟨⟩
  decide

private theorem tokens?_key (key : String) :
    tokens? ⟨.between, found⟩ (quoted key ++ ':' :: ' ' :: rest) =
      tokens? ⟨.between, .colon :: .string key :: found⟩ rest :=
  tokens?_quoted key

private theorem noted_append (found first second : List Token) :
    noted found (first ++ second) = noted (noted found first) second :=
  List.foldl_append

private theorem noted_cons (found : List Token) (t : Token) (rest : List Token) :
    noted found (t :: rest) = noted (t.reread :: found) rest := rfl

mutual

theorem tokens?_indented (level : Nat) : (v : Json) → v.Legible → ∀ (found : List Token)
    (rest : List Char), Ends rest →
    tokens? ⟨.between, found⟩ (indented level v ++ rest) =
      tokens? ⟨.between, noted found v.tokens⟩ rest
  | .null, _, found, rest, ends =>
    tokens?_word (Token.spelling .null) (List.all_eq_true.1 rfl) rfl ends
  | .bool true, _, found, rest, ends =>
    tokens?_word (Token.spelling (.bool true)) (List.all_eq_true.1 rfl) rfl ends
  | .bool false, _, found, rest, ends =>
    tokens?_word (Token.spelling (.bool false)) (List.all_eq_true.1 rfl) rfl ends
  | .number n, legible, found, rest, ends => tokens?_number (legible_number_iff.1 legible) ends
  | .string s, _, found, rest, _ => tokens?_quoted s
  | .array [], _, found, rest, _ => rfl
  | .array (v :: items), legible, found, rest, _ => by
    obtain ⟨first, others⟩ := List.forall_mem_cons.1 (legible_array_iff.1 legible)
    have text : indented level (.array (v :: items)) ++ rest =
        '[' :: (lineBreak (level + 1) ++ (indented (level + 1) v ++
          (indentedItems (level + 1) items ++ (lineBreak level ++ ']' :: rest)))) := by
      simp [indented]
    rw [text, tokens?_mark .openArray rfl, tokens?_lineBreak,
      tokens?_indented (level + 1) v first _ _ (ends_items items (ends_lineBreak level)),
      tokens?_indentedItems (level + 1) items others _ _ (ends_lineBreak level),
      tokens?_lineBreak, tokens?_mark .closeArray rfl]
    rw [tokens, itemTokens_cons, List.cons_append, noted_cons, noted_append, noted_append]
    rfl
  | .object [], _, found, rest, _ => rfl
  | .object ((key, v) :: members), legible, found, rest, _ => by
    obtain ⟨first, others⟩ := List.forall_mem_cons.1 (legible_object_iff.1 legible)
    have text : indented level (.object ((key, v) :: members)) ++ rest =
        '\x7b' :: (lineBreak (level + 1) ++ (quoted key ++ ':' :: ' ' :: (indented (level + 1) v ++
          (indentedMembers (level + 1) members ++ (lineBreak level ++ '\x7d' :: rest))))) := by
      simp [indented]
    rw [text, tokens?_mark .openObject rfl, tokens?_lineBreak, tokens?_key,
      tokens?_indented (level + 1) v first _ _ (ends_members members (ends_lineBreak level)),
      tokens?_indentedMembers (level + 1) members others _ _ (ends_lineBreak level),
      tokens?_lineBreak, tokens?_mark .closeObject rfl]
    rw [tokens, memberTokens_cons, List.cons_append, noted_cons, noted_append, noted_append]
    rfl

private theorem tokens?_indentedItems (level : Nat) :
    (items : List Json) → (∀ v ∈ items, v.Legible) →
    ∀ (found : List Token) (rest : List Char), Ends rest →
    tokens? ⟨.between, found⟩ (indentedItems level items ++ rest) =
      tokens? ⟨.between, noted found (items.flatMap fun v => .comma :: v.tokens)⟩ rest
  | [], _, found, rest, _ => rfl
  | v :: items, legible, found, rest, ends => by
    obtain ⟨first, others⟩ := List.forall_mem_cons.1 legible
    have text : indentedItems level (v :: items) ++ rest =
        ',' :: (lineBreak level ++ (indented level v ++ (indentedItems level items ++ rest))) := by
      simp [indentedItems]
    rw [text, tokens?_mark .comma rfl, tokens?_lineBreak,
      tokens?_indented level v first _ _ (ends_items items ends),
      tokens?_indentedItems level items others _ _ ends, List.flatMap_cons, List.cons_append,
      noted_cons, noted_append]
    rfl

private theorem tokens?_indentedMembers (level : Nat) : (members : Members) →
    (∀ p ∈ members, p.2.Legible) → ∀ (found : List Token) (rest : List Char), Ends rest →
    tokens? ⟨.between, found⟩ (indentedMembers level members ++ rest) =
      tokens? ⟨.between, noted found
        (members.flatMap fun p => .comma :: .string p.1 :: .colon :: p.2.tokens)⟩ rest
  | [], _, found, rest, _ => rfl
  | (key, v) :: members, legible, found, rest, ends => by
    obtain ⟨first, others⟩ := List.forall_mem_cons.1 legible
    have text : indentedMembers level ((key, v) :: members) ++ rest =
        ',' :: (lineBreak level ++ (quoted key ++ ':' :: ' ' :: (indented level v ++
          (indentedMembers level members ++ rest)))) := by
      simp [indentedMembers]
    rw [text, tokens?_mark .comma rfl, tokens?_lineBreak, tokens?_key,
      tokens?_indented level v first _ _ (ends_members members ends),
      tokens?_indentedMembers level members others _ _ ends, List.flatMap_cons, List.cons_append,
      List.cons_append, List.cons_append, noted_cons, noted_cons, noted_cons, noted_append]
    rfl

end

end Scan

end Json

end PanelProbe
