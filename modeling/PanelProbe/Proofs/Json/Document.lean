import PanelProbe.Proofs.Json.Address
import PanelProbe.Proofs.Json.Reading
import PanelProbe.Proofs.Percent
import PanelProbe.Proofs.Text.Cut

/-!
The texts of JSON. A document keeps what reading loses: each number as its literal is written, and
all members of an object in their order. Its text is read as its value, unless a number overflows or
containers nest too deep.
-/

set_option autoImplicit false

namespace PanelProbe.Json

structure Numeral where
  text : List Char
  literal : (NumberLiteral.ofChars? text).isSome = true

/-- What is written in a text, apart from its white space and the spelling of its strings. -/
inductive Document
  | null
  | bool (value : Bool)
  | number (numeral : Numeral)
  | string (value : String)
  | array (items : List Document)
  | object (members : List (String × Document))

inductive Lexeme
  | word (text : List Char)
  | string (value : String)
  | mark (c : Char)

def Lexeme.token? : Lexeme → Option Token
  | .word text => Token.ofWord? text
  | .string value => some (.string value)
  | .mark c => Token.ofMark? c

/-- The texts made of some pieces: white space stands anywhere around them, strings are spelled in
any way, and a word ends where no word could go on. -/
inductive Written : List Lexeme → List Char → Prop
  | done : Written [] []
  | space {c : Char} {pieces : List Lexeme} {text : List Char} (space : isSpace c = true)
      (later : Written pieces text) : Written pieces (c :: text)
  | word {word : List Char} {pieces : List Lexeme} {text : List Char} (filled : word ≠ [])
      (inside : ∀ c ∈ word, isWordChar c = true) (ends : Scan.Ends text)
      (later : Written pieces text) : Written (.word word :: pieces) (word ++ text)
  | string {value spelling : List Char} {pieces : List Lexeme} {text : List Char}
      (spelled : Scan.Spelled value spelling) (later : Written pieces text) :
      Written (.string (String.ofList value) :: pieces) ('"' :: (spelling ++ '"' :: text))
  | mark {c : Char} {token : Token} {pieces : List Lexeme} {text : List Char}
      (known : Token.ofMark? c = some token) (later : Written pieces text) :
      Written (.mark c :: pieces) (c :: text)

namespace Document

mutual

def lexemes : Document → List Lexeme
  | .null => [.word (Token.spelling .null)]
  | .bool b => [.word (Token.spelling (.bool b))]
  | .number n => [.word n.text]
  | .string s => [.string s]
  | .array items => .mark '[' :: itemLexemes items ++ [.mark ']']
  | .object members => .mark '\x7b' :: memberLexemes members ++ [.mark '\x7d']

def itemLexemes : List Document → List Lexeme
  | [] => []
  | [d] => lexemes d
  | d :: rest => lexemes d ++ .mark ',' :: itemLexemes rest

def memberLexemes : List (String × Document) → List Lexeme
  | [] => []
  | [(key, d)] => .string key :: .mark ':' :: lexemes d
  | (key, d) :: rest => .string key :: .mark ':' :: lexemes d ++ .mark ',' :: memberLexemes rest

end

def WrittenAs (d : Document) (text : List Char) : Prop := Written d.lexemes text

mutual

def raw? : Document → Option Json
  | .null => some .null
  | .bool b => some (.bool b)
  | .number n => (Number.ofChars? n.text).map .number
  | .string s => some (.string s)
  | .array items => (rawItems? items).map .array
  | .object members => (rawMembers? members).map .object

def rawItems? : List Document → Option (List Json)
  | [] => some []
  | d :: rest => (raw? d).bind fun v => (rawItems? rest).map (v :: ·)

def rawMembers? : List (String × Document) → Option (List (String × Json))
  | [] => some []
  | (key, d) :: rest => (raw? d).bind fun v => (rawMembers? rest).map ((key, v) :: ·)

end

/-- The value of a document, when no number overflows: members are sorted, the last of equal keys
kept. -/
def value? (d : Document) : Option Json := d.raw?.map (readAs id)

/-- The document can be read: no number overflows, and its containers do not nest too deep. -/
def Readable (d : Document) : Prop := ∃ v, d.raw? = some v ∧ v.depth ≤ Build.depthLimit

/-! From the text to the value. -/

private theorem outside_mark {c : Char} {token : Token} (known : Token.ofMark? c = some token)
    (found : List Token) : Scan.outside found c = some ⟨.between, token :: found⟩ := by
  have spaceless : isSpace c = false := by
    rw [← Bool.not_eq_true]
    intro space
    simp only [isSpace, Bool.or_eq_true, beq_iff_eq, or_assoc] at space
    rcases space with rfl | rfl | rfl | rfl <;> cases known
  rw [Scan.outside, spaceless, known]
  rfl

private theorem map_mapM_cons (piece : Lexeme) (pieces : List Lexeme) (found : List Token) :
    ((piece :: pieces).mapM Lexeme.token?).map (found.reverse ++ ·) =
      piece.token?.bind fun t =>
        (pieces.mapM Lexeme.token?).map ((t :: found).reverse ++ ·) := by
  rw [List.mapM_cons]
  cases piece.token? with
  | none => rfl
  | some t => cases pieces.mapM Lexeme.token? <;> simp

private theorem tokens?_written {pieces : List Lexeme} {text : List Char}
    (written : Written pieces text) (found : List Token) : Scan.tokens? ⟨.between, found⟩ text =
      (pieces.mapM Lexeme.token?).map (found.reverse ++ ·) := by
  -- Wherever a piece begins the scanner stands between tokens, so each piece is read by itself.
  induction written generalizing found with
  | done => simp [Scan.tokens?, Scan.run, Scan.finish]
  | space space later ih =>
    have skipped : Scan.next ⟨.between, found⟩ _ = some ⟨.between, found⟩ := if_pos space
    rw [Scan.tokens?_cons, skipped, Option.bind_some, ih]
  | word filled inside ends later ih =>
    rw [Scan.tokens?_bareWord filled inside ends, map_mapM_cons]
    exact Option.bind_congr fun token _ => ih (token :: found)
  | string spelled later ih =>
    rw [Scan.tokens?_string spelled, map_mapM_cons, ih]
    rfl
  | mark known later ih =>
    rw [Scan.tokens?_mark _ (outside_mark known found), map_mapM_cons, Lexeme.token?, known, ih]
    rfl

private theorem rawItems?_cons (d : Document) (rest : List Document) :
    rawItems? (d :: rest) = d.raw?.bind fun v => (rawItems? rest).map (v :: ·) := rfl

private theorem rawMembers?_cons (key : String) (d : Document) (rest : List (String × Document)) :
    rawMembers? ((key, d) :: rest) =
      d.raw?.bind fun v => (rawMembers? rest).map ((key, v) :: ·) := rfl

private theorem exists_cons_of_rawItems? {d : Document} {rest : List Document} {items : List Json}
    (h : rawItems? (d :: rest) = some items) : ∃ v vs, items = v :: vs := by
  rw [rawItems?_cons] at h
  obtain ⟨v, -, h⟩ := Option.bind_eq_some_iff.1 h
  obtain ⟨vs, -, rfl⟩ := Option.map_eq_some_iff.1 h
  exact ⟨v, vs, rfl⟩

private theorem exists_cons_of_rawMembers? {p : String × Document} {rest : List (String × Document)}
    {members : Members} (h : rawMembers? (p :: rest) = some members) :
    ∃ v vs, members = v :: vs := by
  rw [rawMembers?_cons] at h
  obtain ⟨v, -, h⟩ := Option.bind_eq_some_iff.1 h
  obtain ⟨vs, -, rfl⟩ := Option.map_eq_some_iff.1 h
  exact ⟨(p.1, v), vs, rfl⟩

mutual

private theorem mapM_lexemes : (d : Document) → d.lexemes.mapM Lexeme.token? = d.raw?.map tokens
  | .null => rfl
  | .bool true => rfl
  | .bool false => rfl
  | .number n => by
    rw [lexemes, raw?, List.mapM_cons, Lexeme.token?, Scan.ofWord?_literal n.literal]
    cases Number.ofChars? n.text <;> rfl
  | .string s => rfl
  | .array items => by
    rw [lexemes, raw?, List.cons_append, List.mapM_cons, List.mapM_append, mapM_itemLexemes items]
    cases rawItems? items <;> rfl
  | .object members => by
    rw [lexemes, raw?, List.cons_append, List.mapM_cons, List.mapM_append,
      mapM_memberLexemes members]
    cases rawMembers? members <;> rfl

private theorem mapM_itemLexemes : (items : List Document) →
    (itemLexemes items).mapM Lexeme.token? = (rawItems? items).map itemTokens
  | [] => rfl
  | [d] => by
    rw [itemLexemes, mapM_lexemes d, rawItems?]
    cases d.raw? <;> rfl
  | d :: e :: rest => by
    have pieces : itemLexemes (d :: e :: rest) =
        d.lexemes ++ .mark ',' :: itemLexemes (e :: rest) := rfl
    rw [pieces, List.mapM_append, List.mapM_cons, mapM_lexemes d, mapM_itemLexemes (e :: rest),
      rawItems?_cons d]
    cases d.raw? with
    | none => rfl
    | some v =>
      cases others : rawItems? (e :: rest) with
      | none => rfl
      | some ws =>
        obtain ⟨w, ws, rfl⟩ := exists_cons_of_rawItems? others
        rfl

private theorem mapM_memberLexemes : (members : List (String × Document)) →
    (memberLexemes members).mapM Lexeme.token? = (rawMembers? members).map memberTokens
  | [] => rfl
  | [(key, d)] => by
    rw [memberLexemes, List.mapM_cons, List.mapM_cons, mapM_lexemes d, rawMembers?]
    cases d.raw? <;> rfl
  | (key, d) :: p :: rest => by
    have pieces : memberLexemes ((key, d) :: p :: rest) =
        .string key :: .mark ':' :: (d.lexemes ++ .mark ',' :: memberLexemes (p :: rest)) := rfl
    rw [pieces, List.mapM_cons, List.mapM_cons, List.mapM_append, List.mapM_cons, mapM_lexemes d,
      mapM_memberLexemes (p :: rest), rawMembers?_cons key]
    cases d.raw? with
    | none => rfl
    | some v =>
      cases others : rawMembers? (p :: rest) with
      | none => rfl
      | some ws =>
        obtain ⟨w, ws, rfl⟩ := exists_cons_of_rawMembers? others
        rfl

end

theorem parse?_of_writtenAs {d : Document} {text : String} (written : d.WrittenAs text.toList) :
    parse? text = d.raw?.bind fun v => Build.within v.depth (some (v.readAs id)) := by
  have scanned : tokens? text.toList = d.raw?.map tokens := by
    have read := tokens?_written written []
    rw [mapM_lexemes, List.reverse_nil, Option.map_map] at read
    exact read
  rw [parse?, scanned, Option.bind_map]
  refine Option.bind_congr fun v _ => ?_
  have built := ofTokens?_tokens id v
  rwa [Token.map_mapNumber_id] at built

private theorem isBlank_of_isWordChar {c : Char} (inside : isWordChar c = true) :
    Text.isBlank c = false := by
  have ascii : c.toNat < 0x80 := by
    simp only [isWordChar, Bool.or_eq_true, beq_iff_eq, or_assoc] at inside
    rcases inside with letter | rfl | rfl | rfl
    · exact Percent.toNat_of_isAlphanum letter
    all_goals decide
  have table : ∀ n : Fin 0x80, isWordChar (Char.ofNat n) = true →
      Text.isBlank (Char.ofNat n) = false := by decide
  have visible := table ⟨c.toNat, ascii⟩
  rw [Char.ofNat_toNat] at visible
  exact visible inside

private theorem isBlank_of_ofMark? {c : Char} {token : Token}
    (known : Token.ofMark? c = some token) :
    Text.isBlank c = false := by
  unfold Token.ofMark? at known
  split_ifs at known <;> subst c <;> decide

private theorem exists_not_blank {pieces : List Lexeme} {text : List Char}
    (written : Written pieces text)
    (filled : pieces ≠ []) : ∃ c ∈ text, Text.isBlank c = false := by
  induction written with
  | done => exact absurd rfl filled
  | space space later ih =>
    obtain ⟨c, member, visible⟩ := ih filled
    exact ⟨c, List.mem_cons_of_mem _ member, visible⟩
  | word nonempty inside ends later ih =>
    obtain ⟨c, word, rfl⟩ := List.exists_cons_of_ne_nil nonempty
    exact ⟨c, List.mem_cons_self, isBlank_of_isWordChar (inside c List.mem_cons_self)⟩
  | string spelled later ih => exact ⟨'"', List.mem_cons_self, by decide⟩
  | mark known later ih => exact ⟨_, List.mem_cons_self, isBlank_of_ofMark? known⟩

private theorem lexemes_ne_nil (d : Document) : d.lexemes ≠ [] := by
  cases d <;> exact List.cons_ne_nil _ _

theorem isEmpty_trim {d : Document} {text : List Char} (written : d.WrittenAs text) :
    (Text.trim text).isEmpty = false := by
  obtain ⟨c, member, visible⟩ := exists_not_blank written d.lexemes_ne_nil
  have some_visible : (Text.trim text).all Text.isBlank = false := by
    rw [Text.all_trim, List.all_eq_false]
    exact ⟨c, member, by simp [visible]⟩
  rw [List.isEmpty_eq_false_iff]
  intro empty
  rw [empty] at some_visible
  cases some_visible

/-! What stands at an address. -/

def child? (d : Document) (segment : List Char) : Option Document :=
  match d with
  | .object members => members.reverse.lookup (String.ofList segment)
  | .array items => (Text.word? segment).bind fun i => items[i]?
  | _ => none

def at? (d : Document) (address : String) : Option Document :=
  (segments address).foldlM child? d

private theorem map_value?_items {items : List Document} {values : List Json}
    (read : rawItems? items = some values) :
    items.map value? = (values.map (readAs id)).map some := by
  induction items generalizing values with
  | nil =>
    cases read
    rfl
  | cons d rest ih =>
    rw [rawItems?_cons] at read
    obtain ⟨v, first, read⟩ := Option.bind_eq_some_iff.1 read
    obtain ⟨vs, others, rfl⟩ := Option.map_eq_some_iff.1 read
    rw [List.map_cons, ih others, value?, first]
    rfl

private theorem map_value?_members {members : List (String × Document)} {values : Members}
    (read : rawMembers? members = some values) :
    (members.map fun p => (p.1, p.2.value?)) =
      (values.map fun p => (p.1, readAs id p.2)).map fun p => (p.1, some p.2) := by
  induction members generalizing values with
  | nil =>
    cases read
    rfl
  | cons p rest ih =>
    obtain ⟨key, d⟩ := p
    rw [rawMembers?_cons] at read
    obtain ⟨v, first, read⟩ := Option.bind_eq_some_iff.1 read
    obtain ⟨vs, others, rfl⟩ := Option.map_eq_some_iff.1 read
    rw [List.map_cons, ih others, value?, first]
    rfl

private theorem map_value?_child? {d : Document} {v : Json} (read : d.value? = some v)
    (segment : List Char) : (d.child? segment).map value? = (v.child? segment).map some := by
  obtain ⟨raw, found, rfl⟩ := Option.map_eq_some_iff.1 read
  cases d with
  | null | bool | string =>
    cases found
    rfl
  | number n =>
    obtain ⟨k, -, rfl⟩ := Option.map_eq_some_iff.1 found
    rfl
  | array items =>
    obtain ⟨values, inner, rfl⟩ := Option.map_eq_some_iff.1 found
    rw [readAs, readItemsAs_eq_map, child?, Json.child?]
    cases Text.word? segment with
    | none => rfl
    | some i =>
      rw [Option.bind_some, Option.bind_some, ← List.getElem?_map, ← List.getElem?_map,
        map_value?_items inner]
  | object members =>
    obtain ⟨values, inner, rfl⟩ := Option.map_eq_some_iff.1 found
    rw [readAs, readMembersAs_eq_map, child?, ofMembers, Json.child?, Members.lookup_ofList,
      ← lookup_map_snd, ← lookup_map_snd, List.map_reverse, List.map_reverse,
      map_value?_members inner]

theorem map_value?_at? {d : Document} {v : Json} (read : d.value? = some v) (address : String) :
    (d.at? address).map value? = (v.at? address).map some := by
  have down : ∀ (path : List (List Char)) {d : Document} {v : Json}, d.value? = some v →
      (path.foldlM child? d).map value? = (path.foldlM Json.child? v).map some := by
    -- The parts of a document that can be read can be read: the induction goes on with them.
    intro path
    induction path with
    | nil => exact fun read => congrArg some read
    | cons segment rest ih =>
      intro d v read
      have step := map_value?_child? read segment
      rw [List.foldlM_cons, List.foldlM_cons]
      cases below : v.child? segment with
      | none =>
        rw [below, Option.map_none, Option.map_eq_none_iff] at step
        rw [step]
        rfl
      | some w =>
        rw [below] at step
        obtain ⟨e, inside, value⟩ := Option.map_eq_some_iff.1 step
        rw [inside]
        exact ih value
  exact down (segments address) read

end Document

end PanelProbe.Json
