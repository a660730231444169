import PanelProbe.Proofs.Percent
import PanelProbe.Proofs.Session.Kind
import PanelProbe.Proofs.Session.Rendering
import PanelProbe.Text.Cut

/-!
Templates in pieces: texts without braces, and placeholders. Substitution goes through the kinds one
after the other, and still fills each placeholder by itself, as long as the values put in form no
placeholder that is looked for later.
-/

set_option autoImplicit false

namespace PanelProbe

def Braceless (text : List Char) : Prop :=
  '\x7b' ∉ text ∧ '\x7d' ∉ text

instance (text : List Char) : Decidable (Braceless text) :=
  inferInstanceAs (Decidable (_ ∧ _))

inductive Piece
  | plain (text : List Char)
  | mention (kind : ResourceKind)

namespace Piece

def text : Piece → List Char
  | .plain text => text
  | .mention kind => kind.placeholder.toList

def Sound : Piece → Prop
  | .plain text => Braceless text
  | .mention _ => True

instance : (piece : Piece) → Decidable piece.Sound
  | .plain text => inferInstanceAs (Decidable (Braceless text))
  | .mention _ => inferInstanceAs (Decidable True)

/-- The piece with a value in place of the mention of a kind. -/
def fill (kind : ResourceKind) (value : List Char) : Piece → Piece
  | .plain text => .plain text
  | .mention other => if other = kind then .plain value else .mention other

def written (pieces : List Piece) : List Char :=
  pieces.flatMap text

end Piece

/-- The template is made of placeholders and texts without braces. -/
def IsTemplate (template : String) : Prop :=
  ∃ pieces : List Piece, (∀ piece ∈ pieces, piece.Sound) ∧
    template.toList = Piece.written pieces

def Piece.ofPart (part : List Char) : List Piece :=
  let (name, rest) := Text.cut '\x7d' part
  let kind := ResourceKind.all.find? fun kind =>
    kind.placeholder.toList == '\x7b' :: name ++ ['\x7d']
  match kind, rest with
  | some kind, some rest => [.mention kind, .plain rest]
  | _, _ => [.plain ('\x7b' :: part)]

def Piece.ofText (text : List Char) : List Piece :=
  match text.splitOn '\x7b' with
  | [] => []
  | front :: parts => .plain front :: parts.flatMap ofPart

/-! Replacing. -/

theorem ResourceKind.exists_name (kind : ResourceKind) :
    ∃ name, kind.placeholder.toList = '\x7b' :: (name ++ ['\x7d']) ∧ Braceless name := by
  cases kind
  · exact ⟨"user_id".toList, by decide⟩
  · exact ⟨"node_id".toList, by decide⟩
  · exact ⟨"plan_id".toList, by decide⟩

namespace Piece

variable {pieces : List Piece} {kind : ResourceKind}

private theorem placeholder_not_prefix {other : ResourceKind} (apart : other ≠ kind)
    (rest : List Char) :
    kind.placeholder.toList.isPrefixOf (other.placeholder.toList ++ rest) = false := by
  cases kind <;> cases other <;> first | exact absurd rfl apart | rfl

private theorem replace_mention_append {other : ResourceKind} (apart : other ≠ kind)
    (value rest : List Char) :
    Text.replace kind.placeholder.toList value (other.placeholder.toList ++ rest) =
      other.placeholder.toList ++ Text.replace kind.placeholder.toList value rest := by
  have here := placeholder_not_prefix apart rest
  obtain ⟨pattern, opened⟩ := kind.placeholder_toList
  obtain ⟨name, written, plain⟩ : ∃ name, other.placeholder.toList = '\x7b' :: name ∧
      '\x7b' ∉ name := by
    cases other <;> exact ⟨_, rfl, by decide⟩
  have behind := Text.replace_append plain pattern value rest
  rw [opened, written] at here ⊢
  unfold Text.replace at behind ⊢
  rw [List.cons_append, Text.replaceFrom, ← List.cons_append, here, behind]
  rfl

/-- A piece of a template, or a value that was put into one. -/
def Among (values : List (List Char)) : Piece → Prop
  | .plain text => Braceless text ∨ text ∈ values
  | .mention _ => True

variable {values : List (List Char)}

theorem written_cons (piece : Piece) (rest : List Piece) :
    written (piece :: rest) = piece.text ++ written rest := List.flatMap_cons

private theorem exists_back (among : ∀ piece ∈ pieces, piece.Among values) {text : List Char}
    (closed : text.getLast? = some '\x7d') (unopened : '\x7b' ∉ text)
    (starts : text <+: written pieces) :
    ∃ middle back, text = middle ++ back ∧ back ≠ [] ∧ ∃ value ∈ values, back <+: value := by
  induction pieces generalizing text with
  | nil =>
    obtain rfl := List.prefix_nil.1 starts
    cases closed
  | cons piece rest ih =>
    obtain ⟨here, later⟩ := List.forall_mem_cons.1 among
    rw [written_cons] at starts
    cases piece with
    | mention kind =>
      obtain ⟨name, placeholder⟩ := kind.placeholder_toList
      obtain ⟨front, rfl⟩ := List.getLast?_eq_some_iff.1 closed
      rw [Piece.text, placeholder] at starts
      cases front with
      | nil => exact absurd (List.cons_prefix_cons.1 starts).1 (by decide)
      | cons c more =>
        exact absurd (List.mem_cons.2 (.inl (List.cons_prefix_cons.1 starts).1.symm)) unopened
    | plain part =>
      have brace : '\x7d' ∈ text := List.mem_of_getLast? closed
      by_cases inside : text <+: part
      · obtain braceless | member := here
        · exact absurd (inside.subset brace) braceless.2
        · exact ⟨[], text, rfl, List.ne_nil_of_mem brace, part, member, inside⟩
      · obtain ⟨left, rfl⟩ :=
          (List.prefix_or_prefix_of_prefix starts (List.prefix_append part _)).resolve_left inside
        have nonempty : left ≠ [] := by
          rintro rfl
          exact inside (by rw [List.append_nil])
        obtain ⟨middle, back, rfl, found⟩ := ih later
          (by rwa [List.getLast?_append_of_ne_nil _ nonempty] at closed)
          (fun member => unopened (List.mem_append_right _ member))
          ((List.prefix_append_right_inj part).1 starts)
        exact ⟨part ++ middle, back, (List.append_assoc ..).symm, found⟩

private theorem not_prefix_of_clear (among : ∀ piece ∈ pieces, piece.Among values)
    (clear : ¬Text.Forms values kind.placeholder.toList) {part tail : List Char}
    (here : Braceless part ∨ part ∈ values) (nonempty : tail ≠ []) (ends : tail <:+ part) :
    ¬kind.placeholder.toList <+: tail ++ written pieces := by
  intro starts
  obtain ⟨name, whole, braceless⟩ := kind.exists_name
  obtain ⟨c, more, rfl⟩ := List.exists_cons_of_ne_nil nonempty
  obtain rfl : '\x7b' = c := by
    rw [whole] at starts
    exact (List.cons_prefix_cons.1 starts).1
  have member : part ∈ values :=
    here.resolve_left fun braceless => braceless.1 (ends.subset List.mem_cons_self)
  by_cases inside : kind.placeholder.toList <+: '\x7b' :: more
  · exact clear (.inl ⟨part, member, inside.isInfix.trans ends.isInfix⟩)
  · obtain ⟨left, split⟩ := (List.prefix_or_prefix_of_prefix starts
      (List.prefix_append _ (written pieces))).resolve_left inside
    have rest : more ++ left = name ++ ['\x7d'] := by
      rw [whole] at split
      exact List.cons.inj split |>.2
    have nonempty : left ≠ [] := by
      rintro rfl
      exact inside (by rw [← split, List.append_nil])
    have closed : left.getLast? = some '\x7d' := by
      rw [← List.getLast?_append_of_ne_nil more nonempty, rest, List.getLast?_concat]
    have unopened : '\x7b' ∉ left := by
      intro brace
      have within : '\x7b' ∈ name ++ ['\x7d'] := rest ▸ List.mem_append_right _ brace
      obtain inName | last := List.mem_append.1 within
      · exact braceless.1 inName
      · exact absurd (List.mem_singleton.1 last) (by decide)
    rw [← split] at starts
    obtain ⟨middle, back, rfl, found, value⟩ := exists_back among closed unopened
      ((List.prefix_append_right_inj _).1 starts)
    rw [← List.append_assoc] at split
    exact clear (.inr ⟨_, middle, back, split.symm, List.cons_ne_nil _ _, found,
      ⟨part, member, ends⟩, value⟩)

private theorem replace_written (among : ∀ piece ∈ pieces, piece.Among values)
    (clear : ¬Text.Forms values kind.placeholder.toList) (value : List Char) :
    Text.replace kind.placeholder.toList value (written pieces) =
      written (pieces.map (fill kind value)) := by
  induction pieces with
  | nil => rfl
  | cons piece rest ih =>
    obtain ⟨here, later⟩ := List.forall_mem_cons.1 among
    rw [List.map_cons, written_cons, written_cons, ← ih later]
    cases piece with
    | plain text =>
      exact Text.replace_append_of_clear
        (fun tail nonempty ends => not_prefix_of_clear later clear here nonempty ends) value
    | mention other =>
      by_cases same : other = kind
      · subst same
        obtain ⟨pattern, opened⟩ := other.placeholder_toList
        rw [Piece.text, fill, if_pos rfl, opened]
        exact Text.replace_pattern_append '\x7b' pattern value _
      · rw [fill, if_neg same]
        exact replace_mention_append same value _

private theorem written_fill_self (pieces : List Piece) (kind : ResourceKind) :
    written (pieces.map (fill kind kind.placeholder.toList)) = written pieces := by
  rw [written, List.flatMap_map]
  refine List.flatMap_congr fun piece _ => ?_
  cases piece with
  | plain text => rfl
  | mention other =>
    rw [fill]
    split
    · rename_i same
      rw [same]
      rfl
    · rfl

end Piece

/-! Substituting. -/

namespace Session

variable (s : Session) (value : ResourceId → String)

def fillHeld (piece : Piece) (kind : ResourceKind) : Piece :=
  match s.id? kind with
  | some id => piece.fill kind (value id).toList
  | none => piece

/-- A piece with the value of whatever it mentions, if that is held. -/
def filled : Piece → Piece
  | .plain text => .plain text
  | .mention kind =>
    match s.id? kind with
    | some id => .plain (value id).toList
    | none => .mention kind

private theorem fillHeld_plain (text : List Char) (kind : ResourceKind) :
    s.fillHeld value (.plain text) kind = .plain text := by
  unfold fillHeld
  split <;> rfl

private theorem fillHeld_mention (kind other : ResourceKind) :
    s.fillHeld value (.mention kind) other =
      if kind = other then s.filled value (.mention kind) else .mention kind := by
  by_cases same : kind = other
  · subst same
    rw [if_pos rfl, fillHeld, filled]
    cases s.id? kind <;> simp [Piece.fill]
  · rw [if_neg same, fillHeld]
    cases s.id? other <;> simp [Piece.fill, same]

private theorem foldl_of_idle {piece : Piece} (idle : ∀ kind, s.fillHeld value piece kind = piece)
    (kinds : List ResourceKind) : kinds.foldl (s.fillHeld value) piece = piece := by
  induction kinds with
  | nil => rfl
  | cons kind more ih => rw [List.foldl_cons, idle, ih]

private theorem foldl_fillHeld (piece : Piece) {kinds : List ResourceKind}
    (complete : ∀ kind, kind ∈ kinds) :
    kinds.foldl (s.fillHeld value) piece = s.filled value piece := by
  cases piece with
  | plain text => exact s.foldl_of_idle value (s.fillHeld_plain value text) kinds
  | mention kind =>
    have idle : ∀ other, s.fillHeld value (s.filled value (.mention kind)) other =
        s.filled value (.mention kind) := by
      intro other
      cases held : s.id? kind with
      | none =>
        have unfilled : s.filled value (.mention kind) = .mention kind := by simp [filled, held]
        rw [unfilled, fillHeld_mention, unfilled, ite_self]
      | some id =>
        have closed : s.filled value (.mention kind) = .plain (value id).toList := by
          simp [filled, held]
        rw [closed, fillHeld_plain]
    have member := complete kind
    clear complete
    induction kinds with
    | nil => cases member
    | cons first more ih =>
      rw [List.foldl_cons, fillHeld_mention]
      by_cases same : kind = first
      · rw [if_pos same]
        exact s.foldl_of_idle value idle more
      · rw [if_neg same]
        exact ih ((List.mem_cons.1 member).resolve_left same)

variable {value}

def values (kinds : List ResourceKind) (value : ResourceId → String) : List (List Char) :=
  (s.held kinds).map fun target => (value target.2).toList

/-- No placeholder that is looked for is formed by the values put in before, unless it stands for
itself. -/
def Clear (value : ResourceId → String) : Prop :=
  ∀ front kind back id, ResourceKind.all = front ++ kind :: back → s.id? kind = some id →
    value id = kind.placeholder ∨
      ¬Text.Forms (s.values front value) kind.placeholder.toList

def pass (value : ResourceId → String) (text : String) (kind : ResourceKind) : String :=
  match s.id? kind with
  | some id => String.ofList (Text.replace kind.placeholder.toList (value id).toList text.toList)
  | none => text

theorem substitute_eq_foldl (value : ResourceId → String) (template : String) :
    s.substitute value template = ResourceKind.all.foldl (s.pass value) template := rfl

private theorem among_fillHeld {front : List ResourceKind} {piece : Piece}
    (among : piece.Among (s.values front value)) (kind : ResourceKind) :
    (s.fillHeld value piece kind).Among (s.values (front ++ [kind]) value) := by
  have grown : s.values (front ++ [kind]) value =
      s.values front value ++ s.values [kind] value := by
    simp only [values, held, List.filterMap_append, List.map_append]
  cases piece with
  | plain text =>
    rw [fillHeld_plain, grown]
    exact among.imp_right (List.mem_append_left _)
  | mention other =>
    rw [fillHeld_mention]
    split
    · rename_i same
      subst same
      rw [filled]
      cases slot : s.id? other with
      | none => trivial
      | some id =>
        refine .inr (grown ▸ List.mem_append_right _ ?_)
        rw [values, held_cons_of_some slot]
        exact List.mem_cons_self
    · trivial

private theorem pass_written (clear : s.Clear value) {front back : List ResourceKind}
    {kind : ResourceKind} (split : ResourceKind.all = front ++ kind :: back) {pieces : List Piece}
    (among : ∀ piece ∈ pieces, piece.Among (s.values front value)) :
    s.pass value (String.ofList (Piece.written pieces)) kind =
      String.ofList (Piece.written (pieces.map (s.fillHeld value · kind))) := by
  unfold pass fillHeld
  cases slot : s.id? kind with
  | none => rw [List.map_id']
  | some id =>
    simp only [String.toList_ofList]
    obtain own | apart := clear front kind back id split slot
    · obtain ⟨pattern, opened⟩ := kind.placeholder_toList
      rw [own, Piece.written_fill_self, opened, Text.replace_self]
    · rw [Piece.replace_written among apart]

/-- Values that form no placeholder go to the placeholders of the template alone. -/
theorem substitute_written (clear : s.Clear value) {pieces : List Piece}
    (sound : ∀ piece ∈ pieces, piece.Sound) :
    s.substitute value (String.ofList (Piece.written pieces)) =
      String.ofList (Piece.written (pieces.map (s.filled value))) := by
  -- Each kind in turn leaves pieces among which are the values of the kinds up to it.
  have each : ∀ kinds front (pieces : List Piece), ResourceKind.all = front ++ kinds →
      (∀ piece ∈ pieces, piece.Among (s.values front value)) →
      kinds.foldl (s.pass value) (String.ofList (Piece.written pieces)) = String.ofList
        (Piece.written (pieces.map fun piece => kinds.foldl (s.fillHeld value) piece)) := by
    intro kinds
    induction kinds with
    | nil =>
      intro front pieces _ _
      simp
    | cons kind more ih =>
      intro front pieces split among
      have kept : ∀ piece ∈ pieces.map (s.fillHeld value · kind),
          piece.Among (s.values (front ++ [kind]) value) := by
        intro piece member
        obtain ⟨before, inside, rfl⟩ := List.mem_map.1 member
        exact s.among_fillHeld (among before inside) kind
      rw [List.foldl_cons, s.pass_written clear split among,
        ih (front ++ [kind]) _ (by rw [split, List.append_assoc]; rfl) kept, List.map_map]
      rfl
  have filled : s.filled value = fun piece => ResourceKind.all.foldl (s.fillHeld value) piece :=
    funext fun piece => (s.foldl_fillHeld value piece ResourceKind.mem_all).symm
  rw [filled, substitute_eq_foldl]
  refine each ResourceKind.all [] pieces rfl fun piece member => ?_
  cases piece with
  | plain text => exact .inl (sound _ member)
  | mention kind => trivial

private theorem clear_of_braceless (braceless : ∀ id, Braceless (value id).toList) :
    s.Clear value := by
  intro front kind back id _ _
  refine .inr fun formed => ?_
  obtain ⟨name, opened⟩ := kind.placeholder_toList
  have outside : ∀ text ∈ s.values front value, '\x7b' ∉ text := by
    intro text member
    obtain ⟨target, _, rfl⟩ := List.mem_map.1 member
    exact (braceless target.2).1
  rw [opened] at formed
  obtain ⟨text, member, inside⟩ | ⟨first, _, _, split, nonempty, _, ⟨text, member, ends⟩, _⟩ :=
    formed
  · exact outside text member (inside.subset List.mem_cons_self)
  · obtain ⟨c, more, rfl⟩ := List.exists_cons_of_ne_nil nonempty
    obtain rfl : '\x7b' = c := (List.cons.inj split).1
    exact outside text member (ends.subset List.mem_cons_self)

end Session

namespace ResourceId

theorem braceless_segment (id : ResourceId) : Braceless id.segment.toList := by
  have kept : ∀ c ∈ id.segment.toList, Percent.isUnreserved c = true ∨ c = '%' := by
    intro c member
    rw [segment, String.toList_ofList] at member
    exact Percent.mem_encode_isUnreserved member
  constructor
  · intro member
    exact absurd (kept _ member) (by decide)
  · intro member
    exact absurd (kept _ member) (by decide)

end ResourceId

theorem Session.renderPath_written (s : Session) {pieces : List Piece}
    (sound : ∀ piece ∈ pieces, piece.Sound) :
    s.renderPath (String.ofList (Piece.written pieces)) =
      String.ofList (Piece.written (pieces.map (s.filled ResourceId.segment))) :=
  s.substitute_written (s.clear_of_braceless ResourceId.braceless_segment) sound

end PanelProbe
