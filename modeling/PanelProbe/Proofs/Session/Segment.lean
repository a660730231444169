import PanelProbe.Proofs.Session.Template

/-!
Identifiers in paths. Each stands in its own segment, which is of unreserved characters and triples
alone, so that no path has another mark of structure than its template has.
-/

set_option autoImplicit false

namespace PanelProbe

namespace Percent

def IsUpperHex (c : Char) : Prop :=
  c.isDigit = true ∨ 'A' ≤ c ∧ c ≤ 'F'

instance (c : Char) : Decidable (IsUpperHex c) :=
  inferInstanceAs (Decidable (_ ∨ _))

/-- Unreserved characters, and percent signs with two digits behind each. -/
inductive Escaped : List Char → Prop
  | nil : Escaped []
  | unreserved {c : Char} {rest : List Char} (plain : isUnreserved c = true)
      (behind : Escaped rest) : Escaped (c :: rest)
  | triple {high low : Char} {rest : List Char} (first : IsUpperHex high) (second : IsUpperHex low)
      (behind : Escaped rest) : Escaped ('%' :: high :: low :: rest)

private theorem isUpperHex_digit {n : Nat} (small : n < 16) : IsUpperHex (digit n) := by
  have table : ∀ m : Fin 16, IsUpperHex (digit m) := by decide
  exact table ⟨n, small⟩

private theorem escaped_encodeBytes (data : List UInt8) :
    Escaped (encodeBytes isUnreserved data) := by
  induction data with
  | nil => exact .nil
  | cons b rest ih =>
    have bound : b.toNat < 256 := b.toNat_lt
    rw [encodeBytes, List.flatMap_cons, ← encodeBytes, encodeByte]
    split
    · rename_i kept
      exact .unreserved (Bool.and_eq_true_iff.1 kept).2 ih
    · exact .triple (isUpperHex_digit (by omega)) (isUpperHex_digit (by omega)) ih

end Percent

/-- The marks that end a segment or the path. -/
def isMark (c : Char) : Bool :=
  c == '/' || c == '?' || c == '#'

private theorem ResourceKind.filter_isMark_placeholder (kind : ResourceKind) :
    kind.placeholder.toList.filter isMark = [] := by
  cases kind <;> decide

namespace ResourceId

private theorem escaped_segment (id : ResourceId) : Percent.Escaped id.segment.toList := by
  rw [segment, String.toList_ofList]
  exact Percent.escaped_encodeBytes _

private theorem decode_segment (id : ResourceId) :
    Percent.decode id.segment.toList = Percent.bytes id.text.toList := by
  rw [segment, String.toList_ofList, Percent.encode, Percent.decode_encodeBytes (by decide)]

theorem notMem_segment (id : ResourceId) {c : Char} (reserved : Percent.isUnreserved c = false)
    (sign : c ≠ '%') : c ∉ id.segment.toList := by
  intro member
  rw [segment, String.toList_ofList] at member
  obtain unreserved | same := Percent.mem_encode_isUnreserved member
  · rw [reserved] at unreserved
    cases unreserved
  · exact sign same

private theorem filter_isMark_segment (id : ResourceId) : id.segment.toList.filter isMark = [] := by
  refine List.filter_eq_nil_iff.2 fun c member mark => ?_
  simp only [isMark, Bool.or_eq_true, beq_iff_eq] at mark
  obtain (rfl | rfl) | rfl := mark <;>
    exact id.notMem_segment (by decide) (by decide) member

end ResourceId

namespace Session

private theorem filter_isMark_filled (s : Session) (piece : Piece) :
    (s.filled ResourceId.segment piece).text.filter isMark = piece.text.filter isMark := by
  cases piece with
  | plain text => rfl
  | mention kind =>
    rw [filled]
    cases s.id? kind with
    | none => rfl
    | some id =>
      rw [Piece.text, Piece.text, id.filter_isMark_segment, kind.filter_isMark_placeholder]

private theorem filter_isMark_written (s : Session) (pieces : List Piece) :
    (Piece.written (pieces.map (s.filled ResourceId.segment))).filter isMark =
      (Piece.written pieces).filter isMark := by
  induction pieces with
  | nil => rfl
  | cons piece rest ih =>
    rw [List.map_cons, Piece.written_cons, Piece.written_cons, List.filter_append,
      List.filter_append, ih, filter_isMark_filled]

/-- The path of a template has the segment of each held identifier in place of its placeholders, all
at once, and the other placeholders as they are; its marks are those of the template. A segment is
of unreserved characters and triples, stands for the bytes of its identifier and for no other
identifier, and has neither marks nor braces. -/
theorem renderPath_exact (s : Session) {pieces : List Piece}
    (sound : ∀ piece ∈ pieces, piece.Sound) :
    (s.renderPath (String.ofList (Piece.written pieces)) =
        String.ofList (Piece.written (pieces.map (s.filled ResourceId.segment))) ∧
      (s.renderPath (String.ofList (Piece.written pieces))).toList.filter isMark =
        (Piece.written pieces).filter isMark) ∧
    (∀ id : ResourceId, Percent.Escaped id.segment.toList ∧
      Percent.decode id.segment.toList = Percent.bytes id.text.toList ∧
      ∀ c ∈ ['/', '?', '#', '\x7b', '\x7d'], c ∉ id.segment.toList) ∧
    Function.Injective ResourceId.segment := by
  have rendered := s.renderPath_written sound
  refine ⟨⟨rendered, ?_⟩, fun id => ⟨id.escaped_segment, id.decode_segment, ?_⟩,
    ResourceId.segment_injective⟩
  · rw [rendered, String.toList_ofList, s.filter_isMark_written]
  · intro c structural
    -- A bounded quantifier would be decided over all characters.
    have table : (['/', '?', '#', '\x7b', '\x7d'].all fun c =>
        !Percent.isUnreserved c && c != '%') = true := by decide
    obtain ⟨reserved, sign⟩ : Percent.isUnreserved c = false ∧ c ≠ '%' := by
      simpa using List.all_eq_true.1 table c structural
    exact id.notMem_segment reserved sign

theorem disguised_user_rendered :
    let s : Session := { user := some ⟨"/\x7bnode_id\x7d/\u00e9"⟩ }
    let pieces : List Piece :=
      [.plain "/users/".toList, .mention .user, .plain "/nodes/".toList, .mention .node]
    (∀ piece ∈ pieces, piece.Sound) ∧ s.renderPath (String.ofList (Piece.written pieces)) =
      "/users/%2F%7Bnode_id%7D%2F%C3%A9/nodes/\x7bnode_id\x7d" := by
  intro s pieces
  have sound : ∀ piece ∈ pieces, piece.Sound := by decide
  have rendered := (s.renderPath_exact sound).1.1
  exact ⟨sound, rendered.trans (by decide)⟩

end Session

end PanelProbe
