import PanelProbe.Proofs.Session.Template

/-!
Identifiers shown as they are. The kinds are gone through one after the other, so a placeholder of a
later kind that the identifiers of earlier ones form is taken for one of the template. Sessions show
their identifiers just if none is formed.
-/

set_option autoImplicit false

namespace PanelProbe.Session

/-- Each placeholder of a held kind gives way to the identifier, all at once; the others stay. -/
def ShowsVerbatim (s : Session) : Prop :=
  ∀ pieces : List Piece, (∀ piece ∈ pieces, piece.Sound) →
    s.render (String.ofList (Piece.written pieces)) =
      String.ofList (Piece.written (pieces.map (s.filled ResourceId.text)))

def IsPart (part s : Session) : Prop :=
  ∀ kind id, part.id? kind = some id → s.id? kind = some id

variable {s part : Session}

theorem IsPart.values (h : part.IsPart s) (kinds : List ResourceKind)
    (value : ResourceId → String) : part.values kinds value ⊆ s.values kinds value := by
  intro text member
  obtain ⟨⟨kind, id⟩, held, rfl⟩ := List.mem_map.1 member
  obtain ⟨inside, slot⟩ := mem_held.1 held
  exact List.mem_map.2 ⟨(kind, id), mem_held.2 ⟨inside, h kind id slot⟩, rfl⟩

private theorem Clear.of_part {value : ResourceId → String} (h : part.IsPart s)
    (clear : s.Clear value) :
    part.Clear value := by
  intro front kind back id split slot
  refine (clear front kind back id split (h kind id slot)).imp_right fun apart formed => ?_
  exact apart (formed.mono (h.values front value))

/-! Sessions that hold the first kinds only. -/

private theorem id?_without_held_of_not_mem {kinds : List ResourceKind} {kind : ResourceKind}
    (h : kind ∉ kinds) : (s.without (s.held kinds)).id? kind = s.id? kind := by
  rw [id?_without, map_fst_held, if_neg fun member => h (List.mem_of_mem_filter member)]

private theorem isPart_without (s : Session) (kinds : List ResourceKind) :
    (s.without (s.held kinds)).IsPart s := by
  intro kind id slot
  by_cases member : kind ∈ kinds
  · rw [id?_without_of_held (List.Subset.refl _) member] at slot
    cases slot
  · rwa [id?_without_held_of_not_mem member] at slot

variable {value : ResourceId → String} {kinds : List ResourceKind}

private theorem foldl_pass_of_none (none : ∀ kind ∈ kinds, s.id? kind = none) (text : String) :
    kinds.foldl (s.pass value) text = text := by
  induction kinds with
  | nil => rfl
  | cons kind more ih =>
    obtain ⟨here, later⟩ := List.forall_mem_cons.1 none
    rw [List.foldl_cons, pass, here]
    exact ih later

private theorem foldl_pass_congr (same : ∀ kind ∈ kinds, part.id? kind = s.id? kind)
    (text : String) :
    kinds.foldl (part.pass value) text = kinds.foldl (s.pass value) text := by
  induction kinds generalizing text with
  | nil => rfl
  | cons kind more ih =>
    obtain ⟨here, later⟩ := List.forall_mem_cons.1 same
    rw [List.foldl_cons, List.foldl_cons, ih later, pass, here, ← pass]

variable {front back : List ResourceKind} {kind : ResourceKind} {id : ResourceId}

private theorem notMem_of_split (split : ResourceKind.all = front ++ kind :: back) :
    kind ∉ back ∧ ∀ other ∈ front, other ∉ kind :: back := by
  have distinct : (front ++ kind :: back).Nodup := split ▸ by decide
  obtain ⟨_, behind, apart⟩ := List.nodup_append.1 distinct
  exact ⟨(List.nodup_cons.1 behind).1, fun other member again => apart other member other again rfl⟩

private theorem substitute_without (split : ResourceKind.all = front ++ kind :: back)
    (slot : s.id? kind = some id) (value : ResourceId → String) (template : String) :
    (s.without (s.held back)).substitute value template =
      String.ofList (Text.replace kind.placeholder.toList (value id).toList
        ((s.without (s.held (kind :: back))).substitute value template).toList) := by
  obtain ⟨last, earlier⟩ := notMem_of_split split
  have here : (s.without (s.held back)).id? kind = some id := by
    rw [id?_without_held_of_not_mem last, slot]
  have before : ∀ other ∈ front, (s.without (s.held back)).id? other =
      (s.without (s.held (kind :: back))).id? other := by
    intro other member
    have apart := earlier other member
    rw [id?_without_held_of_not_mem apart,
      id?_without_held_of_not_mem fun later => apart (List.mem_cons_of_mem _ later)]
  have gone (kinds : List ResourceKind) (text : String) :
      kinds.foldl ((s.without (s.held kinds)).pass value) text = text :=
    foldl_pass_of_none (fun other member => id?_without_of_held (List.Subset.refl _) member) text
  rw [substitute_eq_foldl, substitute_eq_foldl, split, List.foldl_append, List.foldl_append, gone,
    List.foldl_cons, gone, foldl_pass_congr before, pass, here]

/-! Placeholders that identifiers form. -/

private theorem filled_mention (slot : s.id? kind = some id) :
    s.filled value (.mention kind) = .plain (value id).toList := by
  rw [filled, slot]

private theorem exists_of_mem_values {text : List Char} (member : text ∈ s.values kinds value) :
    ∃ kind ∈ kinds, (s.filled value (.mention kind)).text = text := by
  obtain ⟨⟨kind, id⟩, held, rfl⟩ := List.mem_map.1 member
  obtain ⟨inside, slot⟩ := mem_held.1 held
  exact ⟨kind, inside, by rw [filled_mention slot]; rfl⟩

private theorem braceless_middle {first middle last : List Char}
    (split : kind.placeholder.toList = first ++ middle ++ last) (nonempty : first ≠ [])
    (closed : last ≠ []) : Braceless middle := by
  obtain ⟨name, whole, braceless⟩ := kind.exists_name
  obtain ⟨c, more, rfl⟩ := List.exists_cons_of_ne_nil nonempty
  obtain ⟨rest, d, rfl⟩ := (List.eq_nil_or_concat' last).resolve_left closed
  have inside : name = more ++ middle ++ rest := by
    rw [whole] at split
    have behind : name ++ ['\x7d'] = more ++ middle ++ (rest ++ [d]) := (List.cons.inj split).2
    rw [← List.append_assoc] at behind
    exact (List.append_inj' behind rfl).1
  have member : middle ⊆ name := by
    rw [inside]
    exact fun c h => List.mem_append_left _ (List.mem_append_right _ h)
  exact ⟨fun h => braceless.1 (member h), fun h => braceless.2 (member h)⟩

private theorem exists_template
    (formed : Text.Forms (s.values front value) kind.placeholder.toList) :
    ∃ pieces : List Piece, (∀ piece ∈ pieces, piece.Sound) ∧
      (∀ other, .mention other ∈ pieces → other ∈ front) ∧
      kind.placeholder.toList <:+: Piece.written (pieces.map (s.filled value)) := by
  obtain ⟨text, member, inside⟩ | ⟨first, middle, last, split, nonempty, closed,
    ⟨text, member, ends⟩, other, found, begins⟩ := formed
  · obtain ⟨k, held, rfl⟩ := exists_of_mem_values member
    refine ⟨[.mention k], by simp [Piece.Sound], by simpa using held, ?_⟩
    simpa [Piece.written] using inside
  · obtain ⟨k, held, rfl⟩ := exists_of_mem_values member
    obtain ⟨k', held', rfl⟩ := exists_of_mem_values found
    have braceless := braceless_middle split nonempty closed
    refine ⟨[.mention k, .plain middle, .mention k'],
      by simpa [Piece.Sound] using braceless, ?_, ?_⟩
    · simp only [List.mem_cons, Piece.mention.injEq, reduceCtorEq, List.not_mem_nil, or_false,
        false_or]
      rintro other (rfl | rfl)
      · exact held
      · exact held'
    · obtain ⟨before, ends⟩ := ends
      obtain ⟨behind, begins⟩ := begins
      have shown : Piece.written ([.mention k, .plain middle, .mention k'].map (s.filled value)) =
          before ++ kind.placeholder.toList ++ behind := by
        simp only [List.map_cons, List.map_nil, Piece.written_cons, ← ends, ← begins, split]
        simp [Piece.written, filled, Piece.text]
      exact ⟨before, behind, shown.symm⟩

private theorem map_filled_congr {pieces : List Piece}
    (same : ∀ kind, .mention kind ∈ pieces → part.id? kind = s.id? kind) :
    pieces.map (part.filled value) = pieces.map (s.filled value) := by
  refine List.map_congr_left fun piece member => ?_
  cases piece with
  | plain text => rfl
  | mention kind => rw [filled, filled, same kind member]

private theorem clear_of_parts (shown : ∀ part : Session, part.IsPart s → part.ShowsVerbatim) :
    s.Clear ResourceId.text := by
  intro front kind back id split slot
  by_contra! spoiled
  obtain ⟨other, formed⟩ := spoiled
  obtain ⟨pieces, sound, mentions, occurs⟩ := exists_template formed
  obtain ⟨_, earlier⟩ := notMem_of_split split
  -- The session that holds the earlier kinds, and the one that holds this kind, too.
  have before := shown _ (s.isPart_without (kind :: back)) pieces sound
  have behind := shown _ (s.isPart_without back) pieces sound
  rw [map_filled_congr (s := s) fun k member =>
    id?_without_held_of_not_mem (earlier k (mentions k member))] at before
  rw [map_filled_congr (s := s) fun k member => id?_without_held_of_not_mem fun later =>
    earlier k (mentions k member) (List.mem_cons_of_mem _ later)] at behind
  have replaced := substitute_without split slot ResourceId.text
    (String.ofList (Piece.written pieces))
  rw [← render, ← render, before, behind, String.toList_ofList] at replaced
  have unchanged := (String.ofList_injective replaced).symm
  obtain ⟨pattern, opened⟩ := kind.placeholder_toList
  rw [opened] at unchanged occurs
  obtain own | absent := Text.replace_eq_self_iff.1 unchanged
  · exact other (String.toList_injective (own.trans opened.symm))
  · exact absent occurs

/-- A session and all its parts show the identifiers they hold verbatim just if none of them, and no
two of them around a text, form the placeholder of a later kind that is held, unless the identifier
of that kind is its own placeholder. Without its parts a session may be right by chance, since a
later placeholder can restore what an earlier one has spoiled. -/
theorem shows_verbatim_iff (s : Session) :
    (∀ part : Session, part.IsPart s → part.ShowsVerbatim) ↔ s.Clear ResourceId.text :=
  ⟨clear_of_parts, fun clear part h _ sound => part.substitute_written (clear.of_part h) sound⟩

/-- The placeholder of the node inside the identifiers of user and plan is spoiled and restored. -/
example :
    let nested : ResourceId := ⟨"\x7bpl\x7bnode_id\x7did\x7d"⟩
    let s : Session := { user := some nested, node := some ⟨"an_"⟩, plan := some nested }
    s.render "\x7buser_id\x7d" = nested.text ∧
      { s with plan := none }.render "\x7buser_id\x7d" = "\x7bplan_id\x7d" := by
  decide

/-- The identifier of the user is a placeholder, and gives way to the identifier of the node. -/
theorem shown_placeholder_filled :
    let s : Session := { user := some ⟨"\x7bnode_id\x7d"⟩, node := some ⟨"7"⟩ }
    s.render "\x7buser_id\x7d" = "7" ∧ ¬s.ShowsVerbatim := by
  intro s
  have shown : s.render "\x7buser_id\x7d" = "7" := by decide
  refine ⟨shown, fun verbatim => ?_⟩
  have whole := verbatim [.mention .user] (by simp [Piece.Sound])
  exact absurd (shown.symm.trans whole) (by decide)

end PanelProbe.Session
