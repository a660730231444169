import PanelProbe.Json.Parser
import PanelProbe.Proofs.Json.Scanning

/-!
From tokens to values: the tokens of a value fill one slot of the machine unless they nest too deep,
with the members of objects sorted. So an indented text is read as the value it was written from,
each number as its literal is read.
-/

set_option autoImplicit false

namespace PanelProbe.Json

mutual

def depth : Json → Nat
  | .array items => itemsDepth items + 1
  | .object members => membersDepth members + 1
  | _ => 0

def itemsDepth : List Json → Nat
  | [] => 0
  | v :: rest => max (depth v) (itemsDepth rest)

def membersDepth : List (String × Json) → Nat
  | [] => 0
  | (_, v) :: rest => max (depth v) (membersDepth rest)

end

mutual

/-- The value with the members of its objects sorted, the last of equal keys kept, and its numbers
put through `f`. -/
def readAs (f : Number → Number) : Json → Json
  | .number n => .number (f n)
  | .array items => .array (readItemsAs f items)
  | .object members => ofMembers (readMembersAs f members)
  | v => v

def readItemsAs (f : Number → Number) : List Json → List Json
  | [] => []
  | v :: rest => readAs f v :: readItemsAs f rest

def readMembersAs (f : Number → Number) : List (String × Json) → List (String × Json)
  | [] => []
  | (key, v) :: rest => (key, readAs f v) :: readMembersAs f rest

end

theorem readItemsAs_eq_map (f : Number → Number) (items : List Json) :
    readItemsAs f items = items.map (readAs f) := by
  induction items with
  | nil => rfl
  | cons v rest ih => rw [readItemsAs, ih, List.map_cons]

theorem readMembersAs_eq_map (f : Number → Number) (members : Members) :
    readMembersAs f members = members.map fun p => (p.1, readAs f p.2) := by
  induction members with
  | nil => rfl
  | cons p rest ih =>
    obtain ⟨key, v⟩ := p
    rw [readMembersAs, ih, List.map_cons]

theorem Token.map_mapNumber_id (tokens : List Token) :
    tokens.map (Token.mapNumber id) = tokens := by
  have same : Token.mapNumber id = id := by
    funext t
    cases t <;> rfl
  rw [same, List.map_id]

def reread : Json → Json := readAs Number.reread

namespace Build

variable {f : Number → Number} {containers : List Slot} {rest : List Token}

def within {α : Type} (depth : Nat) (x : Option α) : Option α :=
  if depth ≤ depthLimit then x else none

theorem within_of_le {α : Type} {depth : Nat} (shallow : depth ≤ depthLimit) (x : Option α) :
    within depth x = x := if_pos shallow

private theorem within_within {α : Type} (m n : Nat) (x : Option α) :
    within m (within n x) = within (max m n) x := by
  unfold within
  rw [← ite_and]
  exact if_congr Nat.max_le.symm rfl rfl

private theorem within_congr {α : Type} {n : Nat} {x y : Option α} (same : n ≤ depthLimit → x = y) :
    within n x = within n y := by
  unfold within
  split
  · exact same ‹_›
  · rfl

def reads (f : Number → Number) (b : Build) (tokens rest : List Token) : Option Build :=
  b.run (tokens.map (Token.mapNumber f) ++ rest)

private theorem reads_cons (b : Build) (t : Token) (tokens rest : List Token) :
    b.reads f (t :: tokens) rest = (b.next (t.mapNumber f)).bind (·.reads f tokens rest) := by
  unfold reads run
  rw [List.map_cons, List.cons_append, List.foldlM_cons]
  rfl

private theorem reads_append (b : Build) (first second rest : List Token) :
    b.reads f (first ++ second) rest =
      b.reads f first (second.map (Token.mapNumber f) ++ rest) := by
  rw [reads, reads, List.map_append, List.append_assoc]

private theorem reads_arrayStart (v : Json) :
    reads f ⟨.arrayStart, containers⟩ v.tokens rest =
      reads f ⟨.value (.item []), containers⟩ v.tokens rest := by
  cases v <;> rw [tokens] <;> rfl

private theorem reads_key (members : Members) (key : String) (tokens rest : List Token) :
    reads f ⟨.key members, containers⟩ (.string key :: .colon :: tokens) rest =
      reads f ⟨.value (.member members key), containers⟩ tokens rest := rfl

private theorem reads_objectStart (key : String) (tokens rest : List Token) :
    reads f ⟨.objectStart, containers⟩ (.string key :: .colon :: tokens) rest =
      reads f ⟨.value (.member [] key), containers⟩ tokens rest := rfl

private theorem reads_closeArray {slot : Slot} (items : List Json) :
    reads f ⟨.afterItem items, slot :: containers⟩ [.closeArray] rest =
      run ⟨fill slot (.array items.reverse), containers⟩ rest := rfl

private theorem reads_closeObject {slot : Slot} (members : Members) :
    reads f ⟨.afterMember members, slot :: containers⟩ [.closeObject] rest =
      run ⟨fill slot (.object members), containers⟩ rest := rfl

private theorem bind_enter {slot : Slot} {phase : Phase} (k : Build → Option Build) :
    (enter slot phase containers).bind k =
      within (containers.length + 1) (k ⟨phase, slot :: containers⟩) := by
  unfold enter within
  by_cases room : containers.length < depthLimit
  · rw [if_pos room, if_pos (Nat.succ_le_of_lt room), Option.bind_some]
  · rw [if_neg room, if_neg (by omega), Option.bind_none]

private theorem reads_openArray {slot : Slot} (tokens : List Token) :
    reads f ⟨.value slot, containers⟩ (.openArray :: tokens) rest =
      within (containers.length + 1)
        (reads f ⟨.arrayStart, slot :: containers⟩ tokens rest) := by
  rw [reads_cons]
  exact bind_enter _

private theorem reads_openObject {slot : Slot} (tokens : List Token) :
    reads f ⟨.value slot, containers⟩ (.openObject :: tokens) rest =
      within (containers.length + 1)
        (reads f ⟨.objectStart, slot :: containers⟩ tokens rest) := by
  rw [reads_cons]
  exact bind_enter _

mutual

/-- The tokens of a value fill its slot, whatever the slot and whatever follows, unless they nest
too deep. -/
private theorem reads_tokens (f : Number → Number) : (v : Json) → ∀ (slot : Slot)
    (containers : List Slot) (rest : List Token), containers.length ≤ depthLimit →
    reads f ⟨.value slot, containers⟩ v.tokens rest =
      within (containers.length + v.depth) (run ⟨fill slot (v.readAs f), containers⟩ rest)
  | .null, slot, containers, rest, room | .bool _, slot, containers, rest, room
  | .number _, slot, containers, rest, room | .string _, slot, containers, rest, room =>
    (within_of_le room _).symm
  | .array [], slot, containers, rest, _ => by
    rw [tokens, List.cons_append, reads_openArray]
    rfl
  | .array (v :: items), slot, containers, rest, _ => by
    -- Entering is what checks the depth: the items are read only where there is room for them.
    have inside (room : containers.length + 1 ≤ depthLimit) :
        reads f ⟨.arrayStart, slot :: containers⟩
          (v.tokens ++ (items.flatMap (fun w => .comma :: w.tokens) ++ [.closeArray])) rest =
        within (containers.length + 1 + max v.depth (itemsDepth items))
          (run ⟨fill slot ((Json.array (v :: items)).readAs f), containers⟩ rest) := by
      rw [reads_append, reads_arrayStart, reads_tokens f v _ (slot :: containers) _ room,
        List.length_cons, fill, ← reads, reads_append,
        reads_items f items _ (slot :: containers) _ room, List.length_cons, ← reads,
        reads_closeArray, within_within, Nat.add_max_add_left, List.reverse_append,
        List.reverse_reverse]
      rfl
    rw [tokens, itemTokens_cons, List.cons_append, List.append_assoc, reads_openArray,
      within_congr inside, within_within, depth, itemsDepth]
    congr 1
    omega
  | .object [], slot, containers, rest, _ => by
    rw [tokens, List.cons_append, reads_openObject]
    rfl
  | .object ((key, v) :: members), slot, containers, rest, _ => by
    have inside (room : containers.length + 1 ≤ depthLimit) :
        reads f ⟨.objectStart, slot :: containers⟩ (.string key :: .colon :: (v.tokens ++
          (members.flatMap (fun p => .comma :: .string p.1 :: .colon :: p.2.tokens) ++
            [.closeObject]))) rest =
        within (containers.length + 1 + max v.depth (membersDepth members))
          (run ⟨fill slot ((Json.object ((key, v) :: members)).readAs f), containers⟩ rest) := by
      rw [reads_objectStart, reads_append, reads_tokens f v _ (slot :: containers) _ room,
        List.length_cons, fill, Members.insert, ← reads, reads_append,
        reads_members f members _ (slot :: containers) _ room, List.length_cons, ← reads,
        reads_closeObject, within_within, Nat.add_max_add_left]
      rfl
    rw [tokens, memberTokens_cons, List.cons_append, List.append_assoc, List.cons_append,
      List.cons_append, reads_openObject, within_congr inside, within_within, depth, membersDepth]
    congr 1
    omega

private theorem reads_items (f : Number → Number) : (items : List Json) → ∀ (seen : List Json)
    (containers : List Slot) (rest : List Token), containers.length ≤ depthLimit →
    reads f ⟨.afterItem seen, containers⟩ (items.flatMap fun v => .comma :: v.tokens) rest =
      within (containers.length + itemsDepth items)
        (run ⟨.afterItem ((readItemsAs f items).reverse ++ seen), containers⟩ rest)
  | [], seen, containers, rest, room => (within_of_le room _).symm
  | v :: items, seen, containers, rest, room => by
    have comma : next ⟨.afterItem seen, containers⟩ (Token.comma.mapNumber f) =
        some ⟨.value (.item seen), containers⟩ := rfl
    rw [List.flatMap_cons, List.cons_append, reads_cons, comma, Option.bind_some, reads_append,
      reads_tokens f v _ _ _ room, fill, ← reads, reads_items f items _ _ _ room, within_within,
      Nat.add_max_add_left, itemsDepth, readItemsAs, List.reverse_cons, List.append_assoc]
    rfl

private theorem reads_members (f : Number → Number) : (members : Members) → ∀ (seen : Members)
    (containers : List Slot) (rest : List Token), containers.length ≤ depthLimit →
    reads f ⟨.afterMember seen, containers⟩
        (members.flatMap fun p => .comma :: .string p.1 :: .colon :: p.2.tokens) rest =
      within (containers.length + membersDepth members)
        (run ⟨.afterMember ((readMembersAs f members).foldl
          (fun m p => Members.insert p.1 p.2 m) seen), containers⟩ rest)
  | [], seen, containers, rest, room => (within_of_le room _).symm
  | (key, v) :: members, seen, containers, rest, room => by
    have comma : next ⟨.afterMember seen, containers⟩ (Token.comma.mapNumber f) =
        some ⟨.key seen, containers⟩ := rfl
    rw [List.flatMap_cons, List.cons_append, List.cons_append, List.cons_append, reads_cons, comma,
      Option.bind_some, reads_key, reads_append, reads_tokens f v _ _ _ room, fill, ← reads,
      reads_members f members _ _ _ room, within_within, Nat.add_max_add_left, membersDepth]
    rfl

end

end Build

theorem ofTokens?_tokens (f : Number → Number) (v : Json) :
    ofTokens? (v.tokens.map (Token.mapNumber f)) = Build.within v.depth (some (v.readAs f)) := by
  have built := Build.reads_tokens f v .document [] [] (Nat.zero_le _)
  rw [Build.reads, List.append_nil, List.length_nil, Nat.zero_add] at built
  rw [ofTokens?, Build.start, built, Build.within, Build.within]
  split <;> rfl

/-! Indented texts. -/

/-- The indented text of a value is read as that value, with its members sorted and its numbers as
their literals are read. -/
theorem parse?_pretty {v : Json} (legible : v.Legible) (shallow : v.depth ≤ Build.depthLimit) :
    parse? v.pretty = some v.reread := by
  have scanned : tokens? v.pretty.toList = some (v.tokens.map Token.reread) := by
    have whole : tokens? v.pretty.toList =
        Scan.tokens? ⟨.between, []⟩ (indented 0 v ++ []) := by
      rw [pretty, String.toList_ofList, List.append_nil]
      rfl
    rw [whole, Scan.tokens?_indented 0 v legible [] [] (by rintro c ⟨⟩)]
    have finished : Scan.tokens? ⟨.between, Scan.noted [] v.tokens⟩ [] =
        some (Scan.noted [] v.tokens).reverse := rfl
    rw [finished, Scan.reverse_noted, List.reverse_nil, List.nil_append]
  rw [parse?, scanned, Option.bind_some, Token.reread, ofTokens?_tokens,
    Build.within_of_le shallow, reread]

end PanelProbe.Json
