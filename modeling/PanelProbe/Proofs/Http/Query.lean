import PanelProbe.Http.Network
import PanelProbe.Proofs.Http.Form
import PanelProbe.Proofs.Http.Target
import PanelProbe.Proofs.Text.Numeral
import PanelProbe.Proofs.Url.Host

/-!
Payloads in queries. The members of an object of strings, booleans and integers arrive as pairs,
behind those of the address. An object with an array or an object inside is not sent.
-/

set_option autoImplicit false

namespace PanelProbe

namespace Json

inductive ShownAs : Json → String → Prop
  | string (text : String) : ShownAs (.string text) text
  | yes : ShownAs (.bool true) "true"
  | no : ShownAs (.bool false) "false"
  | integer (value : Int) : ShownAs (.int value) (toString value)

inductive IsPlain : Json → Prop
  | string (text : String) : IsPlain (.string text)
  | bool (value : Bool) : IsPlain (.bool value)
  | integer (value : Int) : IsPlain (.int value)

inductive IsContainer : Json → Prop
  | array (items : List Json) : IsContainer (.array items)
  | object (members : Members) : IsContainer (.object members)

private theorem IsPlain.exists_text {v : Json} (plain : v.IsPlain) : ∃ text, v.ShownAs text := by
  cases plain with
  | string text => exact ⟨_, .string text⟩
  | bool value =>
    cases value with
    | true => exact ⟨_, .yes⟩
    | false => exact ⟨_, .no⟩
  | integer value => exact ⟨_, .integer value⟩

/-! The order of keys. -/

def Members.Ordered (members : Members) : Prop :=
  members.Pairwise fun p q => p.1 < q.1

private theorem Members.mem_insert {key : String} {value : Json} {members : Members}
    {p : String × Json}
    (member : p ∈ Members.insert key value members) : p = (key, value) ∨ p ∈ members := by
  induction members with
  | nil => exact .inl (List.mem_singleton.1 member)
  | cons q rest ih =>
    rw [Members.insert] at member
    split at member
    · exact List.mem_cons.1 member
    · split at member
      · exact (List.mem_cons.1 member).imp_right (List.mem_cons_of_mem _)
      · obtain rfl | later := List.mem_cons.1 member
        · exact .inr List.mem_cons_self
        · exact (ih later).imp_right (List.mem_cons_of_mem _)

private theorem Members.ordered_insert {members : Members} (ordered : members.Ordered)
    (key : String) (value : Json) : (Members.insert key value members).Ordered := by
  induction members with
  | nil => exact List.pairwise_singleton _ _
  | cons q rest ih =>
    obtain ⟨k, v⟩ := q
    obtain ⟨first, later⟩ := List.pairwise_cons.1 ordered
    rw [Members.insert]
    split
    · rename_i before
      refine List.pairwise_cons.2 ⟨fun p member => ?_, ordered⟩
      obtain rfl | member := List.mem_cons.1 member
      · exact before
      · exact String.lt_trans before (first p member)
    · split
      · rename_i same
        obtain rfl := beq_iff_eq.1 same
        exact List.pairwise_cons.2 ⟨first, later⟩
      · rename_i notBefore apart
        have behind : k < key := by
          by_contra notBehind
          exact apart (beq_iff_eq.2 (String.le_antisymm (String.not_lt.1 notBehind)
            (String.not_lt.1 notBefore)))
        refine List.pairwise_cons.2 ⟨fun p member => ?_, ih later⟩
        obtain rfl | member := mem_insert member
        · exact behind
        · exact first p member

private theorem Members.ordered_ofList (pairs : Members) : (Members.ofList pairs).Ordered :=
  List.foldlRecOn pairs _ .nil fun _ ordered p _ => ordered_insert ordered p.1 p.2

private theorem Members.mem_of_mem_ofList {pairs : Members} {p : String × Json}
    (member : p ∈ Members.ofList pairs) : p ∈ pairs := by
  refine List.foldlRecOn (motive := fun members => p ∈ members → p ∈ pairs) pairs _
    (fun none => absurd none List.not_mem_nil) ?_ member
  intro members before q inside member
  obtain rfl | earlier := mem_insert member
  · exact inside
  · exact before earlier

end Json

namespace Http

open Json

/-! Payloads as pairs. -/

/-- The pair has the member's key and the text of its value. -/
def Shows (member : String × Json) (pair : String × String) : Prop :=
  pair.1 = member.1 ∧ member.2.ShownAs pair.2

private theorem Form.scalar?_of_shownAs {v : Json} {text : String} (shown : v.ShownAs text) :
    Form.scalar? v = some text := by
  cases shown with
  | string | yes | no => rfl
  | integer value => exact congrArg some (Text.ofList_integer value)

private theorem Form.pairs?_cons (key : String) (value : Json) (rest : Members) :
    Form.pairs? (.object ((key, value) :: rest)) = (Form.scalar? value).bind fun text =>
      (Form.pairs? (.object rest)).map ((key, text) :: ·) := by
  rw [Form.pairs?, List.mapM_cons, Form.pairs?]
  dsimp only
  cases Form.scalar? value with
  | none => rfl
  | some text => exact Option.map_eq_bind.symm

private theorem Form.exists_pairs {members : Members}
    (plain : ∀ member ∈ members, member.2.IsPlain) :
    ∃ pairs, Form.pairs? (.object members) = some pairs ∧ List.Forall₂ Shows members pairs := by
  induction members with
  | nil => exact ⟨[], rfl, .nil⟩
  | cons member rest ih =>
    obtain ⟨key, value⟩ := member
    obtain ⟨here, later⟩ := List.forall_mem_cons.1 plain
    obtain ⟨text, shown⟩ := here.exists_text
    obtain ⟨pairs, read, all⟩ := ih later
    refine ⟨(key, text) :: pairs, ?_, .cons ⟨rfl, shown⟩ all⟩
    rw [Form.pairs?_cons, Form.scalar?_of_shownAs shown, read]
    rfl

private theorem Form.pairs?_of_container {members : Members} {key : String} {value : Json}
    (inside : (key, value) ∈ members) (container : value.IsContainer) :
    Form.pairs? (.object members) = none := by
  have unwritten : Form.scalar? value = none := by
    cases container <;> rfl
  induction members with
  | nil => cases inside
  | cons first rest ih =>
    rw [Form.pairs?_cons]
    obtain rfl | later := List.mem_cons.1 inside
    · rw [unwritten]
      rfl
    · rw [ih later]
      cases Form.scalar? first.2 <;> rfl

private theorem keys_of_shows {members : Members} {pairs : List (String × String)}
    (shown : List.Forall₂ Shows members pairs) :
    pairs.map Prod.fst = members.map Prod.fst := by
  induction shown with
  | nil => rfl
  | cons here _ ih => exact congrArg₂ List.cons here.1 ih

/-! Requests. -/

/-- The pairs of the query of a message's target, as a server reads them. -/
def Message.pairs (m : Message) : List (List UInt8 × List UInt8) :=
  Form.read ((Text.cut '?' m.target.toList).2.getD [])

private theorem isWeb_of_isWebAddress {u : Url} (web : isWebAddress u = true) :
    u.scheme = "http" ∨ u.scheme = "https" := by
  simp only [isWebAddress, Bool.and_eq_true, Bool.or_eq_true, beq_iff_eq] at web
  exact web.1.1

section Requests

variable {request : Request} {payload : Json} {pairs : List (String × String)}

private theorem address_of_pairs (query : request.query = some payload)
    (written : Form.pairs? payload = some pairs) (url : Url) :
    request.address (cutCredentials url).1 =
      .ok { (cutCredentials url).1 with query := Form.append url.query pairs } := by
  obtain ⟨username, password, cut⟩ := exists_cutCredentials url
  rw [Request.address, query]
  simp only [written, cut]

private theorem pairs_of_message {m : Message} (query : request.query = some payload)
    (written : Form.pairs? payload = some pairs) (sent : request.message = .ok m) :
    ∃ url, Url.parse request.url.toList = .ok url ∧
      m.pairs = Form.read (url.query.getD []) ++ pairs.map Form.bytes := by
  obtain ⟨url, parsed, -, -, u, addressed, web, built⟩ := message_eq_ok_iff.1 sent
  obtain ⟨scheme, path, joined⟩ : u.scheme = url.scheme ∧ u.path = url.path ∧
      u.query = Form.append url.query pairs := by
    obtain ⟨username, password, cut⟩ := exists_cutCredentials url
    obtain rfl := Except.ok.inj ((address_of_pairs query written url).symm.trans addressed)
    rw [cut]
    exact ⟨rfl, rfl, rfl⟩
  -- A mark in the path would end it there, and the server would read another query.
  have absent : '?' ∉ u.path.text := by
    rw [path]
    exact Url.question_notMem_path parsed (scheme ▸ isWeb_of_isWebAddress web)
  have place : m.url = u := congrArg Message.url built
  refine ⟨url, parsed, ?_⟩
  rw [Message.pairs, Message.target, String.toList_ofList, place, Url.cut_target absent, joined,
    Form.read_append_pairs]

private theorem exists_message_iff_of_pairs (query : request.query = some payload)
    (written : Form.pairs? payload = some pairs) :
    (∃ m, request.message = .ok m) ↔ ∃ url, Url.parse request.url.toList = .ok url ∧
      hasHost url = true ∧ request.headers.all isHeader = true ∧
      isWebAddress { (cutCredentials url).1 with query := Form.append url.query pairs } = true := by
  constructor
  · rintro ⟨m, sent⟩
    obtain ⟨url, parsed, host, headers, u, addressed, web, -⟩ := message_eq_ok_iff.1 sent
    obtain rfl := Except.ok.inj ((address_of_pairs query written url).symm.trans addressed)
    exact ⟨url, parsed, host, headers, web⟩
  · rintro ⟨url, parsed, host, headers, web⟩
    exact (exists_message_iff_of_address parsed host (address_of_pairs query written url)).2
      ⟨headers, web⟩

private theorem refused_of_noPairs (query : request.query = some payload)
    (unwritten : Form.pairs? payload = none) :
    ∃ refusal, request.message = .error refusal ∧
      ∀ network : Network, network.perform request = .failure refusal.message := by
  cases sent : request.message with
  | ok m =>
    obtain ⟨url, -, -, -, u, addressed, -, -⟩ := message_eq_ok_iff.1 sent
    rw [Request.address, query] at addressed
    simp only [unwritten] at addressed
    cases addressed
  | error refusal =>
    refine ⟨refusal, rfl, fun network => ?_⟩
    rw [Network.perform, sent]

end Requests

/-- An object in the payload of a GET arrives whole or not at all. If its values are strings,
booleans and integers, a server that gets the message reads the pairs of the URL and then the
members, in their order; the message is sent unless URL or headers forbid that. With an array or an
object inside, the outcome is a failure on every network. -/
theorem payload_arrives_whole (call : Call) (bases : Bases) (token : Option String)
    (members : Members) (get : call.method = .get)
    (payload : call.payload = some (.object members)) :
    ((∀ member ∈ members, member.2.IsPlain) → ∃ pairs, List.Forall₂ Shows members pairs ∧
      (members.Ordered → (pairs.map Prod.fst).Pairwise (· < ·)) ∧
      (∀ m, (call.resolve bases token).message = .ok m → m.method = .get ∧ m.body = none ∧
        ∃ url, Url.parse (call.resolve bases token).url.toList = .ok url ∧
          m.pairs = Form.read (url.query.getD []) ++ pairs.map Form.bytes) ∧
      ((∃ m, (call.resolve bases token).message = .ok m) ↔
        ∃ url, Url.parse (call.resolve bases token).url.toList = .ok url ∧ hasHost url = true ∧
          (call.resolve bases token).headers.all isHeader = true ∧
          isWebAddress { (cutCredentials url).1 with
            query := Form.append url.query pairs } = true)) ∧
    ∀ key value, (key, value) ∈ members → value.IsContainer →
      ∃ refusal, (call.resolve bases token).message = .error refusal ∧
        ∀ network : Network, network.perform (call.resolve bases token) =
          .failure refusal.message := by
  have query : (call.resolve bases token).query = some (.object members) := by
    rw [Call.resolve, if_pos get, payload]
  have json : (call.resolve bases token).json = none := by
    simp only [Call.resolve, get, reduceCtorEq, or_self, if_false]
  refine ⟨fun plain => ?_, fun key value inside container =>
    refused_of_noPairs query (Form.pairs?_of_container inside container)⟩
  obtain ⟨pairs, written, shown⟩ := Form.exists_pairs plain
  refine ⟨pairs, shown, fun ordered => ?_, fun m sent => ?_,
    exists_message_iff_of_pairs query written⟩
  · rw [keys_of_shows shown]
    exact List.pairwise_map.2 ordered
  · refine ⟨?_, ?_, pairs_of_message query written sent⟩
    all_goals obtain ⟨_, _, _, _, _, _, _, rfl⟩ := message_eq_ok_iff.1 sent
    · exact get
    · rw [json]
      rfl

def filters : Members :=
  [("q", .string "a&b = 50%+c"), ("größe", .string "ü"), ("all", .bool true), ("since", .int (-3))]

def searching (payload : Json) : Call where
  method := .get
  path := "/users?limit=5&"
  payload := payload

def searched : Bases := ⟨"http://api.test", "http://api.test/api/v1"⟩

theorem filters_arrive_whole :
    (∃ m pairs, ((searching (.ofMembers filters)).resolve searched none).message = .ok m ∧
      m.body = none ∧ List.Forall₂ Shows (Members.ofList filters) pairs ∧
      (pairs.map Prod.fst).Pairwise (· < ·) ∧
      m.pairs = Form.read "limit=5&".toList ++ pairs.map Form.bytes) ∧
    ∃ reason, ∀ network : Network, network.perform
      ((searching (.object [("ids", .array [.int 1])])).resolve searched none) =
        .failure reason := by
  constructor
  · have plain : ∀ member ∈ filters, member.2.IsPlain := by
      simp only [filters, List.forall_mem_cons]
      exact ⟨.string _, .string _, .bool _, .integer _, nofun⟩
    obtain ⟨pairs, shown, ordered, arrives, -⟩ :=
      (payload_arrives_whole (searching (.ofMembers filters)) searched none _ rfl rfl).1
        fun member inside => plain member (Members.mem_of_mem_ofList inside)
    have built : ((searching (.ofMembers filters)).resolve searched none).message.isOk = true := by
      decide +kernel
    have parsed : (Url.parse ((searching (.ofMembers filters)).resolve searched
        none).url.toList).toOption.map Url.query = some (some "limit=5&".toList) := by
      decide +kernel
    cases sent : ((searching (.ofMembers filters)).resolve searched none).message with
    | error refusal => rw [sent] at built; cases built
    | ok m =>
      obtain ⟨-, body, url, read, whole⟩ := arrives m sent
      rw [read] at parsed
      have query : url.query = some "limit=5&".toList := Option.some.inj parsed
      rw [query] at whole
      exact ⟨m, pairs, rfl, body, shown, ordered (Members.ordered_ofList _), whole⟩
  · obtain ⟨refusal, -, failed⟩ :=
      (payload_arrives_whole (searching _) searched none _ rfl rfl).2 "ids" _
        List.mem_cons_self (.array _)
    exact ⟨_, failed⟩

end Http

end PanelProbe
