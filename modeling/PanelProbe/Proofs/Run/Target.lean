import PanelProbe.Proofs.Http.Target
import PanelProbe.Proofs.Run.LastStored
import PanelProbe.Proofs.Url.Host

/-!
The targets of deletions. An identifier is one segment of the path, and the client resolves dot
segments in the whole path: an identifier that is one names another resource than its own.
-/

set_option autoImplicit false

namespace PanelProbe.Run

open Url

/-- The last segment of a collection's path. -/
def shelf : ResourceKind → List Char
  | .user => "users".toList
  | .node => "nodes".toList
  | .plan => "plans".toList

private theorem toList_collection (kind : ResourceKind) :
    kind.collection.toList = '/' :: ("admin".toList ++ '/' :: shelf kind) := by
  cases kind <;> rfl

def written (id : ResourceId) : List Char :=
  Percent.encode Percent.isUnreserved id.text.toList

private theorem toList_url_deletion (bases : Http.Bases) (access : Option String)
    (kind : ResourceKind) (id : ResourceId) : ((deletion kind id).resolve bases access).url.toList =
      bases.api.toList ++ '/' :: ("admin".toList ++ '/' :: (shelf kind ++ '/' :: written id)) := by
  change (bases.api ++ (kind.collection ++ "/" ++ id.segment)).toList = _
  simp [toList_collection, ResourceId.segment, written]

private theorem unreserved_admin : ∀ c ∈ "admin".toList, Percent.isUnreserved c = true :=
  List.all_eq_true.1 (by decide)

private theorem unreserved_shelf (kind : ResourceKind) :
    ∀ c ∈ shelf kind, Percent.isUnreserved c = true := by
  cases kind <;> exact List.all_eq_true.1 (by decide)

private theorem keptInPath_deletion (kind : ResourceKind) (id : ResourceId) :
    ∀ c ∈ "admin".toList ++ '/' :: (shelf kind ++ '/' :: written id), keptInPath c = true := by
  have slash : keptInPath '/' = true := by decide
  simp only [List.forall_mem_append, List.forall_mem_cons]
  exact ⟨fun c mem => (keptInPath_of_isUnreserved (unreserved_admin c mem)).1, slash,
    fun c mem => (keptInPath_of_isUnreserved (unreserved_shelf kind c mem)).1, slash,
    fun c mem => (keptInPath_of_mem_encode mem).1⟩

private theorem splitPath_deletion (kind : ResourceKind) (id : ResourceId) :
    splitPath true ("admin".toList ++ '/' :: (shelf kind ++ '/' :: written id)) =
      ["admin".toList, shelf kind, written id] := by
  have first : ∀ c ∈ "admin".toList, isSlash true c = false :=
    fun c mem => (keptInPath_of_isUnreserved (unreserved_admin c mem)).2
  have second : ∀ c ∈ shelf kind, isSlash true c = false :=
    fun c mem => (keptInPath_of_isUnreserved (unreserved_shelf kind c mem)).2
  have third : ∀ c ∈ written id, isSlash true c = false :=
    fun c mem => (keptInPath_of_mem_encode mem).2
  rw [splitPath_append_slash, splitPath_append_slash, splitPath_of_forall first,
    splitPath_of_forall second, splitPath_of_forall third]
  rfl

private theorem plain_shelf (kind : ResourceKind) : Plain (shelf kind) := by
  cases kind <;> exact ⟨by decide, by decide, by decide⟩

private theorem plain_written {id : ResourceId} (single : id.text ≠ ".") (double : id.text ≠ "..") :
    Plain (written id) := by
  have apart (n : Nat) (other : id.text.toList ≠ List.replicate n '.') :
      isDots n (written id) = false := by
    rw [Bool.eq_false_iff]
    exact fun dots => other ((isDots_encode_iff n _).1 dots)
  refine ⟨apart 1 fun same => single (String.toList_inj.1 same),
    apart 2 fun same => double (String.toList_inj.1 same), Percent.encode_of_kept fun c mem => ?_⟩
  have kept := (keptInPath_of_mem_encode mem).1
  exact ⟨by have := (toNat_of_keptInPath kept).2; omega, kept⟩

/-- The path of a deletion behind the segments of the API. -/
def resolved (kept : List (List Char)) (kind : ResourceKind) (id : ResourceId) : Url.Path :=
  .segments (resolveDots false kept
    (splitPath true ("admin".toList ++ '/' :: (shelf kind ++ '/' :: written id))))

private theorem resolved_eq (kept : List (List Char)) (kind : ResourceKind) (id : ResourceId) :
    resolved kept kind id = .segments (resolveDots false (shelf kind :: "admin".toList :: kept)
      [written id]) := by
  have admin : Plain "admin".toList := ⟨by decide, by decide, by decide⟩
  rw [resolved, splitPath_deletion, resolveDots_cons_of_plain admin,
    resolveDots_cons_of_plain (plain_shelf kind)]

private theorem text_resolved (kept : List (List Char)) (kind : ResourceKind) {id : ResourceId}
    (single : id.text ≠ ".") (double : id.text ≠ "..") :
    (resolved kept kind id).text = (Path.segments kept.reverse).text ++ kind.collection.toList ++
      '/' :: written id := by
  rw [resolved_eq, resolveDots_cons_of_plain (plain_written single double), toList_collection]
  simp [resolveDots, Path.text]

private theorem text_resolved_point (kept : List (List Char)) (kind : ResourceKind) :
    (resolved kept kind ⟨"."⟩).text =
      (Path.segments kept.reverse).text ++ kind.collection.toList ++ ['/'] := by
  rw [resolved_eq, toList_collection]
  have dots : isDots 1 (written ⟨"."⟩) = true := by decide
  have other : isDots 2 (written ⟨"."⟩) = false := by decide
  simp [resolveDots, dots, other, Path.text]

private theorem text_resolved_points (kept : List (List Char)) (kind : ResourceKind) :
    (resolved kept kind ⟨".."⟩).text =
      (Path.segments kept.reverse).text ++ '/' :: "admin".toList ++ ['/'] := by
  rw [resolved_eq]
  have dots : isDots 2 (written ⟨".."⟩) = true := by decide
  have drive : isDrive (shelf kind) = false := by cases kind <;> decide
  simp [resolveDots, dots, shorten, drive, Path.text]

/-- The target of `v` is the path of the API at `u`, the collection of the kind, and one segment
that stands for the identifier; there is no query. The slash behind the API belongs to `u`. -/
def Addresses (u v : Url) (kind : ResourceKind) (id : ResourceId) : Prop :=
  v.query = none ∧ ∃ stem name, u.path.text = stem ++ ['/'] ∧
    v.target = stem ++ kind.collection.toList ++ '/' :: name ∧ '/' ∉ name ∧
    Percent.decode name = Percent.bytes id.text.toList

private theorem slash_notMem_written (id : ResourceId) : '/' ∉ written id := by
  intro mem
  have splits : isSlash true '/' = false := (keptInPath_of_mem_encode mem).2
  cases splits

private theorem decode_written (id : ResourceId) :
    Percent.decode (written id) = Percent.bytes id.text.toList :=
  Percent.decode_encodeBytes (by decide) _

private theorem addresses_resolved_iff {u : Url} {kept : List (List Char)}
    (noQuery : u.query = none)
    (path : u.path = .segments (kept.reverse ++ [[]])) (kind : ResourceKind) (id : ResourceId) :
    Addresses u { u with path := resolved kept kind id } kind id ↔
      id.text ≠ "." ∧ id.text ≠ ".." := by
  have base : u.path.text = (Path.segments kept.reverse).text ++ ['/'] := by simp [path, Path.text]
  have target : ({ u with path := resolved kept kind id } : Url).target =
      (resolved kept kind id).text := by simp [Url.target, Url.queryText, noQuery]
  constructor
  · rintro ⟨-, stem, name, above, below, -, decoded⟩
    have same : stem = (Path.segments kept.reverse).text :=
      List.append_cancel_right (above.symm.trans base)
    rw [target, same] at below
    constructor <;> intro dots
    · obtain rfl : id = ⟨"."⟩ := congrArg ResourceId.mk dots
      rw [text_resolved_point] at below
      obtain ⟨-, rfl⟩ := List.cons.inj (List.append_cancel_left below)
      cases decoded
    · obtain rfl : id = ⟨".."⟩ := congrArg ResourceId.mk dots
      rw [text_resolved_points, toList_collection] at below
      have lengths := congrArg List.length below
      simp only [List.length_append, List.length_cons, List.length_nil] at lengths
      omega
  · rintro ⟨single, double⟩
    exact ⟨noQuery, _, written id, base, target.trans (text_resolved kept kind single double),
      slash_notMem_written id, decode_written id⟩

private theorem addresses_deletion_iff {bases : Http.Bases} {u : Url}
    (parsed : Url.parse (bases.api ++ "/").toList = .ok u)
    (web : u.scheme = "http" ∨ u.scheme = "https") (access : Option String) (kind : ResourceKind)
    (id : ResourceId) :
    ∃ v, Url.parse ((deletion kind id).resolve bases access).url.toList = .ok v ∧
      v.scheme = u.scheme ∧ (Addresses u v kind id ↔
        id.text ≠ "." ∧ id.text ≠ ".." ∧ u.query = none ∧ u.fragment = none) := by
  rw [String.toList_append] at parsed
  rw [toList_url_deletion]
  -- The path behind the API ends up in its fragment, its query or its path.
  cases grows_of_parse parsed web with
  | inFragment present grown =>
    obtain ⟨fragment, read⟩ := grown _ (keptInPath_deletion kind id)
    refine ⟨_, read, rfl, ?_, fun h => absurd h.2.2.2 present⟩
    rintro ⟨noQuery, stem, name, above, below, -, -⟩
    have target : ({ u with fragment := some fragment } : Url).target = u.path.text := by
      have noQuery : u.query = none := noQuery
      simp [Url.target, Url.queryText, noQuery]
    rw [target, above, toList_collection] at below
    have lengths := congrArg List.length below
    simp only [List.length_append, List.length_cons, List.length_nil] at lengths
    omega
  | inQuery noFragment present grown =>
    obtain ⟨query, read⟩ := grown _ (keptInPath_deletion kind id)
    refine ⟨_, read, rfl, ?_, fun h => absurd h.2.2.1 present⟩
    rintro ⟨noQuery, -⟩
    cases noQuery
  | inPath kept noFragment noQuery path grown =>
    refine ⟨_, grown _ (keptInPath_deletion kind id), rfl,
      (addresses_resolved_iff noQuery path kind id).trans ?_⟩
    simp only [noQuery, noFragment, and_true]

/-- Cleaning up sends one request for an identifier that is held. Its address is a URL whenever that
of the API with a slash behind it is one of the web, and it goes out as far as the token and the
client's limits allow. What the server sees is the path of the API, the collection, and a segment
for the identifier just if the identifier is no dot segment and the address of the API has neither
query nor fragment. -/
theorem delete_target_iff (setting : Setting) {s : State} {kind : ResourceKind} {id : ResourceId}
    {u : Url} (held : s.session.id? kind = some id)
    (parsed : Url.parse (setting.bases.api ++ "/").toList = .ok u)
    (web : u.scheme = "http" ∨ u.scheme = "https") :
    ∃ request v, (delete setting kind s).state.requests = s.requests ++ [request] ∧
      Url.parse request.url.toList = .ok v ∧
      (Addresses u v kind id ↔
        id.text ≠ "." ∧ id.text ≠ ".." ∧ u.query = none ∧ u.fragment = none) ∧
      ((∃ m, request.message = .ok m) ↔ request.headers.all Http.isHeader = true ∧
        Http.isWebAddress (Http.cutCredentials v).1 = true) ∧
      ∀ m, request.message = .ok m → m.method = .delete ∧ m.target = String.ofList v.target := by
  have sent : (delete setting kind s).state.requests =
      s.requests ++ [(deletion kind id).resolve setting.bases s.session.access] := by
    rw [resolve_deletion]
    exact (removes_delete setting held).requests
  obtain ⟨v, read, same, addresses⟩ :=
    addresses_deletion_iff parsed web s.session.access kind id
  have host := hasHost_of_parse read (same.symm ▸ web)
  refine ⟨_, v, sent, read, addresses, Http.exists_message_iff rfl read host, fun m built => ?_⟩
  obtain ⟨method, target⟩ := Http.target_of_message rfl read built
  exact ⟨method, congrArg String.ofList target⟩

def holding (text : String) : State :=
  { session := { user := some ⟨text⟩ } }

theorem slashed_user_addressed :
    ∃ request u v m, (delete numbered .user (holding "7/8")).state.requests = [request] ∧
      Url.parse (numbered.bases.api ++ "/").toList = .ok u ∧ Addresses u v .user ⟨"7/8"⟩ ∧
      request.message = .ok m ∧ m.target = String.ofList v.target := by
  have parsed : Url.parse (numbered.bases.api ++ "/").toList =
      .ok ⟨"http", [], none, some (.name "api.test".toList), none,
        .segments ["api".toList, "v1".toList, []], none, none⟩ := by decide +kernel
  have built : (((deletion .user ⟨"7/8"⟩).resolve numbered.bases none).message).isOk = true := by
    decide +kernel
  have held : (holding "7/8").session.id? .user = some ⟨"7/8"⟩ := rfl
  obtain ⟨request, v, sent, -, addresses, -, target⟩ :=
    delete_target_iff numbered held parsed (.inl rfl)
  obtain ⟨rfl, -⟩ := List.cons.inj sent
  cases message : ((deletion .user ⟨"7/8"⟩).resolve numbered.bases none).message with
  | error refusal => rw [message] at built; cases built
  | ok m =>
    exact ⟨_, _, v, m, sent, parsed, addresses.2 ⟨by decide, by decide, rfl, rfl⟩, message,
      (target m message).2⟩

/-- Two points are an identifier that the deletion does not address: the request goes out and its
target is no user at all. -/
theorem points_not_addressed :
    ResourceId.ofJson? (.string "..") = some ⟨".."⟩ ∧
    ∃ request m, (delete numbered .user (holding "..")).state.requests = [request] ∧
      request.message = .ok m ∧ m.target = "/api/v1/admin/" := by
  have target : (((deletion .user ⟨".."⟩).resolve numbered.bases none).message).toOption.map
      Http.Message.target = some "/api/v1/admin/" := by decide +kernel
  cases message : ((deletion .user ⟨".."⟩).resolve numbered.bases none).message with
  | error refusal => rw [message] at target; cases target
  | ok m =>
    rw [message] at target
    exact ⟨rfl, _, m, rfl, message, Option.some.inj target⟩

end PanelProbe.Run
