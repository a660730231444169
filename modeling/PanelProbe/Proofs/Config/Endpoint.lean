import PanelProbe.Config.Basic
import PanelProbe.Proofs.Url.Server

/-!
Endpoints of a configuration. Paths are put behind the base address of their scope as plain text. So
they are reached on the server just if no query and no fragment begins in front of them, and if the
base address is still one with a slash behind it.
-/

set_option autoImplicit false

namespace PanelProbe.Config

open Url

/-- A path from the root that stays as it is written: of unreserved characters between slashes, and
without dot segments. -/
structure IsEndpoint (path : String) : Prop where
  rooted : path.toList.head? = some '/'
  plain : ∀ c ∈ path.toList, c = '/' ∨ Percent.isUnreserved c = true
  noDots : ∀ name ∈ path.toList.splitOn '/', name ≠ ['.'] ∧ name ≠ ['.', '.']

structure SameServer (u v : Url) : Prop where
  scheme : v.scheme = u.scheme
  host : v.host = u.host
  port : v.port = u.port

/-- What the paths of a scope stand behind: nothing, or the path of the prefix. -/
def IsStem (c : Config) : Http.Scope → List Char → Prop
  | .root, stem => stem = []
  | .api, stem => ∃ w, parse ("http://localhost" ++ c.apiPrefix ++ "/").toList = .ok w ∧
      w.path.text = stem ++ ['/']

/-- The address of a call is a URL of the server at the base address, and its path ends with that of
the call behind that of its scope. -/
def Reaches (c : Config) (call : Http.Call) (token : Option String) : Prop :=
  ∃ u v stem, parse c.baseUrl.toList = .ok u ∧
    parse (call.resolve c.bases token).url.toList = .ok v ∧ SameServer u v ∧
    c.IsStem call.scope stem ∧ stem ++ call.path.toList <:+ v.path.text

/-! Configurations that are resolved. -/

variable {c c' : Config} {o : Overrides}

/-- What holds of the addresses of a resolved configuration. -/
structure Settled (c : Config) : Prop where
  web : ∃ u, parse c.baseUrl.toList = .ok u ∧ (u.scheme = "http" ∨ u.scheme = "https")
  rooted : c.apiPrefix.toList = [] ∨ ∃ path, c.apiPrefix.toList = '/' :: path

theorem web_of_checkedBaseUrl {raw text : String} (checked : checkedBaseUrl raw = .ok text) :
    ∃ u, parse text.toList = .ok u ∧ (u.scheme = "http" ∨ u.scheme = "https") := by
  unfold checkedBaseUrl at checked
  dsimp only at checked
  split at checked
  · cases checked
  · rename_i u parsed
    split at checked
    · rename_i web
      obtain rfl := Except.ok.inj checked
      rw [String.toList_ofList]
      exact ⟨u, parsed, by simpa using web⟩
    · cases checked

theorem rooted_rootedPath (path : String) : (rootedPath path).toList = [] ∨
    ∃ rest, (rootedPath path).toList = '/' :: rest := by
  rw [rootedPath, String.toList_ofList, withoutSlashes]
  obtain ⟨dropped, -, whole⟩ := Text.exists_dropEnd (· == '/')
    (if path.toList.head? == some '/' then path.toList else '/' :: path.toList)
  have first : (if path.toList.head? == some '/' then path.toList
      else '/' :: path.toList).head? = some '/' := by
    split
    · exact beq_iff_eq.1 ‹_›
    · rfl
  rw [whole, List.head?_append] at first
  cases kept : Text.dropEnd (· == '/')
      (if path.toList.head? == some '/' then path.toList else '/' :: path.toList) with
  | nil => exact .inl rfl
  | cons d rest =>
    rw [kept] at first
    exact .inr ⟨rest, by rw [← Option.some.inj first]⟩

private theorem settled_of_resolve (accepted : c.resolve o = .ok c') : Settled c' := by
  unfold resolve at accepted
  dsimp only at accepted
  obtain ⟨text, checked, accepted⟩ := ok_of_bind_eq_ok accepted
  split at accepted
  · cases accepted
  · obtain rfl := Except.ok.inj accepted
    exact ⟨web_of_checkedBaseUrl checked, rooted_rootedPath _⟩

/-! Paths of calls. -/

private theorem IsEndpoint.exists_cons {path : String} (h : IsEndpoint path) :
    ∃ more, path.toList = '/' :: more ∧ (∀ c ∈ more, keptInPath c = true) ∧ '\\' ∉ more ∧
      ∀ name ∈ splitPath true more, Plain name := by
  obtain ⟨more, whole⟩ : ∃ more, path.toList = '/' :: more := by
    cases chars : path.toList with
    | nil => have first := h.rooted; rw [chars] at first; cases first
    | cons c more =>
      have first := h.rooted
      rw [chars] at first
      exact ⟨more, by rw [Option.some.inj first]⟩
  have kept : ∀ c ∈ '/' :: more, keptInPath c = true ∧ c ≠ '%' ∧ c ≠ '\\' := by
    intro c member
    rw [← whole] at member
    obtain rfl | plain := h.plain c member
    · decide
    · refine ⟨(keptInPath_of_isUnreserved plain).1, ?_, ?_⟩ <;> rintro rfl <;> cases plain
  have noBackslash : '\\' ∉ more := fun member =>
    (kept _ (List.mem_cons_of_mem _ member)).2.2 rfl
  have inside : ∀ name ∈ splitPath true more, ∀ c ∈ name, c ∈ '/' :: more := by
    intro name part c member
    rw [← flatMap_splitPath noBackslash]
    exact List.mem_flatMap.2 ⟨name, part, List.mem_cons_of_mem _ member⟩
  refine ⟨more, whole, fun c member => (kept c (List.mem_cons_of_mem _ member)).1, noBackslash,
    fun name part => ?_⟩
  have noSign : '%' ∉ name := fun member => (kept _ (inside name part _ member)).2.1 rfl
  have apart := h.noDots name (by
    rw [whole, ← splitPath_eq_splitOn fun member => (kept _ member).2.2 rfl]
    exact List.mem_cons_of_mem _ part)
  refine ⟨?_, ?_, Percent.encode_of_kept fun c member => ?_⟩
  · exact Bool.eq_false_iff.2 fun dots => apart.1 (eq_replicate_of_isDots noSign dots)
  · exact Bool.eq_false_iff.2 fun dots => apart.2 (eq_replicate_of_isDots noSign dots)
  · have stays := (kept c (inside name part c member)).1
    exact ⟨(toNat_of_keptInPath stays).2.trans (by decide), stays⟩

private theorem isEndpoint_long (n : Nat) :
    IsEndpoint (String.ofList ('/' :: List.replicate n 'a')) := by
  have letters : ∀ c ∈ List.replicate n 'a', c = 'a' := fun c => List.eq_of_mem_replicate
  refine ⟨by simp, ?_, ?_⟩ <;> rw [String.toList_ofList]
  · intro c member
    obtain rfl | letter := List.mem_cons.1 member
    · exact .inl rfl
    · rw [letters c letter]
      exact .inr (by decide)
  · have parts : ('/' :: List.replicate n 'a').splitOn '/' = [[], List.replicate n 'a'] := by
      rw [List.splitOn, List.splitOnP_cons_eq_if_modifyHead, if_pos (by rfl),
        List.splitOnP_eq_singleton fun c member => by rw [letters c member]; rfl]
    rw [parts]
    intro name member
    have point : '.' ∉ name := by
      rintro inside
      obtain rfl | same := List.mem_cons.1 member
      · cases inside
      · rw [List.mem_singleton.1 same] at inside
        cases letters _ inside
    constructor <;> rintro rfl <;> simp at point

/-! Addresses. -/

variable {base : List Char} {u : Url} {kept : List (List Char)}

private theorem exists_of_extends (goes : Extends base u kept) {path : String}
    (h : IsEndpoint path) :
    ∃ v, parse (base ++ path.toList) = .ok v ∧ SameServer u v ∧
      v.path.text = (Path.segments kept.reverse).text ++ path.toList := by
  obtain ⟨more, whole, stays, noBackslash, plain⟩ := h.exists_cons
  have unmarked : Unmarked more :=
    ⟨fun member => ne_of_keptInPath (stays _ member) (by decide) rfl,
      fun member => ne_of_keptInPath (stays _ member) (by decide) rfl⟩
  have read := goes more (closed_of_kept stays) unmarked
  rw [tabless_of_kept stays, resolveDots_of_plain plain] at read
  refine ⟨{ u with path := .segments (kept.reverse ++ splitPath true more) }, by rw [whole, read],
    ⟨rfl, rfl, rfl⟩, ?_⟩
  simp only [Path.text, List.flatMap_append, flatMap_splitPath noBackslash, whole]

private theorem exists_extends_localhost : ∃ u, Extends "http://localhost".toList u [] := by
  have alone : parse "http://localhost".toList = .ok ⟨"http", [], none,
      some (.name "localhost".toList), none, .segments [[]], none, none⟩ := by decide +kernel
  have slashed : parse ("http://localhost".toList ++ ['/']) = .ok ⟨"http", [], none,
      some (.name "localhost".toList), none, .segments [[]], none, none⟩ := by decide +kernel
  have unmarked : Unmarked "http://localhost".toList := ⟨by decide, by decide⟩
  obtain ⟨fault, fails⟩ | ⟨kept, goes⟩ := parse_joined alone (.inl rfl) unmarked
  · have failed := fails [] closed_nil unmarked_nil
    rw [slashed] at failed
    cases failed
  · have read := goes.slash
    rw [slashed] at read
    have names := congrArg Url.path (Except.ok.inj read)
    have none : kept = [] := by simpa using names
    exact ⟨_, none ▸ goes⟩

private theorem toList_api (c : Config) :
    (c.bases.of .api).toList = c.baseUrl.toList ++ c.apiPrefix.toList := String.toList_append

private theorem toList_url (call : Http.Call) (token : Option String) :
    (call.resolve c.bases token).url.toList =
      (c.bases.of call.scope).toList ++ call.path.toList := String.toList_append

private theorem exists_extends_scope (settled : Settled c) (goes : Extends c.baseUrl.toList u kept)
    {scope : Http.Scope} (unmarked : Unmarked (c.bases.of scope).toList) :
    ∃ stem left, Extends (c.bases.of scope).toList u (stem ++ left) ∧
      c.IsStem scope (Path.segments stem.reverse).text := by
  cases scope with
  | root => exact ⟨[], kept, goes, rfl⟩
  | api =>
    have joined := toList_api c
    obtain ⟨w, alone⟩ := exists_extends_localhost
    have isStem {stem : List (List Char)}
        (behind : Extends ("http://localhost".toList ++ c.apiPrefix.toList) w stem) :
        c.IsStem .api (Path.segments stem.reverse).text := by
      refine ⟨{ w with path := .segments (stem.reverse ++ [[]]) }, ?_, by simp [Path.text]⟩
      rw [String.toList_append, String.toList_append]
      exact behind.slash
    obtain blank | ⟨path, rooted⟩ := settled.rooted
    · rw [blank, List.append_nil] at isStem joined
      exact ⟨[], kept, joined ▸ goes, isStem alone⟩
    · rw [joined, rooted] at unmarked
      have between := unmarked_slash_iff.1 (unmarked_append_iff.1 unmarked).2
      obtain ⟨left, below⟩ := foldl_pass_append [] kept (splitPath true (tabless path))
      refine ⟨_, left, ?_, isStem (rooted ▸ alone.append between)⟩
      rw [joined, rooted, ← below]
      exact goes.append between

private theorem unmarked_baseUrl {scope : Http.Scope}
    (unmarked : Unmarked (c.bases.of scope).toList) :
    Unmarked c.baseUrl.toList := by
  cases scope with
  | root => exact unmarked
  | api =>
    rw [toList_api] at unmarked
    exact (unmarked_append_iff.1 unmarked).1

private theorem reaches_of_unmarked (settled : Settled c) {call : Http.Call}
    (unmarked : Unmarked (c.bases.of call.scope).toList)
    (slashed : ∃ v, parse (c.baseUrl ++ "/").toList = .ok v) (token : Option String)
    (h : IsEndpoint call.path) : Reaches c call token := by
  obtain ⟨u, parsed, web⟩ := settled.web
  obtain ⟨fault, fails⟩ | ⟨kept, goes⟩ := parse_joined parsed web (unmarked_baseUrl unmarked)
  · obtain ⟨v, read⟩ := slashed
    have failed := fails [] closed_nil unmarked_nil
    rw [String.toList_append] at read
    rw [show "/".toList = ['/'] from rfl, failed] at read
    cases read
  · obtain ⟨stem, left, behind, isStem⟩ := exists_extends_scope settled goes unmarked
    obtain ⟨v, read, same, path⟩ := exists_of_extends behind h
    refine ⟨u, v, _, parsed, by rw [toList_url, read], same, isStem, ?_⟩
    rw [path]
    refine ⟨(Path.segments left.reverse).text, ?_⟩
    simp [Path.text]

private theorem exists_slashed (settled : Settled c) {scope : Http.Scope}
    (unmarked : Unmarked (c.bases.of scope).toList) : ∃ more,
      (c.bases.of scope).toList ++ ['/'] = c.baseUrl.toList ++ '/' :: more ∧
        Closed more ∧ Unmarked more := by
  cases scope with
  | root => exact ⟨[], rfl, closed_nil, unmarked_nil⟩
  | api =>
    have joined := toList_api c
    rw [joined] at unmarked ⊢
    obtain blank | ⟨path, rooted⟩ := settled.rooted
    · exact ⟨[], by rw [blank, List.append_nil], closed_nil, unmarked_nil⟩
    · rw [rooted] at unmarked ⊢
      have between := unmarked_slash_iff.1 (unmarked_append_iff.1 unmarked).2
      exact ⟨path ++ ['/'], by simp, closed_nil.append_cons path,
        unmarked_append_iff.2 ⟨between, unmarked_slash_iff.2 unmarked_nil⟩⟩

def probe (scope : Http.Scope) (n : Nat) : Http.Call where
  method := .get
  path := String.ofList ('/' :: List.replicate n 'a')
  scope := scope

private theorem toList_url_probe (c : Config) (scope : Http.Scope) (n : Nat) :
    ((probe scope n).resolve c.bases none).url.toList =
      (c.bases.of scope).toList ++ '/' :: List.replicate n 'a' := by
  rw [toList_url, probe, String.toList_ofList]

private theorem grows_of_reaches {scope : Http.Scope}
    (reached : ∀ n, Reaches c (probe scope n) none)
    (path : Path) : ¬∀ more, (∀ c ∈ more, keptInPath c = true) → ∃ w,
      parse ((c.bases.of scope).toList ++ '/' :: more) = .ok w ∧ w.path = path := by
  intro stuck
  have letters : ∀ d ∈ List.replicate path.text.length 'a', keptInPath d = true := by
    intro d member
    rw [List.eq_of_mem_replicate member]
    decide
  obtain ⟨w, long, same⟩ := stuck _ letters
  obtain ⟨-, w', stem, -, given, -, -, ends⟩ := reached path.text.length
  rw [toList_url_probe, long] at given
  obtain rfl := Except.ok.inj given
  have length := ends.length_le
  rw [same, probe, String.toList_ofList] at length
  simp only [List.length_append, List.length_cons, List.length_replicate] at length
  omega

private theorem unmarked_of_reaches (settled : Settled c) {scope : Http.Scope}
    (reached : ∀ n, Reaches c (probe scope n) none) :
    Unmarked (c.bases.of scope).toList ∧ ∃ v, parse (c.baseUrl ++ "/").toList = .ok v := by
  obtain ⟨u, parsed, web⟩ := settled.web
  obtain ⟨u', v, -, again, read, same, -⟩ := reached 0
  rw [parsed] at again
  obtain rfl := Except.ok.inj again
  rw [toList_url_probe, List.replicate_zero] at read
  have grows := grows_of_reaches reached v.path
  cases grows_of_parse read (same.scheme ▸ web) with
  | inFragment present grown =>
    refine absurd (fun more kept => ?_) grows
    obtain ⟨fragment, longer⟩ := grown more kept
    exact ⟨_, longer, rfl⟩
  | inQuery noFragment present grown =>
    refine absurd (fun more kept => ?_) grows
    obtain ⟨query, longer⟩ := grown more kept
    exact ⟨_, longer, rfl⟩
  | inPath kept noFragment noQuery path grown =>
    have unmarked := unmarked_of_parse read noQuery noFragment
    refine ⟨unmarked, ?_⟩
    obtain ⟨fault, fails⟩ | ⟨kept, goes⟩ := parse_joined parsed web (unmarked_baseUrl unmarked)
    · obtain ⟨more, joined, closed, later⟩ := exists_slashed settled unmarked
      rw [joined, fails more closed later] at read
      cases read
    · rw [String.toList_append]
      exact ⟨_, goes.slash⟩

/-- On the server at its base address a resolved configuration reaches all endpoints of a scope just
if no mark of query or fragment stands in front of them and the base address is still a URL with a
slash behind it. -/
theorem reaches_endpoints_iff (accepted : c.resolve o = .ok c') (scope : Http.Scope) :
    (∀ (call : Http.Call) (token : Option String), call.scope = scope → IsEndpoint call.path →
        Reaches c' call token) ↔
      '?' ∉ (c'.bases.of scope).toList ∧ '#' ∉ (c'.bases.of scope).toList ∧
        ∃ v, parse (c'.baseUrl ++ "/").toList = .ok v := by
  have settled := settled_of_resolve accepted
  constructor
  · intro reached
    obtain ⟨unmarked, slashed⟩ := unmarked_of_reaches settled fun n =>
      reached (probe scope n) none rfl (isEndpoint_long n)
    exact ⟨unmarked.1, unmarked.2, slashed⟩
  · rintro ⟨noMark, noHash, slashed⟩ call token same h
    subst same
    exact reaches_of_unmarked settled ⟨noMark, noHash⟩ slashed token h

theorem default_reaches_endpoints : resolve {} {} = .ok {} ∧
    ∀ (call : Http.Call) (token : Option String), IsEndpoint call.path → Reaches {} call token := by
  have accepted : resolve {} {} = .ok {} := by decide +kernel
  have slashed : ∃ v, parse (({} : Config).baseUrl ++ "/").toList = .ok v :=
    ⟨⟨"http", [], none, some (.name "localhost".toList), some 8080, .segments [[]], none, none⟩,
      by decide +kernel⟩
  refine ⟨accepted, fun call token h => ?_⟩
  cases scope : call.scope with
  | root =>
    exact (reaches_endpoints_iff accepted .root).2 ⟨by decide, by decide, slashed⟩ call token scope
      h
  | api =>
    exact (reaches_endpoints_iff accepted .api).2 ⟨by decide, by decide, slashed⟩ call token scope
      h

/-- A base address with a query is accepted, and its health check asks for the root. -/
theorem marked_base_unreached :
    let c : Config := { baseUrl := "http://api.test?x" }
    let call : Http.Call := { method := .get, path := "/health", scope := .root }
    resolve {} { baseUrl := some "http://api.test?x" } = .ok c ∧ IsEndpoint call.path ∧
      ¬Reaches c call none := by
  intro c call
  have letters : (call.path.toList.all fun c => c == '/' || Percent.isUnreserved c) = true := by
    decide
  have plain : ∀ c ∈ call.path.toList, c = '/' ∨ Percent.isUnreserved c = true := fun c member => by
    simpa using List.all_eq_true.1 letters c member
  refine ⟨by decide +kernel, ⟨by decide, plain, by decide⟩, ?_⟩
  rintro ⟨u, v, stem, -, read, -, -, ends⟩
  have located : parse (call.resolve c.bases none).url.toList = .ok ⟨"http", [], none,
      some (.name "api.test".toList), none, .segments [[]], some "x/health".toList, none⟩ := by
    decide +kernel
  rw [located] at read
  obtain rfl := Except.ok.inj read
  have length := (List.suffix_append stem call.path.toList).trans ends |>.length_le
  exact absurd length (by decide)

end PanelProbe.Config
