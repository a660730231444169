import PanelProbe.Config.File
import PanelProbe.Proofs.Config.Resolution

/-!
Where the values of a configuration come from. Each is the override if there is one, else what the
document gives, else the default, whatever else is given; and what comes of them is accepted just if
the address is one of the web and requests may take some time.
-/

set_option autoImplicit false

namespace PanelProbe.Config

structure Given where
  baseUrl : Option String := none
  apiPrefix : Option String := none
  timeout : Option Nat := none
  username : Option String := none
  password : Option String := none
  resultsDirectory : Option String := none
  failOnError : Option Bool := none

/-- The document has a table under the key, or nothing, and so no members of one. -/
def Has (members : Toml.Members) (key : String) (inside : Toml.Members) : Prop :=
  (members.lookup key = none ∧ inside = []) ∨
    ∃ origin, members.lookup key = some (.table origin inside)

/-- The members of a document give some values, each of its type. Other keys do not matter. -/
structure Gives (members : Toml.Members) (given : Given) : Prop where
  baseUrl : members.lookup "base_url" = given.baseUrl.map .string
  apiPrefix : members.lookup "api_prefix" = given.apiPrefix.map .string
  timeout : members.lookup "timeout_secs" = given.timeout.map fun n => .integer n
  admin : ∃ inside, Has members "admin" inside ∧
    inside.lookup "username" = given.username.map .string ∧
    inside.lookup "password" = given.password.map .string
  output : ∃ inside, Has members "output" inside ∧
    inside.lookup "results_dir" = given.resultsDirectory.map .string
  failOnError : members.lookup "fail_on_error" = given.failOnError.map .boolean

/-- The values in force: those of the overrides, then those given, then the defaults. -/
def Given.effective (given : Given) (o : Overrides) : Config where
  baseUrl := (o.baseUrl <|> given.baseUrl).getD "http://localhost:8080"
  apiPrefix := given.apiPrefix.getD "/api/v1"
  timeout := (o.timeout <|> given.timeout).getD 30
  admin := ⟨given.username.getD "admin", given.password.getD "admin123"⟩
  resultsDirectory := (o.resultsDirectory <|> given.resultsDirectory).getD "."
  failOnError := given.failOnError.getD false || o.strict

/-- What a raw path is behind one slash and then without the slashes at its end. -/
def Rooted (raw rooted : List Char) : Prop :=
  ∃ slashes, (raw.head? = some '/' ∧ raw = rooted ++ slashes ∨
      raw.head? ≠ some '/' ∧ '/' :: raw = rooted ++ slashes) ∧
    (∀ c ∈ slashes, c = '/') ∧ rooted.getLast? ≠ some '/'

private theorem rooted_iff {raw rooted : String} :
    Rooted raw.toList rooted.toList ↔ rootedPath raw = rooted := by
  have front : rootedPath raw = String.ofList (withoutSlashes
      (if raw.toList.head? = some '/' then raw.toList else '/' :: raw.toList)) := by
    simp only [rootedPath, beq_iff_eq]
  rw [front]
  constructor
  · rintro ⟨slashes, ⟨first, whole⟩ | ⟨other, whole⟩, all, last⟩
    · rw [if_pos first, whole, withoutSlashes_append last all, String.ofList_toList]
    · rw [if_neg other, whole, withoutSlashes_append last all, String.ofList_toList]
  · rintro rfl
    rw [String.toList_ofList]
    obtain ⟨slashes, all, whole⟩ := Text.exists_dropEnd (· == '/')
      (if raw.toList.head? = some '/' then raw.toList else '/' :: raw.toList)
    refine ⟨slashes, ?_, fun c member => beq_iff_eq.1 (all c member), getLast?_withoutSlashes _⟩
    by_cases first : raw.toList.head? = some '/'
    · rw [if_pos first] at whole ⊢
      exact .inl ⟨first, whole⟩
    · rw [if_neg first] at whole ⊢
      exact .inr ⟨first, whole⟩

/-! Reading. -/

variable {members inside : Toml.Members} {key : String}

private theorem value?_of_given {α : Type} {write : α → Toml} {read : Toml → Option α}
    (reads : ∀ x, read (write x) = some x) {given : Option α}
    (found : members.lookup key = given.map write) (default : α) :
    members.value? key default read = some (given.getD default) := by
  rw [Toml.Members.value?, found]
  cases given with
  | none => rfl
  | some x => exact reads x

private theorem value?_text {given : Option String} (found : members.lookup key = given.map .string)
    (default : String) : members.value? key default Toml.text? = some (given.getD default) := by
  have reads : ∀ text, Toml.text? (.string text) = some text := fun _ => rfl
  exact value?_of_given reads found default

private theorem natural?_integer (n : Nat) : Toml.natural? (.integer n) = some n := by
  simp [Toml.natural?]

private theorem value?_of_has {α : Type} {default value : α} {read : Toml → Option α}
    (has : Has members key inside)
    (reads : ∀ origin, read (.table origin inside) = some value)
    (empty : inside = [] → value = default) : members.value? key default read = some value := by
  rw [Toml.Members.value?]
  obtain ⟨absent, none⟩ | ⟨origin, table⟩ := has
  · rw [absent, empty none]
  · rw [table]
    exact reads origin

private theorem eq_none_of_lookup {α : Type} {write : α → Toml} {given : Option α}
    (found : List.lookup key inside = given.map write) (empty : inside = []) : given = none := by
  rw [empty] at found
  exact Option.map_eq_none_iff.1 found.symm

private theorem credentials?_table {username password : Option String} (origin : Toml.Origin)
    (first : inside.lookup "username" = username.map .string)
    (second : inside.lookup "password" = password.map .string) :
    credentials? (.table origin inside) =
      some ⟨username.getD "admin", password.getD "admin123"⟩ := by
  have name := value?_text first "admin"
  have word := value?_text second "admin123"
  simp only [credentials?, Toml.section?, Option.bind_eq_bind, Option.bind_some, name, word]

private theorem output?_table {directory : Option String} (origin : Toml.Origin)
    (found : inside.lookup "results_dir" = directory.map .string) :
    output? (.table origin inside) = some (directory.getD ".") := by
  have path := value?_text found "."
  simp only [output?, Toml.section?, Option.bind_eq_bind, Option.bind_some, path]

private theorem ofMembers?_of_gives {given : Given} (gives : Gives members given) :
    ofMembers? members = some (given.effective {}) := by
  obtain ⟨credentials, hasAdmin, username, password⟩ := gives.admin
  obtain ⟨files, hasOutput, directory⟩ := gives.output
  have base := value?_text gives.baseUrl "http://localhost:8080"
  have stem := value?_text gives.apiPrefix "/api/v1"
  have time := value?_of_given natural?_integer gives.timeout 30
  have flag : ∀ b, Toml.flag? (.boolean b) = some b := fun _ => rfl
  have fail := value?_of_given flag gives.failOnError false
  have admin : members.value? "admin" {} credentials? =
      some ⟨given.username.getD "admin", given.password.getD "admin123"⟩ := by
    refine value?_of_has hasAdmin (fun origin => credentials?_table origin username password) ?_
    intro empty
    rw [eq_none_of_lookup username empty, eq_none_of_lookup password empty]
    rfl
  have output : members.value? "output" "." output? = some (given.resultsDirectory.getD ".") := by
    refine value?_of_has hasOutput (fun origin => output?_table origin directory) ?_
    intro empty
    rw [eq_none_of_lookup directory empty]
    rfl
  simp only [ofMembers?, Option.bind_eq_bind, base, stem, time, fail, admin, output,
    Option.bind_some, Given.effective, Bool.or_false]
  rfl

private theorem override_effective (given : Given) (o : Overrides) :
    (given.effective {}).override o = given.effective o := by
  obtain ⟨url, directory, time, strict⟩ := o
  cases url <;> cases directory <;> cases time <;> simp [override, Given.effective]

private theorem ofText_of_gives {text : String} {given : Given}
    (read : Toml.parse? text = some members)
    (gives : Gives members given) : ofText text = .ok (given.effective {}) := by
  rw [ofText, read]
  dsimp only
  rw [ofMembers?_of_gives gives]

/-- A document that gives values, and overrides, make up the values in force. These are accepted
just if the base address is one of the web when it is trimmed and the time is not zero, and are then
used as they are but for the address and the prefix. The address is blamed first, as it was
given. -/
theorem sources_merged {text : String} {given : Given} (read : Toml.parse? text = some members)
    (gives : Gives members given) (o : Overrides) :
    let effective := given.effective o
    let resolved := (ofText text).bind (·.resolve o)
    let web := ∃ address, Trimmed effective.baseUrl.toList address ∧ IsWeb address
    (∃ c, ofText text = .ok c ∧ c.override o = effective) ∧
      ((∃ c, resolved = .ok c) ↔ web ∧ effective.timeout ≠ 0) ∧
      (∀ c, resolved = .ok c → Trimmed effective.baseUrl.toList c.baseUrl.toList ∧
        Rooted effective.apiPrefix.toList c.apiPrefix.toList ∧
        c = { effective with baseUrl := c.baseUrl, apiPrefix := c.apiPrefix }) ∧
      (¬web → ∃ reason, resolved = .error (.baseUrl effective.baseUrl reason)) ∧
      (web → effective.timeout = 0 →
        resolved = .error (.setting "timeout_secs must be greater than 0")) := by
  intro effective resolved web
  have loaded := ofText_of_gives read gives
  have merged : (given.effective {}).override o = effective := override_effective given o
  have whole : resolved = (given.effective {}).resolve o := by
    simp only [resolved, loaded, Except.bind]
  have checked : (∃ address, checkedBaseUrl effective.baseUrl = .ok address) ↔ web :=
    exists_checkedBaseUrl_iff
  refine ⟨⟨_, loaded, merged⟩, ?_, fun c accepted => ?_, fun offline => ?_, fun online zero => ?_⟩
  · rw [whole, ← checked]
    constructor
    · rintro ⟨c, accepted⟩
      obtain ⟨address, positive, -⟩ := resolve_eq_ok_iff.1 accepted
      rw [merged] at address positive
      exact ⟨⟨_, address⟩, positive⟩
    · rintro ⟨⟨address, accepted⟩, positive⟩
      rw [resolve_eq, merged, accepted]
      exact ⟨_, if_neg positive⟩
  · rw [whole] at accepted
    obtain ⟨address, -, same⟩ := resolve_eq_ok_iff.1 accepted
    rw [merged] at address same
    have stem : rootedPath effective.apiPrefix = c.apiPrefix := by rw [same]
    refine ⟨(checkedBaseUrl_eq_ok_iff.1 address).1, rooted_iff.2 stem, ?_⟩
    rwa [stem] at same
  · obtain ⟨reason, refused⟩ := exists_reason (mt checked.1 offline)
    rw [whole, resolve_eq, merged, refused]
    exact ⟨reason, rfl⟩
  · obtain ⟨address, accepted⟩ := checked.2 online
    rw [whole, resolve_eq, merged, accepted]
    exact if_pos zero

/-- Keys and texts of two assignments and a section with one more. -/
private def keysAndTexts : Option Toml.Members → List String
  | some [(a, .string b), (c, .string d), (e, .table .header [(f, .string g)])] =>
    [a, b, c, d, e, f, g]
  | _ => []

theorem partial_document_merged :
    let text := "base_url = \"https://panel.example.com/\"\napi_prefix = \"v2/\"\n[admin]\n" ++
      "password = \"s3cret\""
    let members := [("base_url", Toml.string "https://panel.example.com/"),
      ("api_prefix", .string "v2/"), ("admin", .table .header [("password", .string "s3cret")])]
    let given : Given := {
      baseUrl := some "https://panel.example.com/", apiPrefix := some "v2/"
      password := some "s3cret" }
    let o : Overrides := { resultsDirectory := some "/tmp/out", strict := true }
    Toml.parse? text = some members ∧ Gives members given ∧
      ∃ c, (ofText text).bind (·.resolve o) = .ok c ∧ c.baseUrl = "https://panel.example.com" ∧
        c.apiPrefix = "/v2" ∧ c.admin = ⟨"admin", "s3cret"⟩ ∧ c.resultsDirectory = "/tmp/out" ∧
        c.timeout = 30 ∧ c.failOnError = true := by
  intro text members given o
  have read : Toml.parse? text = some members := by
    have texts : keysAndTexts (Toml.parse? text) = ["base_url", "https://panel.example.com/",
        "api_prefix", "v2/", "admin", "password", "s3cret"] := by
      unfold text
      decide +kernel
    unfold keysAndTexts at texts
    split at texts
    · rename_i found
      simp only [List.cons.injEq, and_true] at texts
      obtain ⟨rfl, rfl, rfl, rfl, rfl, rfl, rfl⟩ := texts
      exact found
    · cases texts
  have gives : Gives members given :=
    ⟨rfl, rfl, rfl, ⟨_, .inr ⟨_, rfl⟩, rfl, rfl⟩, ⟨[], .inl ⟨rfl, rfl⟩, rfl⟩, rfl⟩
  have trimmed : Trimmed (given.effective o).baseUrl.toList "https://panel.example.com".toList :=
    trimmed_iff.2 (by decide)
  have web : IsWeb "https://panel.example.com".toList :=
    ⟨⟨"https", [], none, some (.name "panel.example.com".toList), none, .segments [[]], none, none⟩,
      by decide +kernel, .inr rfl⟩
  obtain ⟨-, accepted, settled, -⟩ := sources_merged read gives o
  obtain ⟨c, resolved⟩ := accepted.2 ⟨⟨_, trimmed, web⟩, by decide⟩
  obtain ⟨address, rooted, whole⟩ := settled c resolved
  have base : c.baseUrl = "https://panel.example.com" := by
    apply String.toList_injective
    rw [← trimmed_iff.1 address, ← trimmed_iff.1 trimmed]
  have stem : c.apiPrefix = "/v2" := (rooted_iff.1 rooted).symm.trans (by decide +kernel)
  rw [base, stem] at whole
  refine ⟨read, gives, c, resolved, base, stem, ?_⟩
  rw [whole]
  exact ⟨rfl, rfl, rfl, rfl⟩

end PanelProbe.Config
