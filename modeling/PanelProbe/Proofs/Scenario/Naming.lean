import PanelProbe.Proofs.Json.Address
import PanelProbe.Proofs.Text.Numeral
import PanelProbe.Scenario.Canonical

/-!
The names and addresses that a run gives to what it creates. Each is the suffix of the run between
two texts of its own, so no two of them are the same, within one run or between runs of different
suffixes. The details of the steps quote what the payloads send.
-/

set_option autoImplicit false

namespace PanelProbe

/-- The texts that carry the suffix of a run. -/
inductive Label
  | registrationUsername | registrationEmail | userUsername | userEmail | nodeName | planName
  deriving DecidableEq

namespace Label

def payload (f : Fixture) : Label → Json
  | registrationUsername | registrationEmail => f.registration
  | userUsername | userEmail => f.user
  | nodeName => f.node
  | planName => f.plan

def key : Label → String
  | registrationUsername | userUsername => "username"
  | registrationEmail | userEmail => "email"
  | nodeName | planName => "name"

def text? (f : Fixture) (label : Label) : Option String :=
  ((label.payload f).at? label.key).bind Json.text?

def stem : Label → String
  | registrationUsername => "testuser_"
  | registrationEmail => "test_"
  | userUsername | userEmail => "apitest_"
  | nodeName => "Test Node "
  | planName => "Test Plan "

def ending : Label → String
  | registrationEmail | userEmail => "@example.com"
  | registrationUsername | userUsername | nodeName | planName => ""

private theorem at?_payload (f : Fixture) (label : Label) :
    (label.payload f).at? label.key = some (.string (f.named label.stem ++ label.ending)) := by
  cases label with
  | registrationUsername =>
    rw [ending, String.append_empty]
    exact Json.at?_ofMembers (by decide) [] _ (by simp)
  | registrationEmail => exact Json.at?_ofMembers (by decide) [(_, _)] _ (by simp)
  | userUsername =>
    rw [ending, String.append_empty]
    exact Json.at?_ofMembers (by decide) [] _ (by simp)
  | userEmail => exact Json.at?_ofMembers (by decide) [(_, _)] _ (by simp)
  | nodeName | planName =>
    rw [ending, String.append_empty]
    exact Json.at?_ofMembers (by decide) [] _ (by simp)

private theorem text?_eq (f : Fixture) (label : Label) :
    label.text? f = some (f.named label.stem ++ label.ending) := by
  rw [text?, at?_payload]
  rfl

private theorem notNumeric (label : Label) : (∀ c ∈ label.stem.toList, Text.isNumeric c = false) ∧
    ∀ c ∈ label.ending.toList, Text.isNumeric c = false := by
  have table : (label.stem.toList.all fun c => !Text.isNumeric c) = true ∧
      (label.ending.toList.all fun c => !Text.isNumeric c) = true := by
    cases label <;> decide
  simpa only [List.all_eq_true, Bool.not_eq_true'] using table

private theorem eq_of_affixes {label other : Label} (stems : label.stem = other.stem)
    (endings : label.ending = other.ending) : label = other := by
  cases label <;> cases other <;> first | rfl | exact absurd stems (by decide) |
    exact absurd endings (by decide)

private theorem text?_inj {f g : Fixture} {label other : Label} :
    label.text? f = other.text? g ↔ label = other ∧ f.suffix = g.suffix := by
  rw [text?_eq, text?_eq]
  constructor
  · intro same
    have lists := congrArg String.toList (Option.some.inj same)
    simp only [Fixture.named, String.toList_append, String.toList_ofList, List.append_assoc]
      at lists
    -- No stem or ending has a digit or a sign, so the suffix shows where they meet it.
    obtain ⟨stems, suffixes, endings⟩ := Text.integer_between_inj label.notNumeric.1
      other.notNumeric.1 label.notNumeric.2 other.notNumeric.2 lists
    exact ⟨eq_of_affixes (String.toList_injective stems) (String.toList_injective endings),
      suffixes⟩
  · rintro ⟨rfl, suffixes⟩
    rw [Fixture.named, Fixture.named, suffixes]

end Label

namespace Scenario

/-- The steps that send a name and quote it. -/
inductive Quote
  | registration | login | user | node | plan

namespace Quote

def stepName : Quote → String
  | registration => "User Registration"
  | login => "Admin Login"
  | user => "Create User"
  | node => "Create Node"
  | plan => "Create Plan"

def lead : Quote → String
  | registration | user => "Created user: "
  | login => "Successfully logged in as "
  | node => "Created node: "
  | plan => "Created plan: "

def key : Quote → String
  | registration | login | user => "username"
  | node | plan => "name"

def payload (f : Fixture) (admin : Credentials) : Quote → Json
  | registration => f.registration
  | login => Fixture.login admin
  | user => f.user
  | node => f.node
  | plan => f.plan

end Quote

def managing (f : Fixture) (admin : Credentials) : List Phase :=
  [authentication f admin, users f, nodes f, plans f]

variable {f : Fixture} {admin : Credentials}

structure Quote.IsMadeBy (f : Fixture) (admin : Credentials) (q : Quote) (step : Step) : Prop where
  stepName : step.name = q.stepName
  payload : step.payload = .body (q.payload f admin)
  quoted : ∃ name, (q.payload f admin).at? q.key = some (.string name) ∧
    step.detail = q.lead ++ name

private theorem exists_isMadeBy (f : Fixture) (admin : Credentials) (q : Quote) :
    ∃ step ∈ (managing f admin).flatMap Phase.steps, q.IsMadeBy f admin step := by
  have sent {key name : String} {more : Json.Members} (whole : Json.segments key = [key.toList])
      (last : ∀ p ∈ more, p.1 ≠ key) :
      (Json.ofMembers ((key, .string name) :: more)).at? key = some (.string name) :=
    Json.at?_ofMembers whole [] _ last
  cases q with
  | registration =>
    exact ⟨_, List.mem_of_getElem? (i := 0) rfl, rfl, rfl, _, sent (by decide) (by simp), rfl⟩
  | login =>
    exact ⟨_, List.mem_of_getElem? (i := 1) rfl, rfl, rfl, _, sent (by decide) (by simp), rfl⟩
  | user =>
    exact ⟨_, List.mem_of_getElem? (i := 5) rfl, rfl, rfl, _, sent (by decide) (by simp), rfl⟩
  | node =>
    exact ⟨_, List.mem_of_getElem? (i := 10) rfl, rfl, rfl, _, sent (by decide) (by simp), rfl⟩
  | plan =>
    exact ⟨_, List.mem_of_getElem? (i := 14) rfl, rfl, rfl, _, sent (by decide) (by simp), rfl⟩

def unquoted? (step : Step) : Option String :=
  if [Quote.registration, .login, .user, .node, .plan].any (·.stepName == step.name) then none
  else some step.detail

def plainDetails : List (Option String) :=
  let f : Fixture := ⟨0, ⟨2024, 3, 5⟩⟩
  ((health :: managing f {} ++ [trafficOver .null, system, relationships]).flatMap
    Phase.steps).map unquoted?

private theorem exists_canonical {list : List Phase} (canonical : canonical? f admin = some list) :
    ∃ window, list = health :: managing f admin ++ [trafficOver window, system, relationships] := by
  rw [canonical?, Option.map_eq_some_iff] at canonical
  obtain ⟨traffic, built, rfl⟩ := canonical
  rw [traffic?, Option.map_eq_some_iff] at built
  obtain ⟨window, -, rfl⟩ := built
  exact ⟨window, rfl⟩

private theorem unquoted_canonical {list : List Phase}
    (canonical : canonical? f admin = some list) :
    (list.flatMap Phase.steps).map unquoted? = plainDetails := by
  obtain ⟨window, rfl⟩ := exists_canonical canonical
  simp [plainDetails, managing, authentication, users, nodes, plans, trafficOver, unquoted?,
    Quote.stepName]

/-- Whatever the dates and the admins, each payload has its texts, and two of them are the same only
if they stand in the same place and have the same suffix. The steps quote the names they send, and
the other details of a scenario are those of every run. -/
theorem names_apart (f g : Fixture) (admin : Credentials) :
    (∀ label : Label, ∃ text, label.text? f = some text) ∧
    (∀ label other : Label, label.text? f = other.text? g ↔
      label = other ∧ f.suffix = g.suffix) ∧
    (∀ q : Quote, ∃ step ∈ (managing f admin).flatMap Phase.steps, q.IsMadeBy f admin step) ∧
    ∀ list, canonical? f admin = some list → managing f admin ⊆ list ∧
      (list.flatMap Phase.steps).map unquoted? = plainDetails := by
  refine ⟨fun label => ⟨_, label.text?_eq f⟩, fun _ _ => Label.text?_inj, exists_isMadeBy f admin,
    fun list canonical => ⟨?_, unquoted_canonical canonical⟩⟩
  obtain ⟨window, rfl⟩ := exists_canonical canonical
  exact List.subset_append_of_subset_left _ (List.subset_cons_self _ _)

end Scenario

end PanelProbe
