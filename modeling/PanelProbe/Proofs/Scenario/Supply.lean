import PanelProbe.Proofs.Session.Rendering
import PanelProbe.Proofs.Text.Numeral
import PanelProbe.Scenario.Canonical

/-!
What the canonical steps need of the steps before them: each identifier that a step mentions, and
each one that a phase is gated on, is that of a resource created before, and the token is renewed
behind the login.
-/

set_option autoImplicit false

namespace PanelProbe

def Payload.renews : Payload → Bool
  | .refreshToken => true
  | .none | .body _ => false

/-- What a step needs, and what it gives to the steps behind it. -/
structure Flow where
  name : String
  capture : Capture
  required : List ResourceKind
  renews : Bool
  deriving DecidableEq

def Step.flow (step : Step) : Flow :=
  ⟨step.name, step.capture, step.required, step.payload.renews⟩

def Flow.IsLogin (flow : Flow) : Prop :=
  flow.name = "Admin Login" ∧ flow.capture = .tokens

instance (flow : Flow) : Decidable flow.IsLogin :=
  inferInstanceAs (Decidable (_ ∧ _))

def Creates (earlier : List Flow) (kind : ResourceKind) : Prop :=
  ∃ e ∈ earlier, e.capture = .createdId kind

instance (earlier : List Flow) (kind : ResourceKind) : Decidable (Creates earlier kind) :=
  inferInstanceAs (Decidable (∃ e ∈ earlier, _))

structure Flow.Fed (flow : Flow) (earlier : List Flow) : Prop where
  ids : ∀ kind ∈ flow.required, Creates earlier kind
  token : flow.renews = true → ∃ e ∈ earlier, e.IsLogin

instance (flow : Flow) (earlier : List Flow) : Decidable (flow.Fed earlier) :=
  decidable_of_iff ((∀ kind ∈ flow.required, Creates earlier kind) ∧
    (flow.renews = true → ∃ e ∈ earlier, e.IsLogin)) ⟨fun h => ⟨h.1, h.2⟩, fun h => ⟨h.1, h.2⟩⟩

def StepsFed : List Flow → List Flow → Prop
  | _, [] => True
  | earlier, flow :: rest => flow.Fed earlier ∧ StepsFed (earlier ++ [flow]) rest

instance decidableStepsFed : (earlier flows : List Flow) → Decidable (StepsFed earlier flows)
  | _, [] => inferInstanceAs (Decidable True)
  | earlier, flow :: rest =>
    have := decidableStepsFed (earlier ++ [flow]) rest
    inferInstanceAs (Decidable (_ ∧ _))

def PhasesFed : List Flow → List (List ResourceKind × List Flow) → Prop
  | _, [] => True
  | earlier, phase :: rest =>
    (∀ kind ∈ phase.1, Creates earlier kind) ∧ StepsFed earlier phase.2 ∧
      PhasesFed (earlier ++ phase.2) rest

instance decidablePhasesFed :
    (earlier : List Flow) → (phases : List (List ResourceKind × List Flow)) →
      Decidable (PhasesFed earlier phases)
  | _, [] => inferInstanceAs (Decidable True)
  | earlier, phase :: rest =>
    have := decidablePhasesFed (earlier ++ phase.2) rest
    inferInstanceAs (Decidable (_ ∧ _ ∧ _))

def Phase.flows (phase : Phase) : List ResourceKind × List Flow :=
  (phase.gate, phase.steps.map Step.flow)

private theorem Step.flow_congr {step other : Step} (name : step.name = other.name)
    (path : step.path = other.path) (capture : step.capture = other.capture)
    (idle : step.payload.renews = false) (other_idle : other.payload.renews = false)
    (plain : '\x7b' ∉ step.detail.toList) (other_plain : '\x7b' ∉ other.detail.toList) :
    step.flow = other.flow := by
  have apart : ∀ (kind : ResourceKind) (text : List Char), '\x7b' ∉ text →
      Text.occursIn kind.placeholder.toList text = false := by
    intro kind text absent
    obtain ⟨rest, placeholder⟩ := kind.placeholder_toList
    rw [Bool.eq_false_iff, ne_eq, Text.occursIn_iff_isInfix, placeholder]
    exact fun inside => absent (inside.subset List.mem_cons_self)
  have required : step.required = other.required := by
    apply List.filter_congr
    intro kind member
    rw [apart kind _ plain, apart kind _ other_plain, path]
  rw [flow, flow, name, capture, idle, other_idle, required]

namespace Scenario

private theorem plain_named (f : Fixture) {stem : String} (plain : '\x7b' ∉ stem.toList) :
    '\x7b' ∉ (f.named stem).toList := by
  have suffix : '\x7b' ∉ Text.integer f.suffix := by
    intro member
    exact absurd (Text.mem_integer member) (by decide)
  simp [Fixture.named, plain, suffix]

def supply : List (List ResourceKind × List Flow) :=
  let f : Fixture := ⟨0, ⟨2024, 3, 5⟩⟩
  [health, authentication f {}, users f, nodes f, plans f, trafficOver .null, system,
    relationships].map Phase.flows

private theorem phasesFed_supply : PhasesFed [] supply := by
  decide +kernel

private theorem plain_append {first second : String} (before : '\x7b' ∉ first.toList)
    (behind : '\x7b' ∉ second.toList) : '\x7b' ∉ (first ++ second).toList := by
  simp [before, behind]

variable {f : Fixture} {admin : Credentials} {list : List Phase}

private theorem flows_authentication (plain : '\x7b' ∉ admin.username.toList) :
    (authentication f admin).flows = (authentication ⟨0, ⟨2024, 3, 5⟩⟩ {}).flows := by
  have registration : '\x7b' ∉ ("Created user: " ++ f.registrationUsername).toList :=
    plain_append (by decide) (plain_named f (by decide))
  have login : '\x7b' ∉ ("Successfully logged in as " ++ admin.username).toList :=
    plain_append (by decide) plain
  refine congrArg (Prod.mk []) (congrArg₂ List.cons ?_ (congrArg₂ List.cons ?_ rfl))
  · exact Step.flow_congr rfl rfl rfl rfl rfl registration (by decide)
  · exact Step.flow_congr rfl rfl rfl rfl rfl login (by decide)

private theorem flows_users : (users f).flows = (users ⟨0, ⟨2024, 3, 5⟩⟩).flows := by
  have creation : '\x7b' ∉ ("Created user: " ++ f.userUsername).toList :=
    plain_append (by decide) (plain_named f (by decide))
  refine congrArg (Prod.mk []) (congrArg₂ List.cons rfl (congrArg₂ List.cons ?_ rfl))
  exact Step.flow_congr rfl rfl rfl rfl rfl creation (by decide)

private theorem flows_nodes : (nodes f).flows = (nodes ⟨0, ⟨2024, 3, 5⟩⟩).flows := by
  have creation : '\x7b' ∉ ("Created node: " ++ f.nodeName).toList :=
    plain_append (by decide) (plain_named f (by decide))
  refine congrArg (Prod.mk []) (congrArg₂ List.cons rfl (congrArg₂ List.cons ?_ rfl))
  exact Step.flow_congr rfl rfl rfl rfl rfl creation (by decide)

private theorem flows_plans : (plans f).flows = (plans ⟨0, ⟨2024, 3, 5⟩⟩).flows := by
  have creation : '\x7b' ∉ ("Created plan: " ++ f.planName).toList :=
    plain_append (by decide) (plain_named f (by decide))
  refine congrArg (Prod.mk []) (congrArg₂ List.cons rfl (congrArg₂ List.cons ?_ rfl))
  exact Step.flow_congr rfl rfl rfl rfl rfl creation (by decide)

private theorem map_flows_canonical (canonical : canonical? f admin = some list)
    (plain : '\x7b' ∉ admin.username.toList) : list.map Phase.flows = supply := by
  rw [canonical?, Option.map_eq_some_iff] at canonical
  obtain ⟨traffic, built, rfl⟩ := canonical
  rw [traffic?, Option.map_eq_some_iff] at built
  obtain ⟨window, -, rfl⟩ := built
  simp only [List.map_cons, List.map_nil, supply, flows_authentication plain, flows_users,
    flows_nodes, flows_plans]
  rfl

theorem phasesFed_canonical (canonical : canonical? f admin = some list)
    (plain : '\x7b' ∉ admin.username.toList) : PhasesFed [] (list.map Phase.flows) := by
  rw [map_flows_canonical canonical plain]
  exact phasesFed_supply

end Scenario

end PanelProbe
