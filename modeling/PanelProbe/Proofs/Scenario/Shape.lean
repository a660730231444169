import PanelProbe.Proofs.Session.Rendering
import PanelProbe.Scenario.Canonical

/-!
The shape of the canonical scenario: what its steps ask for, where, and what they keep, whatever
the fixture and the admin. Which steps create resources and which list them can be decided.
-/

set_option autoImplicit false

namespace PanelProbe

/-- What decides where a step's request goes and what is kept of the reply. -/
structure Shape where
  method : Http.Method
  path : String
  scope : Http.Scope
  expect : Nat
  capture : Capture
  deriving DecidableEq

def Step.shape (step : Step) : Shape :=
  ⟨step.method, step.path, step.scope, step.expect, step.capture⟩

namespace Scenario

def shapes : List Shape :=
  let f : Fixture := ⟨0, ⟨2024, 3, 5⟩⟩
  ([health, authentication f {}, users f, nodes f, plans f, trafficOver .null, system,
    relationships].flatMap Phase.steps).map Step.shape

variable {f : Fixture} {admin : Credentials} {list : List Phase}

def entries : List (String × Shape) :=
  let f : Fixture := ⟨0, ⟨2024, 3, 5⟩⟩
  ([health, authentication f {}, users f, nodes f, plans f, trafficOver .null, system,
    relationships].flatMap Phase.steps).map fun step => (step.name, step.shape)

theorem map_entry_canonical (h : canonical? f admin = some list) :
    (list.flatMap Phase.steps).map (fun step => (step.name, step.shape)) = entries := by
  rw [canonical?, Option.map_eq_some_iff] at h
  obtain ⟨traffic, built, rfl⟩ := h
  rw [traffic?, Option.map_eq_some_iff] at built
  obtain ⟨window, -, rfl⟩ := built
  simp only [entries, authentication, users, nodes, plans, trafficOver, List.flatMap_cons,
    List.flatMap_nil, List.map_append, List.map_cons, Step.shape]

theorem map_shape_canonical (h : canonical? f admin = some list) :
    (list.flatMap Phase.steps).map Step.shape = shapes := by
  have pairs := congrArg (List.map Prod.snd) (map_entry_canonical h)
  rwa [List.map_map] at pairs

theorem nodup_names : (entries.map Prod.fst).Nodup := by
  decide

theorem method_ne_delete : ∀ sh ∈ shapes, sh.method ≠ .delete := by
  decide

theorem creation_shape : ∀ sh ∈ shapes, ∀ kind ∈ ResourceKind.all,
    sh.capture = .createdId kind → sh = ⟨.post, kind.collection, .api, 201, .createdId kind⟩ := by
  decide

theorem listing_shape : ∀ sh ∈ shapes, ∀ kind ∈ ResourceKind.all,
    sh.capture = .firstListedId kind →
      sh = ⟨.get, ResourceKind.user.collection, .api, 200, .firstListedId .user⟩ := by
  decide

theorem listing_first : shapes.Pairwise fun earlier later => ∀ kind ∈ ResourceKind.all,
    earlier.capture = .createdId kind → later.capture ≠ .firstListedId kind := by
  decide

theorem creation_of_post : ∀ sh ∈ shapes, sh.method = .post → sh.scope = .api ∧
    ∀ kind ∈ ResourceKind.all, opening sh.path <+: kind.collection.toList →
      sh.capture = .createdId kind := by
  decide

theorem listing_of_get : ∀ sh ∈ shapes, sh.method = .get →
    (sh.scope = .root ∧ '\x7b' ∉ sh.path.toList ∧ sh.path.toList.getLast?.getD 's' ≠ 's') ∨
      (sh.scope = .api ∧ (opening sh.path <+: ResourceKind.user.collection.toList →
        sh.capture = .firstListedId .user)) := by
  decide

theorem login_of_post : ∀ e ∈ entries, e.2.method = .post → e.2.scope = .api ∧
    (opening e.2.path <+: "/auth/login".toList → e.1 = "Admin Login") := by
  decide

end Scenario

end PanelProbe
