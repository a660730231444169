import Mathlib.Logic.Relation
import PanelProbe.Proofs.Run.Ledger
import PanelProbe.Proofs.Scenario.Identifier

/-!
What a step may change. A step that fails or crashes leaves the session alone; one that passes
touches only the fields that its capture names and fills them. So whatever is held is filled, and
what is held once stays held until it is cleaned up.
-/

set_option autoImplicit false

namespace PanelProbe

/-- A field stays, or where it may change gets something that is not empty. -/
def Renewed {α : Type} (text : α → String) (allowed : Prop) (old new : Option α) : Prop :=
  new = old ∨ allowed ∧ ∃ value, text value ≠ "" ∧ new = some value

namespace Renewed

variable {α : Type} {text : α → String} {allowed : Prop} {old new : Option α}

private theorem of_or {stored : Option α}
    (h : ∀ value, stored = some value → allowed ∧ text value ≠ "") :
    Renewed text allowed old (stored.or old) := by
  cases found : stored with
  | none => exact .inl rfl
  | some value =>
    obtain ⟨named, filled⟩ := h value found
    exact .inr ⟨named, value, filled, rfl⟩

theorem filled (h : Renewed text allowed old new) (before : ∀ value ∈ old, text value ≠ "") :
    ∀ value ∈ new, text value ≠ "" := by
  rcases h with rfl | ⟨-, value, filled, rfl⟩
  · exact before
  · rintro other ⟨⟩
    exact filled

private theorem ne_none (h : Renewed text allowed old new) (held : old ≠ none) : new ≠ none := by
  rcases h with rfl | ⟨-, value, -, rfl⟩
  · exact held
  · exact Option.some_ne_none value

end Renewed

namespace Capture

def NamesTokens (capture : Capture) : Prop :=
  capture = .tokens ∨ capture = .accessToken

def NamesId (capture : Capture) (kind : ResourceKind) : Prop :=
  capture = .createdId kind ∨ capture = .firstListedId kind

/-- The second session is the first one but for what the capture names. -/
structure Updates (capture : Capture) (s t : Session) : Prop where
  access : Renewed id capture.NamesTokens s.access t.access
  refresh : Renewed id capture.NamesTokens s.refresh t.refresh
  ids : ∀ kind, Renewed ResourceId.text (capture.NamesId kind) (s.id? kind) (t.id? kind)

theorem Updates.refl (capture : Capture) (s : Session) : capture.Updates s s :=
  ⟨.inl rfl, .inl rfl, fun _ => .inl rfl⟩

variable {capture : Capture} {body : Json}

private theorem named_of_access? {token : String} (h : capture.access? body = some token) :
    capture.NamesTokens ∧ token ≠ "" := by
  cases capture with
  | nothing | createdId | firstListedId => cases h
  | tokens => exact ⟨.inl rfl, (Json.at_of_firstText? h).1⟩
  | accessToken => exact ⟨.inr rfl, (Json.at_of_firstText? h).1⟩

private theorem named_of_refresh? {token : String} (h : capture.refresh? body = some token) :
    capture.NamesTokens ∧ token ≠ "" := by
  have second {access : Option String}
      (found : access.bind (fun _ => body.firstText? refreshAddresses) = some token) :
      token ≠ "" := by
    obtain ⟨_, -, first⟩ := Option.bind_eq_some_iff.1 found
    exact (Json.at_of_firstText? first).1
  cases capture with
  | nothing | createdId | firstListedId => cases h
  | tokens => exact ⟨.inl rfl, second h⟩
  | accessToken => exact ⟨.inr rfl, second h⟩

private theorem named_of_id? {kind : ResourceKind} {id : ResourceId}
    (h : capture.id? kind body = some id) :
    capture.NamesId kind ∧ id.text ≠ "" := by
  rcases eq_of_id? h with ⟨rule, found⟩ | ⟨rule, found⟩
  · obtain ⟨v, -, read⟩ := Option.bind_eq_some_iff.1 found
    exact ⟨.inl rule, (Json.ofJson?_eq_some_iff.1 read).text_ne⟩
  · obtain ⟨v, -, read⟩ := Option.bind_eq_some_iff.1 found
    exact ⟨.inr rule, (Json.ofJson?_eq_some_iff.1 read).text_ne⟩

private theorem updates_kept (capture : Capture) (body : Json) (s : Session) :
    capture.Updates s (capture.kept body s) where
  access := by
    rw [access_kept]
    exact .of_or fun _ => named_of_access?
  refresh := by
    rw [refresh_kept]
    exact .of_or fun _ => named_of_refresh?
  ids kind := by
    rw [id?_kept]
    exact .of_or fun _ => named_of_id?

end Capture

namespace Session

structure Filled (s : Session) : Prop where
  access : ∀ token ∈ s.access, token ≠ ""
  refresh : ∀ token ∈ s.refresh, token ≠ ""
  ids : ∀ kind, ∀ id ∈ s.id? kind, id.text ≠ ""

private theorem filled_empty : Filled {} where
  access := by rintro token ⟨⟩
  refresh := by rintro token ⟨⟩
  ids := by rintro (_ | _ | _) id ⟨⟩

/-- Wherever the first session holds something, the second one does. -/
structure Grows (s t : Session) : Prop where
  access : s.access ≠ none → t.access ≠ none
  refresh : s.refresh ≠ none → t.refresh ≠ none
  ids : ∀ kind, s.id? kind ≠ none → t.id? kind ≠ none

theorem Grows.refl (s : Session) : s.Grows s := ⟨id, id, fun _ => id⟩

theorem Grows.trans {s t u : Session} (first : s.Grows t) (second : t.Grows u) : s.Grows u where
  access held := second.access (first.access held)
  refresh held := second.refresh (first.refresh held)
  ids kind held := second.ids kind (first.ids kind held)

end Session

namespace Capture.Updates

variable {capture : Capture} {s t : Session}

theorem filled (h : capture.Updates s t) (before : s.Filled) : t.Filled where
  access := h.access.filled before.access
  refresh := h.refresh.filled before.refresh
  ids kind := (h.ids kind).filled (before.ids kind)

theorem grows (h : capture.Updates s t) : s.Grows t where
  access := h.access.ne_none
  refresh := h.refresh.ne_none
  ids kind := (h.ids kind).ne_none

end Capture.Updates

/-! What was met once is met later. -/

section Met

variable {s t : Session} (grows : s.Grows t)

include grows

private theorem Phase.missing?_of_grows {p : Phase} (met : p.missing? s = none) :
    p.missing? t = none := by
  simp only [Phase.missing?, List.find?_eq_none, Option.isNone_iff_eq_none] at met ⊢
  intro kind member
  exact grows.ids kind (met kind member)

private theorem Step.missing?_of_grows {st : Step} (met : st.missing? s = none) :
    st.missing? t = none := by
  rw [Step.missing?_eq_none_iff] at met ⊢
  intro kind mentions
  exact grows.ids kind (met kind mentions)

private theorem Run.given?_of_grows {payload : Payload}
    (met : Run.Payload.given? s payload ≠ none) :
    Run.Payload.given? t payload ≠ none := by
  rw [ne_eq, Run.given?_eq_none_iff, not_and] at met ⊢
  intro refresh
  exact grows.refresh (met refresh)

end Met

namespace Run

private theorem Turn.updates_after (t : Turn) : t.step.capture.Updates t.view.session t.after := by
  unfold Turn.after
  cases t.body? with
  | none => exact .refl _ _
  | some body => exact Capture.updates_kept _ body _

private theorem Turn.after_of_fail {t : Turn} {row : Row} (recorded : t.row? = some row)
    (failed : row.status = .fail) : t.after = t.view.session := by
  obtain ⟨step, view, course⟩ := t
  cases course with
  | lacking | tokenless => rfl
  | sent request reply =>
    cases reply with
    | crash message => rfl
    | outcome result =>
      cases result with
      | failure cause => rfl
      | response status body =>
        obtain rfl := Option.some.inj recorded
        have unexpected : status ≠ step.expect := by
          intro expected
          rw [judged, if_pos expected] at failed
          cases failed
        cases body <;> simp [Turn.after, Turn.body?, unexpected]

private theorem Turn.idle_of_crash {t : Turn} {message : String} (h : t.crash? = some message) :
    t.row? = none ∧ t.after = t.view.session := by
  obtain ⟨request, course⟩ := Turn.course_of_crash h
  simp only [Turn.row?, Turn.after, Turn.body?, course, and_self]

private theorem crash?_turn_iff {setting : Setting} {st : Step} {v : View} {message : String} :
    (turn setting st v).crash? = some message ↔ ∃ request,
      (turn setting st v).request? = some request ∧
        setting.server v.requests request = .crash message := by
  constructor
  · exact crash_turn
  · rintro ⟨request, sent, reply⟩
    rw [Turn.crash?, (sent_turn sent).1, reply]
    rfl

/-- A step crashes by the reply to its request alone, and then it changes neither ledger nor
session. Any other step records one entry; the session stays when that is a failure, and is updated
when it is a pass. -/
structure Atomic (setting : Setting) (st : Step) (s : State) (p : Progress) : Prop where
  crash_iff : ∀ message, p.crash = some message ↔ ∃ request,
    p.state.requests = s.requests ++ [request] ∧
      setting.server s.requests request = .crash message
  crashed : p.crash ≠ none → p.state.ledger = s.ledger ∧ p.state.session = s.session
  finished : p.crash = none → ∃ e, p.state.ledger = s.ledger ++ [e] ∧
    (e.status = .fail → p.state.session = s.session) ∧
    (e.status = .pass → st.capture.Updates s.session p.state.session)

private theorem atomic_step (setting : Setting) (st : Step) (s : State) :
    Atomic setting st s (step setting st s) := by
  have made := makes_step setting st s
  have session : (step setting st s).state.session = (turn setting st s.view).after :=
    congrArg View.session made.view
  have requests : (step setting st s).state.requests =
      s.requests ++ (turn setting st s.view).request?.toList := congrArg View.requests made.view
  have crash : (step setting st s).crash = (turn setting st s.view).crash? := by
    rw [made.crash]
    cases h : (turn setting st s.view).crash? <;> simp [h]
  have ledger := made.ledger
  constructor
  · intro message
    rw [crash, crash?_turn_iff, requests]
    refine exists_congr fun request => and_congr_left fun _ => ?_
    rw [List.append_cancel_left_eq, Option.toList_eq_singleton_iff]
  · intro broken
    obtain ⟨message, broken⟩ := Option.ne_none_iff_exists'.1 broken
    rw [crash] at broken
    obtain ⟨rowless, kept⟩ := Turn.idle_of_crash broken
    rw [List.filterMap_cons_none rowless] at ledger
    exact ⟨ledger.trans (List.append_nil _), session.trans kept⟩
  · intro calm
    rw [crash] at calm
    obtain ⟨row, recorded⟩ := Turn.row?_isSome calm
    rw [List.filterMap_cons_some recorded] at ledger
    refine ⟨row.entry (setting.clock s.ledger.length), ledger, ?_, ?_⟩
    · intro failed
      exact session.trans (Turn.after_of_fail recorded failed)
    · intro _
      rw [session]
      exact (turn setting st s.view).updates_after

def Stepped (a b : Session) : Prop :=
  ∃ (setting : Setting) (st : Step) (s : State),
    s.session = a ∧ (step setting st s).state.session = b

open Relation

private theorem Stepped.updates {a b : Session} (h : Stepped a b) :
    ∃ capture : Capture, capture.Updates a b := by
  obtain ⟨setting, st, s, rfl, rfl⟩ := h
  have session : (step setting st s).state.session = (turn setting st s.view).after :=
    congrArg View.session (makes_step setting st s).view
  rw [session]
  exact ⟨_, (turn setting st s.view).updates_after⟩

private theorem filled_of_stepped {a b : Session} (h : ReflTransGen Stepped a b)
    (before : a.Filled) :
    b.Filled := by
  induction h with
  | refl => exact before
  | tail _ last ih =>
    obtain ⟨capture, updates⟩ := last.updates
    exact updates.filled ih

private theorem grows_of_stepped {a b : Session} (h : ReflTransGen Stepped a b) : a.Grows b := by
  induction h with
  | refl => exact .refl a
  | tail _ last ih =>
    obtain ⟨capture, updates⟩ := last.updates
    exact ih.trans updates.grows

private theorem Follows.stepped {setting : Setting} {v : View} {ts : List Turn}
    (h : Follows setting v ts) : ReflTransGen Stepped v.session (v.through ts).session := by
  induction ts generalizing v with
  | nil => exact .refl
  | cons t rest ih =>
    obtain ⟨equal, more⟩ := h
    have first : Stepped v.session t.next.session := by
      refine ⟨setting, t.step, { session := v.session, requests := v.requests }, rfl, ?_⟩
      rw [equal]
      exact congrArg View.session (makes_step setting _ _).view
    exact .head first (ih more)

private theorem stepped_phases (setting : Setting) (list : List Phase) (s : State) :
    ReflTransGen Stepped s.session (phases setting list s).state.session := by
  have view := (makes_phases setting list s).view
  have reached := (follows_blocks setting list s.view).stepped
  rw [← view] at reached
  exact reached

/-- A step either changes nothing or what its capture names, and so every session that steps lead to
holds nothing empty, and what a phase, a step or a payload needs is there for good once it is
there. -/
theorem step_atomic_monotone (setting : Setting) :
    (∀ st s, Atomic setting st s (step setting st s)) ∧
    (∀ t, ReflTransGen Stepped {} t → t.Filled) ∧
    (∀ a b, ReflTransGen Stepped a b →
      (∀ p : Phase, p.missing? a = none → p.missing? b = none) ∧
      (∀ st : Step, st.missing? a = none → st.missing? b = none) ∧
      ∀ payload, Payload.given? a payload ≠ none → Payload.given? b payload ≠ none) ∧
    ∀ list s, ReflTransGen Stepped s.session (phases setting list s).state.session := by
  refine ⟨atomic_step setting, ?_, ?_, stepped_phases setting⟩
  · intro t reached
    exact filled_of_stepped reached Session.filled_empty
  · intro a b reached
    have grows := grows_of_stepped reached
    refine ⟨?_, ?_, ?_⟩
    · intro p met
      exact Phase.missing?_of_grows grows met
    · intro st met
      exact Step.missing?_of_grows grows met
    · intro payload met
      exact given?_of_grows grows met

end Run

end PanelProbe
