import PanelProbe.Proofs.Run.Turn
import PanelProbe.Run.Basic

/-!
Histories: the turns of steps, of phases and of a whole run. What a session holds is what the turns
before stored last, and the requests sent are those of the turns, so each turn is determined by the
turns before it.
-/

set_option autoImplicit false

namespace PanelProbe.Run

/-- The turns of steps, up to the first crash. -/
def turns (setting : Setting) : List Step → View → List Turn
  | [], _ => []
  | first :: rest, v =>
    let t := turn setting first v
    t :: match t.crash? with
      | none => turns setting rest t.next
      | some _ => []

def block (setting : Setting) (p : Phase) (v : View) : List Turn :=
  match p.missing? v.session with
  | some _ => []
  | none => turns setting p.steps v

def blocks (setting : Setting) : List Phase → View → List (List Turn)
  | [], _ => []
  | first :: rest, v =>
    let b := block setting first v
    b :: match b.findSome? Turn.crash? with
      | none => blocks setting rest (v.through b)
      | some _ => []

def history (setting : Setting) (list : List Phase) : List Turn :=
  (blocks setting list {}).flatten

/-! What the model does is what the turns say. -/

private theorem makes_steps (setting : Setting) (list : List Step) (s : State) :
    Makes setting s (turns setting list s.view) (steps setting list s) := by
  induction list generalizing s with
  | nil => exact Makes.nil setting s
  | cons first rest ih =>
    have one := makes_step setting first s
    have crash : (step setting first s).crash = (turn setting first s.view).crash? := by
      rw [one.crash]
      cases h : (turn setting first s.view).crash? <;> simp [h]
    simp only [turns, steps]
    -- The model decides by what the step left, the turns by the turn: `one` ties the two together.
    generalize step setting first s = p at one crash ⊢
    obtain ⟨state, ended⟩ := p
    cases ended with
    | none =>
      rw [← crash]
      have view : state.view = (turn setting first s.view).next := one.view
      have more := ih state
      rw [view] at more
      exact one.append rfl more
    | some message =>
      rw [← crash]
      exact one

private theorem makes_phase (setting : Setting) (p : Phase) (s : State) :
    Makes setting s (block setting p s.view) (phase setting p s) := by
  unfold block phase
  show Makes setting s (match p.missing? s.session with
    | some _ => []
    | none => turns setting p.steps s.view) _
  cases p.missing? s.session with
  | some kind => exact (Makes.nil setting (s.log _)).of_log
  | none => exact (makes_steps setting p.steps (s.log _)).of_log

theorem makes_phases (setting : Setting) (list : List Phase) (s : State) :
    Makes setting s (blocks setting list s.view).flatten (phases setting list s) := by
  induction list generalizing s with
  | nil => exact Makes.nil setting s
  | cons first rest ih =>
    have one := makes_phase setting first s
    have crash := one.crash
    simp only [blocks, phases]
    generalize phase setting first s = p at one crash ⊢
    obtain ⟨state, ended⟩ := p
    cases ended with
    | none =>
      rw [← crash]
      have view : state.view = s.view.through (block setting first s.view) := one.view
      have more := ih state
      rw [view] at more
      exact one.append rfl more
    | some message =>
      rw [← crash]
      simpa using one

theorem makes_history (setting : Setting) (list : List Phase) :
    Makes setting (start setting) (history setting list) (phases setting list (start setting)) :=
  makes_phases setting list (start setting)

/-! A crash is the end. -/

private theorem turns_crash {setting : Setting} {list : List Step} {v : View} {message : String}
    (h : (turns setting list v).findSome? Turn.crash? = some message) :
    ∃ before t, turns setting list v = before ++ [t] ∧ t.crash? = some message := by
  induction list generalizing v with
  | nil => cases h
  | cons first rest ih =>
    simp only [turns] at h ⊢
    cases crash : (turn setting first v).crash? with
    | none =>
      simp only [crash, List.findSome?_cons] at h ⊢
      obtain ⟨before, t, equal, found⟩ := ih h
      exact ⟨turn setting first v :: before, t, by rw [equal, List.cons_append], found⟩
    | some text =>
      simp only [crash, List.findSome?_cons] at h
      exact ⟨[], turn setting first v, rfl, by rw [crash, h]⟩

private theorem block_crash {setting : Setting} {p : Phase} {v : View} {message : String}
    (h : (block setting p v).findSome? Turn.crash? = some message) :
    ∃ before t, block setting p v = before ++ [t] ∧ t.crash? = some message := by
  unfold block at h ⊢
  cases missing : p.missing? v.session with
  | some kind => simp [missing] at h
  | none =>
    simp only [missing] at h ⊢
    exact turns_crash h

theorem blocks_crash {setting : Setting} {list : List Phase} {v : View} {message : String}
    (h : (blocks setting list v).flatten.findSome? Turn.crash? = some message) :
    ∃ before t, (blocks setting list v).flatten = before ++ [t] ∧ t.crash? = some message := by
  induction list generalizing v with
  | nil => cases h
  | cons first rest ih =>
    simp only [blocks, List.flatten_cons] at h ⊢
    cases crash : (block setting first v).findSome? Turn.crash? with
    | none =>
      simp only [crash, List.findSome?_append, Option.none_or] at h ⊢
      obtain ⟨before, t, equal, found⟩ := ih h
      exact ⟨block setting first v ++ before, t, by rw [equal, List.append_assoc], found⟩
    | some text =>
      simp only [crash, List.findSome?_append, Option.some_or, Option.some.injEq] at h
      obtain ⟨before, t, equal, found⟩ := block_crash crash
      exact ⟨before, t, by simp [equal], by rw [found, h]⟩

def Stored (kind : ResourceKind) (ts : List Turn) : Prop :=
  ∃ t ∈ ts, t.stored? kind ≠ none

def Refreshed (ts : List Turn) : Prop :=
  ∃ t ∈ ts, t.refresh? ≠ none

/-! Each turn is determined by those before it. -/

/-- Every turn is the one its step takes behind the turns before it. -/
def Follows (setting : Setting) : View → List Turn → Prop
  | _, [] => True
  | v, t :: rest => t = turn setting t.step v ∧ Follows setting t.next rest

theorem follows_append {setting : Setting} {v : View} {first second : List Turn} :
    Follows setting v (first ++ second) ↔
      Follows setting v first ∧ Follows setting (v.through first) second := by
  induction first generalizing v with
  | nil => simp [Follows]
  | cons t rest ih => simp only [List.cons_append, Follows, View.through_cons, ih, and_assoc]

private theorem follows_turns (setting : Setting) (list : List Step) (v : View) :
    Follows setting v (turns setting list v) := by
  induction list generalizing v with
  | nil => trivial
  | cons first rest ih =>
    refine ⟨rfl, ?_⟩
    cases (turn setting first v).crash? with
    | none => exact ih _
    | some message => trivial

theorem follows_block (setting : Setting) (p : Phase) (v : View) :
    Follows setting v (block setting p v) := by
  unfold block
  cases p.missing? v.session with
  | some kind => trivial
  | none => exact follows_turns setting p.steps v

theorem follows_blocks (setting : Setting) (list : List Phase) (v : View) :
    Follows setting v (blocks setting list v).flatten := by
  induction list generalizing v with
  | nil => trivial
  | cons first rest ih =>
    simp only [blocks, List.flatten_cons]
    refine follows_append.2 ⟨follows_block setting first v, ?_⟩
    cases (block setting first v).findSome? Turn.crash? with
    | none => exact ih _
    | some message => trivial

theorem follows_history (setting : Setting) (list : List Phase) :
    Follows setting {} (history setting list) :=
  follows_blocks setting list {}

private theorem map_step_sublist (setting : Setting) (list : List Step) (v : View) :
    ((turns setting list v).map Turn.step).Sublist list := by
  induction list generalizing v with
  | nil => exact .slnil
  | cons first rest ih =>
    refine .cons_cons first ?_
    cases (turn setting first v).crash? with
    | none => exact ih _
    | some message => exact List.nil_sublist rest

theorem map_step_block (setting : Setting) (p : Phase) (v : View) :
    ((block setting p v).map Turn.step).Sublist p.steps := by
  unfold block
  cases p.missing? v.session with
  | some kind => exact List.nil_sublist p.steps
  | none => exact map_step_sublist setting p.steps v

private theorem map_step_blocks (setting : Setting) (list : List Phase) (v : View) :
    ((blocks setting list v).flatten.map Turn.step).Sublist (list.flatMap Phase.steps) := by
  induction list generalizing v with
  | nil => exact .slnil
  | cons first rest ih =>
    simp only [blocks, List.flatten_cons, List.map_append, List.flatMap_cons]
    refine (map_step_block setting first v).append ?_
    cases (block setting first v).findSome? Turn.crash? with
    | none => exact ih _
    | some message => exact List.nil_sublist _

theorem map_step_history (setting : Setting) (list : List Phase) :
    ((history setting list).map Turn.step).Sublist (list.flatMap Phase.steps) :=
  map_step_blocks setting list {}

namespace Follows

variable {setting : Setting} {v : View} {ts : List Turn}

theorem eq_turn {before after : List Turn} {t : Turn}
    (h : Follows setting v (before ++ t :: after)) : t = turn setting t.step (v.through before) :=
  (follows_append.1 h).2.1

theorem requests_through (h : Follows setting v ts) :
    (v.through ts).requests = v.requests ++ ts.filterMap Turn.request? := by
  induction ts generalizing v with
  | nil => simp
  | cons t rest ih =>
    obtain ⟨equal, more⟩ := h
    have met : t.view = v := by rw [equal]; rfl
    rw [View.through_cons, ih more]
    cases sent : t.request? <;> simp [Turn.next, met, sent]

private theorem last_through {α : Type} (stored : Turn → Option α) (held : Session → Option α)
    (law : ∀ t : Turn, held t.after = (stored t).or (held t.view.session))
    (h : Follows setting v ts) :
    held (v.through ts).session = (ts.filterMap stored).getLast?.or (held v.session) := by
  induction ts generalizing v with
  | nil => simp
  | cons t rest ih =>
    obtain ⟨equal, more⟩ := h
    have met : t.view = v := by rw [equal]; rfl
    have one : held t.next.session = (stored t).or (held v.session) := by rw [← met]; exact law t
    rw [View.through_cons, ih more, one]
    cases found : stored t with
    | none => simp [found]
    | some value =>
      rw [List.filterMap_cons_some found, List.getLast?_cons]
      cases (rest.filterMap stored).getLast? <;> simp

private theorem id?_through (h : Follows setting v ts) (kind : ResourceKind) :
    (v.through ts).session.id? kind =
      (ts.filterMap (Turn.stored? kind)).getLast?.or (v.session.id? kind) :=
  last_through (Turn.stored? kind) (Session.id? · kind) (fun t => t.id?_after kind) h

theorem access_through (h : Follows setting v ts) :
    (v.through ts).session.access =
      (ts.filterMap Turn.access?).getLast?.or v.session.access :=
  last_through Turn.access? Session.access Turn.access_after h

theorem refresh_through (h : Follows setting v ts) :
    (v.through ts).session.refresh =
      (ts.filterMap Turn.refresh?).getLast?.or v.session.refresh :=
  last_through Turn.refresh? Session.refresh Turn.refresh_after h

theorem id?_of_stored (h : Follows setting {} ts) (kind : ResourceKind) :
    (View.through {} ts).session.id? kind = (ts.filterMap (Turn.stored? kind)).getLast? := by
  have empty : ({} : View).session.id? kind = none := by cases kind <;> rfl
  rw [h.id?_through, empty, Option.or_none]

theorem id?_eq_none_iff (h : Follows setting {} ts) (kind : ResourceKind) :
    (View.through {} ts).session.id? kind = none ↔ ¬Stored kind ts := by
  rw [h.id?_of_stored, List.getLast?_eq_none_iff, List.filterMap_eq_nil_iff]
  simp [Stored]

theorem refresh_eq_none_iff (h : Follows setting {} ts) :
    (View.through {} ts).session.refresh = none ↔ ¬Refreshed ts := by
  rw [h.refresh_through, show ({} : View).session.refresh = none from rfl, Option.or_none,
    List.getLast?_eq_none_iff, List.filterMap_eq_nil_iff]
  simp [Refreshed]

theorem sent {before after : List Turn} {t : Turn} {request : Http.Request}
    (h : Follows setting {} (before ++ t :: after)) (sent : t.request? = some request) :
    t.course = .sent request (setting.server (before.filterMap Turn.request?) request) ∧
      request.method = t.step.method ∧
      ∃ s : Session, request.url = setting.bases.of t.step.scope ++ s.renderPath t.step.path := by
  have equal : t = turn setting t.step (View.through {} before) := h.eq_turn
  have requests : (View.through {} before).requests = before.filterMap Turn.request? :=
    (follows_append.1 h).1.requests_through
  rw [equal] at sent
  obtain ⟨course, method, url⟩ := sent_turn sent
  rw [← equal, requests] at course
  exact ⟨course, method, _, url⟩

theorem origin {kind : ResourceKind} {id : ResourceId} (h : Follows setting {} ts)
    (held : (View.through {} ts).session.id? kind = some id) :
    ∃ before t after, ts = before ++ t :: after ∧ t.stored? kind = some id ∧
      ∀ u ∈ after, u.stored? kind = none := by
  rw [h.id?_of_stored, List.getLast?_eq_some_iff] at held
  -- The last value of a `filterMap` comes from a turn behind which every turn gives nothing.
  obtain ⟨earlier, split⟩ := held
  obtain ⟨before, rest, rfl, -, last⟩ := List.filterMap_eq_append_iff.1 split
  obtain ⟨idle, t, after, rfl, -, stored, none⟩ := List.filterMap_eq_cons_iff.1 last
  exact ⟨before ++ idle, t, after, by rw [List.append_assoc], stored,
    List.filterMap_eq_nil_iff.1 none⟩

end Follows

/-! Servers that answer every request. -/

section Answering

variable {setting : Setting} {answer : List Http.Request → Http.Request → Http.Outcome}
  (answers : setting.server.Answers answer)

include answers

theorem crash?_turn_of_answers (step : Step) (v : View) :
    (turn setting step v).crash? = none := by
  cases crash : (turn setting step v).crash? with
  | none => rfl
  | some message =>
    obtain ⟨request, -, reply⟩ := crash_turn crash
    rw [answers] at reply
    cases reply

theorem Follows.calm {v : View} {ts : List Turn} (h : Follows setting v ts) :
    ∀ t ∈ ts, t.crash? = none := by
  induction ts generalizing v with
  | nil => simp
  | cons t rest ih =>
    obtain ⟨equal, more⟩ := h
    intro u member
    rcases List.mem_cons.1 member with rfl | member
    · rw [equal]
      exact crash?_turn_of_answers answers _ _
    · exact ih more u member

theorem turns_cons (first : Step) (rest : List Step) (v : View) :
    turns setting (first :: rest) v =
      turn setting first v :: turns setting rest (turn setting first v).next := by
  simp only [turns, crash?_turn_of_answers answers first v]

theorem map_step_turns (list : List Step) (v : View) :
    (turns setting list v).map Turn.step = list := by
  induction list generalizing v with
  | nil => rfl
  | cons first rest ih =>
    simp only [turns, crash?_turn_of_answers answers first v, List.map_cons, ih]
    rfl

private theorem findSome?_block (p : Phase) (v : View) :
    (block setting p v).findSome? Turn.crash? = none :=
  List.findSome?_eq_none_iff.2 (Follows.calm answers (follows_block setting p v))

theorem blocks_cons (first : Phase) (rest : List Phase) (v : View) :
    blocks setting (first :: rest) v =
      block setting first v :: blocks setting rest (v.through (block setting first v)) := by
  simp only [blocks, findSome?_block answers first v]

theorem getElem?_blocks {list : List Phase} {i : Nat} {p : Phase} (h : list[i]? = some p)
    (v : View) :
    (blocks setting list v)[i]? =
      some (block setting p (v.through ((blocks setting list v).take i).flatten)) := by
  induction list generalizing i v with
  | nil => cases h
  | cons first rest ih =>
    rw [blocks_cons answers]
    cases i with
    | zero =>
      cases h
      rfl
    | succ i =>
      rw [List.getElem?_cons_succ] at h ⊢
      rw [ih h, List.take_succ_cons, List.flatten_cons, View.through_append]

theorem length_blocks (list : List Phase) (v : View) :
    (blocks setting list v).length = list.length := by
  induction list generalizing v with
  | nil => rfl
  | cons first rest ih => rw [blocks_cons answers, List.length_cons, List.length_cons, ih]

theorem blocks_take (list : List Phase) (i : Nat) (v : View) :
    blocks setting (list.take i) v = (blocks setting list v).take i := by
  induction list generalizing i v with
  | nil => simp [blocks]
  | cons first rest ih =>
    cases i with
    | zero => rfl
    | succ i =>
      rw [List.take_succ_cons, blocks_cons answers, blocks_cons answers, List.take_succ_cons, ih]

end Answering

end PanelProbe.Run
