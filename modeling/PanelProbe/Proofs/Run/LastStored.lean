import PanelProbe.Proofs.Percent
import PanelProbe.Proofs.Run.Answered
import PanelProbe.Proofs.Session.Kind

/-!
Which of the resources a run stored are deleted: of each kind the one that was stored last, once,
and no other. A created resource is forgotten as soon as another one of its kind is stored.
-/

set_option autoImplicit false

namespace PanelProbe.Run

def Deletes (bases : Http.Bases) (target : Target) (request : Http.Request) : Prop :=
  request.method = .delete ∧
    request.url = bases.api ++ (target.1.collection ++ "/" ++ target.2.segment)

instance (bases : Http.Bases) (target : Target) : DecidablePred (Deletes bases target) :=
  fun _ => inferInstanceAs (Decidable (_ ∧ _))

def cleanupRequests (setting : Setting) (list : List Phase) : List Http.Request :=
  (run setting list).state.requests.drop
    (phases setting list (start setting)).state.requests.length

theorem deletes_deletionRequest {bases : Http.Bases} {access : Option String}
    {target other : Target} :
    Deletes bases target (deletionRequest bases access other) ↔ other = target := by
  constructor
  · rintro ⟨-, place⟩
    have paths : other.1.collection ++ "/" ++ other.2.segment =
        target.1.collection ++ "/" ++ target.2.segment := by
      simpa [deletionRequest] using place
    have texts := congrArg String.toList paths
    simp only [String.toList_append, List.append_assoc] at texts
    have widths : other.1.collection.toList.length = target.1.collection.toList.length := by
      rw [ResourceKind.length_collection, ResourceKind.length_collection]
    obtain ⟨collections, rest⟩ := List.append_inj texts widths
    obtain ⟨-, segments⟩ := List.append_inj rest rfl
    exact Prod.ext (ResourceKind.collection_injective (String.toList_injective collections))
      (ResourceId.segment_injective (String.toList_injective segments))
  · rintro rfl
    exact ⟨rfl, rfl⟩

theorem countP_deletionsDue (setting : Setting) (s : State) (target : Target) :
    (deletionsDue setting s).countP (fun r => decide (Deletes setting.bases target r)) =
      if s.session.id? target.1 = some target.2 then 1 else 0 := by
  have distinct : (s.session.held ResourceKind.all).Nodup := s.session.nodup_held (by decide)
  have member : target ∈ s.session.held ResourceKind.all ↔
      s.session.id? target.1 = some target.2 :=
    Session.mem_held.trans (and_iff_right target.1.mem_all)
  rw [deletionsDue, List.countP_map]
  have same : ((fun r => decide (Deletes setting.bases target r)) ∘
      deletionRequest setting.bases s.session.access) = (· == target) := by
    funext other
    simp only [Function.comp_apply, deletes_deletionRequest]
    exact (beq_eq_decide other target).symm
  rw [same, ← List.count_eq_countP, distinct.count]
  simp only [member]

private theorem cleanupRequests_eq {setting : Setting}
    {answer : List Http.Request → Http.Request → Http.Outcome}
    (answers : setting.server.Answers answer) (list : List Phase) :
    cleanupRequests setting list =
      deletionsDue setting (phases setting list (start setting)).state := by
  have whole := completes answers list
  rw [cleanupRequests, whole.sent, whole.requests, List.drop_left]

private theorem getLast?_getD_eq_iff {α : Type} {a : α} {rest : List α} (apart : a ∉ rest) :
    rest.getLast?.getD a = a ↔ rest = [] := by
  constructor
  · intro last
    cases found : rest.getLast? with
    | none => exact List.getLast?_eq_none_iff.1 found
    | some b =>
      rw [found, Option.getD_some] at last
      rw [last] at found
      exact absurd (List.mem_of_getLast? found) apart
  · rintro rfl
    rfl

/-- Against a server that answers every request, a resource that a step stored is deleted once if
none other of its kind was stored last, and never otherwise. Where identifiers differ, it is deleted
just when nothing of its kind was stored after it. -/
theorem stored_deleted_iff_last (setting : Setting)
    (answer : List Http.Request → Http.Request → Http.Outcome) (list : List Phase)
    {before after : List Turn} {t : Turn} {kind : ResourceKind} {id : ResourceId}
    (split : history (setting.answering answer) list = before ++ t :: after)
    (stored : t.stored? kind = some id) :
    let deletions := (cleanupRequests (setting.answering answer) list).countP
      fun r => decide (Deletes setting.bases (kind, id) r)
    deletions = (if (after.filterMap (Turn.stored? kind)).getLast?.getD id = id then 1 else 0) ∧
    ((∀ u ∈ after, u.stored? kind ≠ some id) →
      (deletions = 1 ↔ ∀ u ∈ after, u.stored? kind = none)) := by
  intro deletions
  have answers := answers_answering setting answer
  have follows := follows_history (setting.answering answer) list
  have held := (completes answers list).session
  have count : deletions =
      if (after.filterMap (Turn.stored? kind)).getLast?.getD id = id then 1 else 0 := by
    have due := countP_deletionsDue (setting.answering answer)
      (phases (setting.answering answer) list (start (setting.answering answer))).state (kind, id)
    rw [← cleanupRequests_eq answers, held, follows.id?_of_stored, split, List.filterMap_append,
      List.filterMap_cons_some stored, List.getLast?_append, List.getLast?_cons,
      Option.some_or] at due
    simp only [Option.some.injEq] at due
    exact due
  refine ⟨count, fun apart => ?_⟩
  have fresh : id ∉ after.filterMap (Turn.stored? kind) := by
    rw [List.mem_filterMap]
    rintro ⟨u, member, same⟩
    exact apart u member same
  rw [count, ← List.filterMap_eq_nil_iff, ← getLast?_getD_eq_iff fresh]
  simp

/-- Takes every request as a creation and numbers what it creates. -/
def numbering (earlier : List Http.Request) (request : Http.Request) : Http.Outcome :=
  if request.method = .delete then .response 200 .empty
  else .response 201 (.json (.ofMembers [("id", .int (earlier.length + 1))]))

def numbered : Setting where
  server := fun earlier request => .outcome (numbering earlier request)
  bases := ⟨"http://api.test", "http://api.test/api/v1"⟩
  clock := fun _ => ""

def creation : Step where
  name := "Create User"
  method := .post
  path := "/admin/users"
  expect := 201
  capture := .createdId .user

def twice : List Phase := [⟨"users", [creation, creation], []⟩]

theorem second_user_deleted :
    ∃ first second, history numbered twice = [first] ++ second :: [] ∧
      second.stored? .user = some ⟨"2"⟩ ∧
      (cleanupRequests numbered twice).countP
        (fun r => decide (Deletes numbered.bases (.user, ⟨"2"⟩) r)) = 1 := by
  let first := turn numbered creation {}
  let second := turn numbered creation first.next
  have split : history numbered twice = [first] ++ second :: [] := by
    have answers : numbered.server.Answers numbering := fun _ _ => rfl
    simp [history, twice, blocks_cons answers, blocks, block, Phase.missing?, turns,
      crash?_turn_of_answers answers, first, second]
  have stored : second.stored? .user = some ⟨"2"⟩ := by decide +kernel
  exact ⟨first, second, split, stored,
    (stored_deleted_iff_last numbered numbering twice split stored).1⟩

/-- The user that was created before it is never deleted, although the identifiers differ. -/
theorem first_user_left :
    (∃ t ∈ history numbered twice,
      t.step.capture = .createdId .user ∧ t.stored? .user = some ⟨"1"⟩) ∧
    ((history numbered twice).filterMap (Turn.stored? .user)).Nodup ∧
    (cleanupRequests numbered twice).countP
      (fun r => decide (Deletes numbered.bases (.user, ⟨"1"⟩) r)) = 0 := by
  decide +kernel

end PanelProbe.Run
