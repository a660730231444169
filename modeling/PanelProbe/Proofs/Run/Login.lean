import PanelProbe.Proofs.Run.Ledger
import PanelProbe.Proofs.Run.Provenance
import PanelProbe.Proofs.Run.Whole

/-!
The login of the canonical scenario: its request, its entry, and which credentials keep it from
being sent.
-/

set_option autoImplicit false

namespace PanelProbe

def Scenario.loginStep (admin : Credentials) : Step where
  name := "Admin Login"
  method := .post
  path := "/auth/login"
  payload := .body (Fixture.login admin)
  authorized := false
  capture := .tokens
  detail := "Successfully logged in as " ++ admin.username

def Credentials.Mentions (admin : Credentials) (kind : ResourceKind) : Prop :=
  kind.placeholder.toList <:+: admin.username.toList

instance (admin : Credentials) (kind : ResourceKind) : Decidable (admin.Mentions kind) :=
  inferInstanceAs (Decidable (_ <:+: _))

private theorem Scenario.mentions_loginStep {admin : Credentials} {kind : ResourceKind} :
    (loginStep admin).Mentions kind ↔ admin.Mentions kind := by
  obtain ⟨rest, placeholder⟩ := kind.placeholder_toList
  have plain : '\x7b' ∉ "Successfully logged in as ".toList := by decide
  have detail : (loginStep admin).detail.toList =
      "Successfully logged in as ".toList ++ admin.username.toList := String.toList_append
  have absent : ¬kind.placeholder.toList <:+: "/auth/login".toList := by
    cases kind <;> decide
  rw [Step.Mentions, detail, Credentials.Mentions, placeholder, Text.isInfix_append_iff plain,
    ← placeholder]
  exact or_iff_right absent

private theorem Fixture.login_eq (admin : Credentials) : Fixture.login admin =
    .object [("password", .string admin.password), ("username", .string admin.username)] := by
  have order : "password" < "username" := by decide
  simp [Fixture.login, Json.ofMembers, Json.Members.ofList, Json.Members.insert, order]

namespace Run

/-- A request asks for a login. -/
def LogsIn (bases : Http.Bases) (request : Http.Request) : Prop :=
  request.method = .post ∧ request.url = bases.api ++ "/auth/login"

instance (bases : Http.Bases) : DecidablePred (LogsIn bases) :=
  fun _ => inferInstanceAs (Decidable (_ ∧ _))

def loginRows (ledger : Ledger) : List Row :=
  (ledger.map Entry.row).filter fun row => row.name = "Admin Login"

private theorem Turn.name_of_row {t : Turn} {row : Row} (h : t.row? = some row) :
    row.name = t.step.name := by
  obtain ⟨step, view, course⟩ := t
  rcases course with kind | _ | ⟨request, result | message⟩
  · cases h
    rfl
  · cases h
    rfl
  · cases h
    exact name_judged _ _ _ _
  · cases h

private theorem filter_filterMap_of_apart {α β : Type} {shown : α → Option β} {p : β → Prop}
    [DecidablePred p] {before after : List α} {a : α} (here : ∀ b, shown a = some b → p b)
    (apart : ∀ u, u ∈ before ∨ u ∈ after → ∀ b, shown u = some b → ¬p b) :
    ((before ++ a :: after).filterMap shown).filter (fun b => p b) = (shown a).toList := by
  have none : ∀ us : List α, (∀ u ∈ us, u ∈ before ∨ u ∈ after) →
      (us.filterMap shown).filter (fun b => p b) = [] := by
    intro us inside
    rw [List.filter_eq_nil_iff]
    intro b member
    obtain ⟨u, taken, found⟩ := List.mem_filterMap.1 member
    rw [decide_eq_true_eq]
    exact apart u (inside u taken) b found
  have behind := none after fun u => .inr
  rw [List.filterMap_append, List.filter_append, none before fun u => .inl, List.nil_append]
  cases found : shown a with
  | none =>
    rw [List.filterMap_cons_none found]
    exact behind
  | some b =>
    rw [List.filterMap_cons_some found, List.filter_cons, behind, decide_eq_true (here b found)]
    rfl

private theorem no_id_of_quiet {setting : Setting} {ts : List Turn}
    (follows : Follows setting {} ts)
    (quiet : ∀ t ∈ ts, t.step.capture = .nothing ∨ t.step.capture = .tokens)
    (kind : ResourceKind) : (View.through {} ts).session.id? kind = none := by
  rw [follows.id?_eq_none_iff]
  rintro ⟨t, member, stored⟩
  obtain ⟨id, kept⟩ := Option.ne_none_iff_exists'.1 stored
  obtain ⟨request, body, -, found⟩ := Turn.course_of_stored kept
  rcases quiet t member with nothing | tokens
  · rw [nothing] at found
    cases found
  · rw [tokens] at found
    cases found

section Canonical

variable {f : Fixture} {admin : Credentials} {list : List Phase} {setting : Setting}
  {answer : List Http.Request → Http.Request → Http.Outcome}
  (answers : setting.server.Answers answer)
  (canonical : Scenario.canonical? f admin = some list)

include answers canonical

private theorem login_split :
    ∃ before after,
      history setting list =
        before ++ turn setting (Scenario.loginStep admin) (View.through {} before) :: after ∧
      ∀ kind, (View.through {} before).session.id? kind = none := by
  obtain ⟨later, rfl⟩ : ∃ later,
      list = Scenario.health :: Scenario.authentication f admin :: later := by
    rw [Scenario.canonical?, Option.map_eq_some_iff] at canonical
    obtain ⟨traffic, -, rfl⟩ := canonical
    exact ⟨_, rfl⟩
  obtain ⟨first, rest, steps, idle⟩ : ∃ first rest, (Scenario.authentication f admin).steps =
      first :: Scenario.loginStep admin :: rest ∧ first.capture = .tokens :=
    ⟨_, _, rfl, rfl⟩
  let probes := block setting Scenario.health {}
  let registration := turn setting first (View.through {} probes)
  have begun : block setting (Scenario.authentication f admin) (View.through {} probes) =
      registration :: turn setting (Scenario.loginStep admin) registration.next ::
        turns setting rest (turn setting (Scenario.loginStep admin) registration.next).next := by
    have met : (Scenario.authentication f admin).missing? (View.through {} probes).session =
        none := rfl
    rw [block, met]
    simp only [steps, turns_cons answers]
    rfl
  have next : View.through {} (probes ++ [registration]) = registration.next := by
    rw [View.through_append]
    rfl
  have taken : ∃ after,
      history setting (Scenario.health :: Scenario.authentication f admin :: later) =
      (probes ++ [registration]) ++
        turn setting (Scenario.loginStep admin) (View.through {} (probes ++ [registration])) ::
          after := by
    rw [history, blocks_cons answers, blocks_cons answers, List.flatten_cons, List.flatten_cons,
      begun, next]
    exact ⟨_, (List.append_assoc probes [registration] _).symm⟩
  obtain ⟨after, split⟩ := taken
  refine ⟨probes ++ [registration], after, split, ?_⟩
  have follows : Follows setting {} (probes ++ [registration]) :=
    follows_append.2 ⟨follows_block setting Scenario.health {}, rfl, trivial⟩
  apply no_id_of_quiet follows
  intro t member
  rcases List.mem_append.1 member with probe | last
  · have taken : t.step ∈ Scenario.health.steps :=
      (map_step_block setting Scenario.health {}).subset (List.mem_map_of_mem probe)
    have probes : ∀ step ∈ Scenario.health.steps, step.capture = .nothing := by decide
    exact .inl (probes t.step taken)
  · rw [List.mem_singleton.1 last]
    exact .inr idle

omit answers in
private theorem sublist_entries (setting : Setting) :
    ((history setting list).map fun t => (t.step.name, t.step.shape)).Sublist Scenario.entries := by
  have steps := (map_step_history setting list).map fun step => (step.name, step.shape)
  rwa [Scenario.map_entry_canonical canonical, List.map_map] at steps

omit answers in
theorem pairwise_history {relation : String × Shape → String × Shape → Prop}
    (apart : Scenario.entries.Pairwise relation) {before after : List Turn} {t : Turn}
    (split : history setting list = before ++ t :: after) :
    (∀ u ∈ before, relation (u.step.name, u.step.shape) (t.step.name, t.step.shape)) ∧
      ∀ u ∈ after, relation (t.step.name, t.step.shape) (u.step.name, u.step.shape) := by
  have ordered := apart.sublist (sublist_entries canonical setting)
  rw [List.pairwise_map, split, List.pairwise_append, List.pairwise_cons] at ordered
  obtain ⟨-, ⟨behind, -⟩, across⟩ := ordered
  exact ⟨fun u member => across u member t List.mem_cons_self, behind⟩

omit answers in
private theorem login_apart {before after : List Turn} {t : Turn}
    (split : history setting list = before ++ t :: after) (login : t.step.name = "Admin Login") :
    ∀ u, u ∈ before ∨ u ∈ after → u.step.name ≠ "Admin Login" := by
  have names := List.pairwise_map.1 Scenario.nodup_names
  obtain ⟨ahead, behind⟩ := pairwise_history canonical names split
  rintro u (earlier | later) same
  · exact ahead u earlier (same.trans login.symm)
  · exact behind u later (login.trans same.symm)

omit answers in
private theorem name_of_logsIn {t : Turn} (member : t ∈ history setting list)
    {request : Http.Request}
    (sent : t.request? = some request) (login : LogsIn setting.bases request) :
    t.step.name = "Admin Login" := by
  obtain ⟨before, after, split⟩ := List.append_of_mem member
  have follows := follows_history setting list
  rw [split] at follows
  obtain ⟨-, asked, s, url⟩ := follows.sent sent
  obtain ⟨method, place⟩ := login
  have entry : (t.step.name, t.step.shape) ∈ Scenario.entries :=
    (sublist_entries canonical setting).subset (List.mem_map_of_mem member)
  obtain ⟨scope, only⟩ := Scenario.login_of_post _ entry (asked.symm.trans method)
  exact only (opening_of_url scope (url.symm.trans place))

omit answers in
private theorem logins_of_split {before after : List Turn} {t : Turn}
    (split : history setting list = before ++ t :: after) (login : t.step.name = "Admin Login")
    (asks : ∀ request, t.request? = some request → LogsIn setting.bases request) :
    ((history setting list).filterMap Turn.request?).filter (fun r => LogsIn setting.bases r) =
      t.request?.toList := by
  have apart := login_apart canonical split login
  have inside : ∀ u, u ∈ before ∨ u ∈ after → u ∈ history setting list := by
    rintro u (earlier | later)
    · rw [split]
      exact List.mem_append_left _ earlier
    · rw [split]
      exact List.mem_append_right _ (List.mem_cons_of_mem _ later)
  rw [split]
  apply filter_filterMap_of_apart asks
  intro u other request sent logs
  exact apart u other (name_of_logsIn canonical (inside u other) sent logs)

omit answers in
private theorem rows_of_split {before after : List Turn} {t : Turn}
    (split : history setting list = before ++ t :: after) (login : t.step.name = "Admin Login") :
    ((history setting list).filterMap Turn.row?).filter (fun row => row.name = "Admin Login") =
      t.row?.toList := by
  have apart := login_apart canonical split login
  rw [split]
  apply filter_filterMap_of_apart
  · intro row recorded
    exact (Turn.name_of_row recorded).trans login
  · intro u other row recorded named
    exact apart u other ((Turn.name_of_row recorded).symm.trans named)

private theorem login_whole {before after : List Turn} {t : Turn}
    (split : history setting list = before ++ t :: after) (login : t.step.name = "Admin Login")
    (asks : ∀ request, t.request? = some request → LogsIn setting.bases request) :
    (run setting list).state.requests.filter (fun r => LogsIn setting.bases r) =
        t.request?.toList ∧
      loginRows (run setting list).state.ledger = t.row?.toList := by
  have whole := completes answers list
  constructor
  · have deletions : (deletionsDue setting (phases setting list (start setting)).state).filter
        (fun r => LogsIn setting.bases r) = [] := by
      rw [List.filter_eq_nil_iff]
      intro request member
      obtain ⟨target, -, rfl⟩ := List.mem_map.1 member
      simp [LogsIn, deletionRequest]
    rw [whole.sent, List.filter_append, deletions, List.append_nil,
      logins_of_split canonical split login asks]
  · rw [loginRows, whole.ledger, map_row_stamped, List.filter_append,
      rows_of_split canonical split login]
    have deletions : ∀ targets results,
        (List.zipWith deletionRow targets results).filter (fun row => row.name = "Admin Login") =
          [] := by
      intro targets results
      rw [List.filter_eq_nil_iff]
      intro row member
      rw [← List.map_uncurry_zip_eq_zipWith] at member
      obtain ⟨⟨target, result⟩, -, rfl⟩ := List.mem_map.1 member
      have named : (deletionRow target result).name = "Cleanup: Delete " ++ target.1.title :=
        name_judged _ _ _ _
      have other : ∀ kind : ResourceKind, "Cleanup: Delete " ++ kind.title ≠ "Admin Login" := by
        rintro (_ | _ | _) <;> decide
      rw [decide_eq_true_eq]
      exact fun same => other target.1 (named.symm.trans same)
    rw [deletions, List.append_nil]

private theorem login_of_plain (plain : ∀ kind, ¬admin.Mentions kind) :
    ∃ earlier request later, (run setting list).state.requests = earlier ++ request :: later ∧
      (run setting list).state.requests.filter (fun r => LogsIn setting.bases r) = [request] ∧
      request.json = some (Fixture.login admin) ∧
      loginRows (run setting list).state.ledger = [judged "Admin Login" 200
        ("Successfully logged in as " ++ admin.username) (answer earlier request)] := by
  obtain ⟨before, after, split, empty⟩ := login_split answers canonical
  have follows := follows_history setting list
  rw [split] at follows
  have earlier : (View.through {} before).requests = before.filterMap Turn.request? :=
    (follows_append.1 follows).1.requests_through
  have missing : (Scenario.loginStep admin).missing? (View.through {} before).session = none := by
    rw [Step.missing?_eq_none_iff]
    intro kind mentioned
    exact absurd (Scenario.mentions_loginStep.1 mentioned) (plain kind)
  let request := (callOf (Scenario.loginStep admin) (some (Fixture.login admin))
    (View.through {} before).session).resolve setting.bases (View.through {} before).session.access
  have course : (turn setting (Scenario.loginStep admin) (View.through {} before)).course =
      .sent request (.outcome (answer (before.filterMap Turn.request?) request)) := by
    rw [← earlier, ← answers]
    simp only [turn, missing]
    rfl
  have sent : (turn setting (Scenario.loginStep admin) (View.through {} before)).request? =
      some request := by
    rw [Turn.request?, course]
  have url : request.url = setting.bases.api ++ "/auth/login" := by
    have path : (View.through {} before).session.renderPath "/auth/login" = "/auth/login" :=
      Session.substitute_of_empty empty _ _
    show setting.bases.api ++ (View.through {} before).session.renderPath "/auth/login" = _
    rw [path]
  have asks : LogsIn setting.bases request := ⟨rfl, url⟩
  have detail : (View.through {} before).session.render (Scenario.loginStep admin).detail =
      "Successfully logged in as " ++ admin.username :=
    Session.substitute_of_empty empty _ _
  have row : (turn setting (Scenario.loginStep admin) (View.through {} before)).row? =
      some (judged "Admin Login" 200 ("Successfully logged in as " ++ admin.username)
        (answer (before.filterMap Turn.request?) request)) := by
    rw [Turn.row?, course, ← detail]
    rfl
  obtain ⟨logins, rows⟩ := login_whole answers canonical split rfl (by
    intro other found
    rw [sent] at found
    rw [← Option.some.inj found]
    exact asks)
  refine ⟨before.filterMap Turn.request?, request, after.filterMap Turn.request? ++
    deletionsDue setting (phases setting list (start setting)).state, ?_, ?_, rfl, ?_⟩
  · rw [(completes answers list).sent, split, List.filterMap_append,
      List.filterMap_cons_some sent, List.append_assoc, List.cons_append]
  · rw [logins, sent]
    rfl
  · rw [rows, row]
    rfl

private theorem login_of_placeholder {kind : ResourceKind} (first : kind.IsFirst admin.Mentions) :
    (run setting list).state.requests.filter (fun r => LogsIn setting.bases r) = [] ∧
      loginRows (run setting list).state.ledger =
        [⟨"Admin Login", .fail, "no id available for " ++ kind.name⟩] := by
  obtain ⟨before, after, split, empty⟩ := login_split answers canonical
  have missing : (Scenario.loginStep admin).missing? (View.through {} before).session =
      some kind := by
    rw [Step.missing?_eq_some_iff]
    simp only [Scenario.mentions_loginStep, empty, and_true]
    exact first
  have course := course_lacking setting missing
  have idle : (turn setting (Scenario.loginStep admin) (View.through {} before)).request? =
      none := by
    rw [Turn.request?, course]
  have row : (turn setting (Scenario.loginStep admin) (View.through {} before)).row? =
      some (lackingRow (Scenario.loginStep admin) kind) := by
    rw [Turn.row?, course]
    rfl
  obtain ⟨logins, rows⟩ := login_whole answers canonical split rfl (by
    intro request sent
    rw [idle] at sent
    cases sent)
  rw [logins, rows, idle, row]
  exact ⟨rfl, rfl⟩

end Canonical

/-- Against a server that answers every request, a run of the canonical scenario sends the admin's
name and password in its only login, which passes with the status 200, if and only if no placeholder
stands in the name; otherwise it sends no login, for want of an identifier. -/
theorem logs_in_iff {f : Fixture} {admin : Credentials} {list : List Phase}
    (canonical : Scenario.canonical? f admin = some list) (setting : Setting)
    (answer : List Http.Request → Http.Request → Http.Outcome) :
    let setting := setting.answering answer
    let final := (run setting list).state
    let logins := final.requests.filter fun r => LogsIn setting.bases r
    ((∃ earlier request later, final.requests = earlier ++ request :: later ∧
        logins = [request] ∧
        request.json = some (.object
          [("password", .string admin.password), ("username", .string admin.username)]) ∧
        ∀ body, answer earlier request = .response 200 body →
          loginRows final.ledger =
            [⟨"Admin Login", .pass, "Successfully logged in as " ++ admin.username⟩]) ↔
      ∀ kind, ¬admin.Mentions kind) ∧
    ∀ kind : ResourceKind, kind.IsFirst admin.Mentions → logins = [] ∧
      loginRows final.ledger = [⟨"Admin Login", .fail, "no id available for " ++ kind.name⟩] := by
  intro setting final logins
  have answers : setting.server.Answers answer := answers_answering _ answer
  refine ⟨⟨?_, ?_⟩, fun kind first => login_of_placeholder answers canonical first⟩
  · rintro ⟨earlier, request, later, -, one, -⟩ kind mentioned
    obtain ⟨first, lacking⟩ := ResourceKind.exists_isFirst ⟨kind, mentioned⟩
    have none : logins = [] := (login_of_placeholder answers canonical lacking).1
    rw [one] at none
    cases none
  · intro plain
    obtain ⟨earlier, request, later, split, one, json, rows⟩ :=
      login_of_plain answers canonical plain
    refine ⟨earlier, request, later, split, one, ?_, ?_⟩
    · rw [json, Fixture.login_eq]
    · intro body reply
      show loginRows (run setting list).state.ledger = _
      rw [rows, reply]
      rfl

theorem default_logs_in :
    Scenario.canonical? ⟨1700000000, ⟨2024, 3, 5⟩⟩ {} = some sample ∧
    ∃ request, (run (numbered.answering numbering) sample).state.requests.filter
        (fun r => LogsIn numbered.bases r) = [request] ∧
      request.json =
        some (.object [("password", .string "admin123"), ("username", .string "admin")]) := by
  have plain : ∀ kind, ¬({} : Credentials).Mentions kind := by
    rintro (_ | _ | _) <;> decide
  obtain ⟨earlier, request, later, -, one, json, -⟩ :=
    (logs_in_iff canonical_sample numbered numbering).1.2 plain
  exact ⟨canonical_sample, request, one, json⟩

def obliging (_ : List Http.Request) (_ : Http.Request) : Http.Outcome :=
  .response 200 .empty

def shadow : Credentials := { username := "\x7buser_id\x7d" }

/-- This admin never logs in, although every login would be accepted. -/
theorem shadow_never_logs_in :
    ∃ list, Scenario.canonical? ⟨1700000000, ⟨2024, 3, 5⟩⟩ shadow = some list ∧
      (run (numbered.answering obliging) list).state.requests.filter
        (fun r => LogsIn numbered.bases r) = [] ∧
      loginRows (run (numbered.answering obliging) list).state.ledger =
        [⟨"Admin Login", .fail, "no id available for user"⟩] := by
  have first : ResourceKind.user.IsFirst shadow.Mentions := ⟨[], _, rfl, by decide, by simp⟩
  have canonical : ∃ list, Scenario.canonical? ⟨1700000000, ⟨2024, 3, 5⟩⟩ shadow = some list :=
    ⟨_, rfl⟩
  obtain ⟨list, canonical⟩ := canonical
  have answers : (numbered.answering obliging).server.Answers obliging :=
    answers_answering numbered obliging
  exact ⟨list, canonical, login_of_placeholder answers canonical first⟩

end Run

end PanelProbe
