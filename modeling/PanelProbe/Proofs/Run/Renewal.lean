import PanelProbe.Proofs.Run.Bearer
import PanelProbe.Proofs.Run.Login

/-!
The token with which the access token of the admin is renewed. A login that shows no refresh token
leaves the one of the registration in force, next to the access token of the admin.
-/

set_option autoImplicit false

namespace PanelProbe

namespace Scenario

def refreshStep : Step where
  name := "Token Refresh"
  method := .post
  path := "/auth/refresh"
  payload := .refreshToken
  authorized := false
  capture := .accessToken
  detail := "Successfully refreshed token"

private theorem tokens_before_login :
    entries.Pairwise fun earlier later => later.1 = "Admin Login" →
    earlier.2.capture = .tokens ∨ earlier.2.capture = .accessToken →
      earlier.1 = "User Registration" := by
  decide

private theorem tokens_behind_login :
    entries.Pairwise fun earlier later => earlier.1 = "Admin Login" →
    later.2.capture = .tokens ∨ later.2.capture = .accessToken → later.1 = "Token Refresh" := by
  decide

variable {f : Fixture} {admin : Credentials} {list : List Phase}

private theorem mem_refreshStep (canonical : canonical? f admin = some list) :
    refreshStep ∈ list.flatMap Phase.steps := by
  rw [canonical?, Option.map_eq_some_iff] at canonical
  obtain ⟨traffic, -, rfl⟩ := canonical
  have inside : refreshStep ∈ (authentication f admin).steps := by
    simp [authentication, refreshStep]
  exact List.mem_flatMap.2 ⟨authentication f admin, by simp, inside⟩

private theorem eq_of_name (canonical : canonical? f admin = some list) {one other : Step}
    (one_mem : one ∈ list.flatMap Phase.steps) (other_mem : other ∈ list.flatMap Phase.steps)
    (same : one.name = other.name) : one = other := by
  have distinct := nodup_names
  rw [← map_entry_canonical canonical, List.map_map] at distinct
  exact List.inj_on_of_nodup_map distinct one_mem other_mem same

end Scenario

namespace Run

/-- The reply with which a step passed holds the token where a refresh token may stand. -/
def Turn.Carries (t : Turn) (token : String) : Prop :=
  ∃ body, t.body? = some body ∧
    (body.at? "refresh_token" = some (.string token) ∨
      body.at? "data.refresh_token" = some (.string token))

namespace Turn

variable {t : Turn} {token : String}

private theorem carries_iff : t.Carries token ↔ ∃ body, t.body? = some body ∧
    ∃ address ∈ Capture.refreshAddresses, body.at? address = some (.string token) := by
  simp only [Carries, Capture.refreshAddresses, List.mem_cons, List.not_mem_nil, or_false,
    exists_eq_or_imp, exists_eq_left]

private theorem keeps_of_refresh? (h : t.refresh? = some token) :
    t.step.capture = .tokens ∨ t.step.capture = .accessToken := by
  obtain ⟨body, -, kept⟩ := Option.bind_eq_some_iff.1 h
  cases rule : t.step.capture with
  | tokens => exact .inl rfl
  | accessToken => exact .inr rfl
  | nothing | createdId | firstListedId =>
    rw [rule] at kept
    cases kept

private theorem keeps_of_access? (h : t.access? = some token) :
    t.step.capture = .tokens ∨ t.step.capture = .accessToken := by
  obtain ⟨request, body, -, keeps, -⟩ := access?_eq_some_iff.1 h
  exact keeps

private theorem carries_of_refresh? (h : t.refresh? = some token) :
    token ≠ "" ∧ t.Carries token := by
  have keeps := keeps_of_refresh? h
  obtain ⟨body, replied, kept⟩ := Option.bind_eq_some_iff.1 h
  have found : body.firstText? Capture.refreshAddresses = some token := by
    rcases keeps with rule | rule
    all_goals
      rw [rule] at kept
      obtain ⟨-, -, found⟩ := Option.bind_eq_some_iff.1 kept
      exact found
  obtain ⟨filled, place⟩ := Json.at_of_firstText? found
  exact ⟨filled, carries_iff.2 ⟨body, replied, place⟩⟩

private theorem refresh?_eq_none_iff {access : String} (handed : t.Hands access) :
    t.refresh? = none ↔ ∀ other, t.Carries other → other = "" := by
  obtain ⟨request, body, course, keeps, shows⟩ := handed
  have replied : t.body? = some body := body?_eq_some_iff.2 ⟨request, course⟩
  have first : body.firstText? Capture.accessAddresses = some access := Json.showsToken_iff.1 shows
  have stored : t.refresh? = body.firstText? Capture.refreshAddresses := by
    rw [refresh?, replied]
    rcases keeps with rule | rule
    all_goals
      rw [rule]
      simp only [Option.bind_some, Capture.refresh?, first]
  simp only [stored, Json.firstText?_eq_none_iff, carries_iff, replied, Option.some.injEq,
    exists_eq_left']
  constructor
  · rintro blank other ⟨address, member, place⟩
    exact blank address member other place
  · intro blank address member other place
    exact blank other ⟨address, member, place⟩

end Turn

section Canonical

variable {f : Fixture} {admin : Credentials} {list : List Phase} {setting : Setting}
  (canonical : Scenario.canonical? f admin = some list)

include canonical

private theorem refresh_behind_login {before after : List Turn} {t : Turn}
    (split : history setting list = before ++ t :: after) (login : t.step.name = "Admin Login")
    {access token : String} (handed : t.Hands access) (held : t.after.refresh = some token) :
    (t.Carries token ↔ ∃ other, other ≠ "" ∧ t.Carries other) ∧
      (¬t.Carries token → ∃ u ∈ before, u.step.name = "User Registration" ∧ u.Carries token) := by
  have follows := follows_history setting list
  rw [split] at follows
  have met : t.view = View.through {} before := congrArg Turn.view follows.eq_turn
  rw [Turn.refresh_after, met] at held
  cases stored : t.refresh? with
  | some own =>
    rw [stored, Option.some_or] at held
    obtain rfl : own = token := Option.some.inj held
    obtain ⟨filled, carried⟩ := Turn.carries_of_refresh? stored
    exact ⟨iff_of_true carried ⟨own, filled, carried⟩, fun absent => absurd carried absent⟩
  | none =>
    -- What is held is older, and before the login only the registration keeps tokens.
    rw [stored, Option.none_or] at held
    have blank := (Turn.refresh?_eq_none_iff handed).1 stored
    have earlier : Follows setting {} before := (follows_append.1 follows).1
    rw [earlier.refresh_through, show ({} : View).session.refresh = none from rfl,
      Option.or_none] at held
    obtain ⟨u, member, kept⟩ := List.mem_filterMap.1 (List.mem_of_getLast? held)
    obtain ⟨filled, carried⟩ := Turn.carries_of_refresh? kept
    have registration : u.step.name = "User Registration" :=
      (pairwise_history canonical Scenario.tokens_before_login split).1 u member login
        (Turn.keeps_of_refresh? kept)
    refine ⟨iff_of_false ?_ ?_, fun _ => ⟨u, member, registration, carried⟩⟩
    · exact fun own => filled (blank token own)
    · rintro ⟨other, nonempty, own⟩
      exact nonempty (blank other own)

private theorem tokens_at_refresh {before mid rest : List Turn} {t u : Turn}
    (split : history setting list = before ++ t :: (mid ++ u :: rest))
    (login : t.step.name = "Admin Login") (renewal : u.step.name = "Token Refresh") :
    u.view.session.access = t.after.access ∧ u.view.session.refresh = t.after.refresh := by
  have follows := follows_history setting list
  rw [split] at follows
  have behind : Follows setting t.next (mid ++ u :: rest) := by
    have later := (follows_append.1 follows).2
    exact later.2
  have met : u.view = t.next.through mid := congrArg Turn.view behind.eq_turn
  -- Behind the login only the renewal keeps tokens, and it comes once.
  have idle : ∀ w ∈ mid, ¬(w.step.capture = .tokens ∨ w.step.capture = .accessToken) := by
    intro w member keeps
    have inside : w ∈ mid ++ u :: rest := List.mem_append_left _ member
    have named : w.step.name = "Token Refresh" :=
      (pairwise_history canonical Scenario.tokens_behind_login split).2 w inside login keeps
    have whole : history setting list = (before ++ t :: mid) ++ u :: rest := by simp [split]
    have earlier : w ∈ before ++ t :: mid := by simp [member]
    have names := List.pairwise_map.1 Scenario.nodup_names
    exact (pairwise_history canonical names whole).1 w earlier (named.trans renewal.symm)
  have between : Follows setting t.next mid := (follows_append.1 behind).1
  have access : mid.filterMap Turn.access? = [] := by
    rw [List.filterMap_eq_nil_iff]
    intro w member
    rw [Option.eq_none_iff_forall_ne_some]
    exact fun token kept => idle w member (Turn.keeps_of_access? kept)
  have refresh : mid.filterMap Turn.refresh? = [] := by
    rw [List.filterMap_eq_nil_iff]
    intro w member
    rw [Option.eq_none_iff_forall_ne_some]
    exact fun token kept => idle w member (Turn.keeps_of_refresh? kept)
  rw [met, between.access_through, between.refresh_through, access, refresh]
  exact ⟨rfl, rfl⟩

private theorem json_of_refresh {u : Turn} (member : u ∈ history setting list)
    (renewal : u.step.name = "Token Refresh") {request : Http.Request}
    (sent : u.request? = some request) :
    ∃ token, u.view.session.refresh = some token ∧ request.json = some (refreshBody token) := by
  have inside : u.step ∈ list.flatMap Phase.steps :=
    (map_step_history setting list).subset (List.mem_map_of_mem member)
  have step : u.step = Scenario.refreshStep :=
    Scenario.eq_of_name canonical inside (Scenario.mem_refreshStep canonical) renewal
  obtain ⟨before, after, split⟩ := List.append_of_mem member
  have follows := follows_history setting list
  rw [split] at follows
  have equal := follows.eq_turn
  have met : u.view = View.through {} before := congrArg Turn.view equal
  rw [equal] at sent
  obtain ⟨payload, given, rfl⟩ := resolved_turn sent
  rw [step, ← met] at given
  obtain ⟨token, held, rfl⟩ := Option.map_eq_some_iff.1 given
  refine ⟨token, held, ?_⟩
  rw [step]
  rfl

end Canonical

/-- When the login of a run hands out an access token, that token is in force behind it, and a
refresh token next to it comes from the login if and only if the login's reply holds one that is not
empty; otherwise it is the one of the registration. Both are what the renewal finds, and the refresh
token is what it sends. -/
theorem renews_login_iff {f : Fixture} {admin : Credentials} {list : List Phase}
    (canonical : Scenario.canonical? f admin = some list) (setting : Setting)
    {before after : List Turn} {t : Turn} (split : history setting list = before ++ t :: after)
    (login : t.step.name = "Admin Login") {access : String} (handed : t.Hands access) :
    t.after.access = some access ∧
    (∀ token, t.after.refresh = some token →
      (t.Carries token ↔ ∃ other, other ≠ "" ∧ t.Carries other) ∧
      (¬t.Carries token → ∃ r ∈ before, r.step.name = "User Registration" ∧ r.Carries token)) ∧
    ∀ u ∈ after, u.step.name = "Token Refresh" →
      u.view.session.access = some access ∧ u.view.session.refresh = t.after.refresh ∧
      ∀ request, u.request? = some request →
        ∃ token, t.after.refresh = some token ∧ request.json = some (refreshBody token) := by
  have own : t.after.access = some access := by
    rw [Turn.access_after, Turn.access?_eq_some_iff.2 handed, Option.some_or]
  refine ⟨own, ?_, ?_⟩
  · intro token held
    exact refresh_behind_login canonical split login handed held
  · intro u member renewal
    obtain ⟨mid, rest, rfl⟩ := List.append_of_mem member
    obtain ⟨admitted, kept⟩ := tokens_at_refresh canonical split login renewal
    refine ⟨admitted.trans own, kept, ?_⟩
    intro request sent
    have whole : u ∈ history setting list := by
      rw [split]
      exact List.mem_append_right _ (List.mem_cons_of_mem _ member)
    obtain ⟨token, held, json⟩ := json_of_refresh canonical whole renewal sent
    exact ⟨token, kept.symm.trans held, json⟩

/-- Gives two tokens to whoever registers, and to the admin what it likes. -/
def handing (login : List (String × Json)) : Setting where
  server := fun _ request => .outcome <|
    if request.url = "http://api.test/api/v1/auth/register" then
      .response 201 (.json (.ofMembers
        [("access_token", .string "reg-access"), ("refresh_token", .string "reg-refresh")]))
    else if request.url = "http://api.test/api/v1/auth/login" then
      .response 200 (.json (.ofMembers login))
    else .response 500 .empty
  bases := ⟨"http://api.test", "http://api.test/api/v1"⟩
  clock := fun _ => ""

theorem own_token_renews_admin :
    let setting := handing
      [("access_token", .string "admin-access"), ("refresh_token", .string "admin-refresh")]
    Scenario.canonical? ⟨1700000000, ⟨2024, 3, 5⟩⟩ {} = some sample ∧
    ∃ before t after, history setting sample = before ++ t :: after ∧
      t.step.name = "Admin Login" ∧ t.Hands "admin-access" ∧ t.Carries "admin-refresh" ∧
      ∃ u ∈ after, u.step.name = "Token Refresh" ∧ ∃ request, u.request? = some request ∧
        request.json = some (refreshBody "admin-refresh") := by
  intro setting
  have admitted : ∃ t ∈ (history setting sample)[4]?, t.step.name = "Admin Login" ∧
      t.access? = some "admin-access" ∧ t.refresh? = some "admin-refresh" := by decide +kernel
  have renewed : ∃ u ∈ (history setting sample).drop 5,
      u.step.name = "Token Refresh" ∧ u.request?.isSome := by decide +kernel
  obtain ⟨t, fifth, login, access, stored⟩ := admitted
  obtain ⟨u, member, renewal, sent⟩ := renewed
  obtain ⟨request, sent⟩ := Option.isSome_iff_exists.1 sent
  have split : history setting sample =
      (history setting sample).take 4 ++ t :: (history setting sample).drop 5 := by
    obtain ⟨long, rfl⟩ := List.getElem?_eq_some_iff.1 fifth
    rw [← List.drop_eq_getElem_cons long, List.take_append_drop]
  have handed : t.Hands "admin-access" := Turn.access?_eq_some_iff.1 access
  have held : t.after.refresh = some "admin-refresh" := by
    rw [Turn.refresh_after, stored, Option.some_or]
  obtain ⟨-, -, renews⟩ := renews_login_iff canonical_sample setting split login handed
  obtain ⟨token, kept, json⟩ := (renews u member renewal).2.2 request sent
  obtain rfl : "admin-refresh" = token := Option.some.inj (held.symm.trans kept)
  exact ⟨canonical_sample, _, t, _, split, login, handed, (Turn.carries_of_refresh? stored).2,
    u, member, renewal, request, sent, json⟩

/-- The admin's token is renewed with the refresh token of the registration when the login shows
none. -/
theorem registration_token_renews_admin :
    let setting := handing [("access_token", .string "admin-access")]
    Scenario.canonical? ⟨1700000000, ⟨2024, 3, 5⟩⟩ {} = some sample ∧
    ∃ t ∈ history setting sample, ∃ u ∈ history setting sample,
      t.step.name = "Admin Login" ∧ t.Hands "admin-access" ∧ u.step.name = "Token Refresh" ∧
      u.view.session.access = some "admin-access" ∧ ∃ request, u.request? = some request ∧
        request.json = some (refreshBody "reg-refresh") ∧ ¬t.Carries "reg-refresh" := by
  intro setting
  have admitted : ∃ t ∈ history setting sample, t.step.name = "Admin Login" ∧
      t.access? = some "admin-access" ∧ t.refresh? = none := by decide +kernel
  have renewed : ∃ u ∈ history setting sample, u.step.name = "Token Refresh" ∧
      u.request?.isSome ∧ u.view.session.access = some "admin-access" ∧
      u.view.session.refresh = some "reg-refresh" := by decide +kernel
  obtain ⟨t, t_mem, login, access, blank⟩ := admitted
  obtain ⟨u, u_mem, renewal, sent, admin, foreign⟩ := renewed
  obtain ⟨request, sent⟩ := Option.isSome_iff_exists.1 sent
  have handed : t.Hands "admin-access" := Turn.access?_eq_some_iff.1 access
  obtain ⟨token, held, json⟩ := json_of_refresh canonical_sample u_mem renewal sent
  obtain rfl : "reg-refresh" = token := Option.some.inj (foreign.symm.trans held)
  have absent : ¬t.Carries "reg-refresh" := by
    intro carried
    have empty := (Turn.refresh?_eq_none_iff handed).1 blank _ carried
    exact absurd empty (by decide)
  exact ⟨canonical_sample, t, t_mem, u, u_mem, login, handed, renewal, admin, request, sent, json,
    absent⟩

end Run

end PanelProbe
