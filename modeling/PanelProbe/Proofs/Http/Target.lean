import PanelProbe.Http.Message

/-!
When requests become messages, and what the request lines of these name. Without a query payload
that is the target of the request's address.
-/

set_option autoImplicit false

namespace PanelProbe.Http

theorem exists_cutCredentials (url : Url) : ∃ username password,
    (cutCredentials url).1 = { url with username := username, password := password } := by
  unfold cutCredentials
  split
  · exact ⟨_, _, rfl⟩
  · dsimp only
    split <;> exact ⟨_, _, rfl⟩

private theorem target_cutCredentials (url : Url) : (cutCredentials url).1.target = url.target := by
  obtain ⟨username, password, cut⟩ := exists_cutCredentials url
  rw [cut]
  rfl

variable {request : Request} {url : Url}

theorem message_eq_ok_iff {m : Message} : request.message = .ok m ↔
    ∃ url, Url.parse request.url.toList = .ok url ∧ hasHost url = true ∧
      request.headers.all isHeader = true ∧ ∃ u, request.address (cutCredentials url).1 = .ok u ∧
        isWebAddress u = true ∧ m =
          { method := request.method, url := u, body := request.json.map Json.compact
            headers := wireHeaders (cutCredentials url).2 request
              (request.json.map Json.compact) } := by
  constructor
  · intro sent
    unfold Request.message at sent
    split at sent
    · cases sent
    · rename_i url parsed
      split at sent
      · cases sent
      rename_i host
      dsimp only at sent
      split at sent
      · cases sent
      rename_i headers
      cases addressed : request.address (cutCredentials url).1 with
      | error refusal =>
        rw [addressed] at sent
        cases sent
      | ok u =>
        rw [addressed] at sent
        change (if !isWebAddress u then _ else _) = _ at sent
        split at sent
        · cases sent
        rename_i web
        obtain rfl := Except.ok.inj sent
        exact ⟨url, parsed, by simpa using host, by simpa using headers, u, addressed,
          by simpa using web, rfl⟩
  · rintro ⟨url, parsed, host, headers, u, addressed, web, rfl⟩
    simp only [Request.message, parsed, host, headers, addressed, bind, Except.bind, web]
    rfl

theorem exists_message_iff_of_address {u : Url} (parsed : Url.parse request.url.toList = .ok url)
    (host : hasHost url = true) (addressed : request.address (cutCredentials url).1 = .ok u) :
    (∃ m, request.message = .ok m) ↔
      request.headers.all isHeader = true ∧ isWebAddress u = true := by
  constructor
  · rintro ⟨m, sent⟩
    obtain ⟨url', parsed', -, headers, u', addressed', web, -⟩ := message_eq_ok_iff.1 sent
    obtain rfl : url = url' := Except.ok.inj (parsed.symm.trans parsed')
    obtain rfl : u = u' := Except.ok.inj (addressed.symm.trans addressed')
    exact ⟨headers, web⟩
  · rintro ⟨headers, web⟩
    exact ⟨_, message_eq_ok_iff.2 ⟨url, parsed, host, headers, u, addressed, web, rfl⟩⟩

private theorem address_of_noQuery (noQuery : request.query = none) (url : Url) :
    request.address url = .ok url := by
  rw [Request.address, noQuery]

theorem exists_message_iff (noQuery : request.query = none)
    (parsed : Url.parse request.url.toList = .ok url) (host : hasHost url = true) :
    (∃ m, request.message = .ok m) ↔
      request.headers.all isHeader = true ∧ isWebAddress (cutCredentials url).1 = true :=
  exists_message_iff_of_address parsed host (address_of_noQuery noQuery _)

theorem target_of_message {m : Message} (noQuery : request.query = none)
    (parsed : Url.parse request.url.toList = .ok url) (sent : request.message = .ok m) :
    m.method = request.method ∧ m.url.target = url.target := by
  obtain ⟨url', parsed', -, -, u, addressed, -, rfl⟩ := message_eq_ok_iff.1 sent
  obtain rfl : url = url' := Except.ok.inj (parsed.symm.trans parsed')
  obtain rfl := Except.ok.inj ((address_of_noQuery noQuery _).symm.trans addressed)
  exact ⟨rfl, target_cutCredentials url⟩

end PanelProbe.Http
