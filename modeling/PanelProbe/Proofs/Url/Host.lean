import PanelProbe.Http.Message
import PanelProbe.Proofs.Url.Extension

/-!
URLs of the web name a host, and their paths end before the query: authority and path are read
apart.
-/

set_option autoImplicit false

namespace PanelProbe.Url

variable {scheme : String} {text : List Char}

private theorem Host.ofName_ne_empty {host : Host} (read : Host.ofName text = .ok host) :
    host ≠ .name [] := by
  unfold Host.ofName at read
  split at read
  case h_1 found bracketed =>
    unfold bracketed? at bracketed
    split at bracketed
    · split at bracketed
      · obtain rfl := Option.some.inj bracketed
        obtain ⟨pieces, -, rfl⟩ := ok_of_map_eq_ok read
        simp
      · cases bracketed
        cases read
    · cases bracketed
  case h_2 =>
    obtain ⟨name, -, read⟩ := ok_of_bind_eq_ok read
    split at read
    case isTrue => cases read
    case isFalse nonempty =>
      split at read
      · obtain ⟨address, -, rfl⟩ := ok_of_map_eq_ok read
        simp
      · cases read
        simpa using nonempty

private theorem authorityOf_host {followed : Bool} {a : Authority} {left : List Char}
    (special : isSpecial scheme = true) (read : authorityOf scheme followed text = .ok (a, left)) :
    a.host ≠ .name [] := by
  unfold authorityOf at read
  dsimp only at read
  rw [special] at read
  split at read
  · simp at read
  · simp only [if_true] at read
    obtain ⟨host, named, read⟩ := ok_of_bind_eq_ok read
    obtain ⟨port, -, read⟩ := ok_of_bind_eq_ok read
    cases read
    exact Host.ofName_ne_empty named

private theorem exists_authority {u : Url} (parsed : parse text = .ok u)
    (web : u.scheme = "http" ∨ u.scheme = "https") :
    ∃ followed place behind a left, isSpecial u.scheme = true ∧ (u.scheme == "file") = false ∧
      authorityOf u.scheme followed place = .ok (a, left) ∧ u.host = some a.host ∧
      u.path = pathOf u.scheme (left ++ behind) := by
  cases named : cutScheme? (clean text) with
  | none => rw [parse, named] at parsed; cases parsed
  | some both =>
    obtain ⟨scheme, behind⟩ := both
    rw [scheme_of_parse parsed named] at web
    rcases atHash : Text.cut '#' behind with ⟨front, fragment⟩
    rcases atMark : Text.cut '?' front with ⟨place, query⟩
    rw [parse_of_cuts named atHash atMark] at parsed
    obtain ⟨⟨found, path⟩, located, rfl⟩ := ok_of_map_eq_ok parsed
    have special : isSpecial scheme = true := by obtain rfl | rfl := web <;> rfl
    have noFile : (scheme == "file") = false := by obtain rfl | rfl := web <;> rfl
    rw [hierarchy_of_special special noFile] at located
    obtain ⟨⟨a, left⟩, read, same⟩ := ok_of_map_eq_ok located
    obtain ⟨rfl, rfl⟩ := Prod.mk.inj same
    exact ⟨_, _, _, a, left, special, noFile, read, rfl, rfl⟩

theorem hasHost_of_parse {u : Url} (parsed : parse text = .ok u)
    (web : u.scheme = "http" ∨ u.scheme = "https") : Http.hasHost u = true := by
  obtain ⟨_, _, _, a, _, special, _, read, host, _⟩ := exists_authority parsed web
  have named := authorityOf_host special read
  rw [Http.hasHost, host]
  cases given : a.host with
  | name text => simpa [given] using named
  | ipv4 => rfl
  | ipv6 => rfl

theorem question_notMem_path {u : Url} (parsed : parse text = .ok u)
    (web : u.scheme = "http" ∨ u.scheme = "https") : '?' ∉ u.path.text := by
  obtain ⟨_, _, _, _, _, _, noFile, _, _, path⟩ := exists_authority parsed web
  rw [path]
  exact notMem_text_pathOf noFile (by decide) (by decide) (by decide) _

theorem cut_target {u : Url} (absent : '?' ∉ u.path.text) :
    Text.cut '?' u.target = (u.path.text, u.query) := by
  unfold target queryText
  cases u.query with
  | none => exact (congrArg _ (List.append_nil _)).trans (Text.cut_of_notMem absent)
  | some query => exact Text.cut_append_cons absent

end PanelProbe.Url
