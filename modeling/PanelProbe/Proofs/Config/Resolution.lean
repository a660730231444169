import PanelProbe.Proofs.Config.Endpoint

/-!
Resolved configurations. Blanks around the base address go before the slashes at its end do, so a
blank in front of those slashes stays. Where there is none, a resolved configuration is its own
resolution.
-/

set_option autoImplicit false

namespace PanelProbe.Config

/-- No blank stands in front of the text or behind it. -/
def Tight (text : List Char) : Prop :=
  (∀ c ∈ text.head?, Text.isBlank c = false) ∧ ∀ c ∈ text.getLast?, Text.isBlank c = false

/-- What a raw address is without the blanks around it and then without the slashes at its end. -/
def Trimmed (raw address : List Char) : Prop :=
  ∃ before slashes after, raw = before ++ ((address ++ slashes) ++ after) ∧
    (∀ c ∈ before, Text.isBlank c = true) ∧ (∀ c ∈ after, Text.isBlank c = true) ∧
    Tight (address ++ slashes) ∧ (∀ c ∈ slashes, c = '/') ∧ address.getLast? ≠ some '/'

/-- A blank stands directly in front of the slashes at the end, behind which are blanks alone. -/
def HidesBlank (raw : List Char) : Prop :=
  ∃ front blank slashes after, raw = front ++ [blank] ++ slashes ++ after ∧
    Text.isBlank blank = true ∧ slashes ≠ [] ∧ (∀ c ∈ slashes, c = '/') ∧
    ∀ c ∈ after, Text.isBlank c = true

def IsWeb (text : List Char) : Prop :=
  ∃ url, Url.parse text = .ok url ∧ (url.scheme = "http" ∨ url.scheme = "https")

variable {raw address : List Char}

private theorem isBlank_slash : Text.isBlank '/' = false := by
  decide

theorem IsWeb.ne_nil (web : IsWeb address) : address ≠ [] := by
  rintro rfl
  obtain ⟨url, parsed, -⟩ := web
  cases parsed

/-! Trimming. -/

private theorem withoutSlashes_of_getLast? (last : address.getLast? ≠ some '/') :
    withoutSlashes address = address := by
  refine Text.dropEnd_of_getLast? fun c found => ?_
  rw [beq_eq_false_iff_ne]
  rintro rfl
  exact last found

theorem withoutSlashes_append {slashes : List Char} (last : address.getLast? ≠ some '/')
    (all : ∀ c ∈ slashes, c = '/') : withoutSlashes (address ++ slashes) = address := by
  rw [withoutSlashes, Text.dropEnd_append_of_all fun c member => by rw [all c member]; rfl]
  exact withoutSlashes_of_getLast? last

theorem getLast?_withoutSlashes (text : List Char) : (withoutSlashes text).getLast? ≠ some '/' := by
  intro last
  have other := Text.getLast?_dropEnd (· == '/') text '/' last
  cases other

private theorem trim_append {before text after : List Char}
    (front : ∀ c ∈ before, Text.isBlank c = true)
    (back : ∀ c ∈ after, Text.isBlank c = true) (tight : Tight text) :
    Text.trim (before ++ (text ++ after)) = text := by
  rw [Text.trim, List.dropWhile_append_of_pos front]
  cases text with
  | nil => rw [List.nil_append, List.dropWhile_eq_nil_iff.2 back]; rfl
  | cons c rest =>
    have visible : Text.isBlank c = false := tight.1 c rfl
    rw [List.cons_append, List.dropWhile_cons_of_neg (by rw [visible]; decide), ← List.cons_append,
      Text.dropEnd_append_of_all back, Text.dropEnd_of_getLast? tight.2]

private theorem tight_trim (raw : List Char) : Tight (Text.trim raw) := by
  refine ⟨fun c first => ?_, Text.getLast?_dropEnd Text.isBlank _⟩
  obtain ⟨dropped, -, whole⟩ := Text.exists_dropEnd Text.isBlank (raw.dropWhile Text.isBlank)
  have visible := List.head?_dropWhile_not Text.isBlank raw
  have found : (raw.dropWhile Text.isBlank).head? = some c := by
    rw [whole, List.head?_append, ← Text.trim, first]
    rfl
  rw [found] at visible
  exact visible

theorem trimmed_iff : Trimmed raw address ↔ withoutSlashes (Text.trim raw) = address := by
  constructor
  · rintro ⟨before, slashes, after, rfl, front, back, tight, all, last⟩
    rw [trim_append front back tight, withoutSlashes_append last all]
  · rintro rfl
    obtain ⟨after, back, whole⟩ := Text.exists_dropEnd Text.isBlank (raw.dropWhile Text.isBlank)
    obtain ⟨slashes, all, split⟩ := Text.exists_dropEnd (· == '/') (Text.trim raw)
    refine ⟨raw.takeWhile Text.isBlank, slashes, after, ?_, fun c => List.mem_takeWhile_imp, back,
      ?_, fun c member => beq_iff_eq.1 (all c member), getLast?_withoutSlashes _⟩
    · rw [withoutSlashes, ← split, Text.trim, ← whole, List.takeWhile_append_dropWhile]
    · rw [withoutSlashes, ← split]
      exact tight_trim raw

private theorem withoutSlashes_dropEnd {text slashes after : List Char}
    (visible : ∀ c ∈ (text ++ slashes).getLast?, Text.isBlank c = false)
    (all : ∀ c ∈ slashes, c = '/') (back : ∀ c ∈ after, Text.isBlank c = true)
    (last : text.getLast? ≠ some '/') :
    withoutSlashes (Text.dropEnd Text.isBlank (text ++ slashes ++ after)) = text := by
  rw [Text.dropEnd_append_of_all back, Text.dropEnd_of_getLast? visible,
    withoutSlashes_append last all]

private theorem Trimmed.tight_iff (trimmed : Trimmed raw address) (nonempty : address ≠ []) :
    Tight address ↔ ¬HidesBlank raw := by
  obtain ⟨before, slashes, after, whole, front, back, tight, all, last⟩ := trimmed
  constructor
  · rintro closed ⟨start, blank, slashes', after', split, isBlank, some', all', back'⟩
    have same : start ++ [blank] = before ++ address := by
      have one : withoutSlashes (Text.dropEnd Text.isBlank
          (start ++ [blank] ++ slashes' ++ after')) = start ++ [blank] := by
        refine withoutSlashes_dropEnd (fun c found => ?_) all' back' ?_
        · rw [List.getLast?_append_of_ne_nil _ some'] at found
          rw [all' c (List.mem_of_getLast? found), isBlank_slash]
        · rw [List.getLast?_concat]
          rintro ⟨⟩
          cases isBlank_slash.symm.trans isBlank
      have other : withoutSlashes (Text.dropEnd Text.isBlank
          (before ++ address ++ slashes ++ after)) = before ++ address := by
        refine withoutSlashes_dropEnd (fun c found => ?_) all back ?_
        · rw [List.append_assoc, List.getLast?_append_of_ne_nil _ (by simp [nonempty])] at found
          exact tight.2 c found
        · rwa [List.getLast?_append_of_ne_nil _ nonempty]
      rw [← one, ← other, ← split, whole]
      simp
    have found := congrArg List.getLast? same
    rw [List.getLast?_concat, List.getLast?_append_of_ne_nil _ nonempty] at found
    cases (closed.2 blank found.symm).symm.trans isBlank
  · intro hides
    refine ⟨fun c found => tight.1 c (by rw [List.head?_append, found]; rfl), fun c found => ?_⟩
    rw [← Bool.not_eq_true]
    intro isBlank
    obtain ⟨start, rfl⟩ := List.getLast?_eq_some_iff.1 found
    refine hides ⟨before ++ start, c, slashes, after, by rw [whole]; simp, isBlank, ?_, all, back⟩
    rintro rfl
    cases (tight.2 c (by simp)).symm.trans isBlank

private theorem trimmed_self_iff :
    Trimmed address address ↔ Tight address ∧ address.getLast? ≠ some '/' := by
  constructor
  · rintro ⟨before, slashes, after, whole, -, -, tight, -, last⟩
    have lengths := congrArg List.length whole
    simp only [List.length_append] at lengths
    have none : slashes = [] := List.eq_nil_of_length_eq_zero (by omega)
    rw [none, List.append_nil] at tight
    exact ⟨tight, last⟩
  · rintro ⟨tight, last⟩
    exact ⟨[], [], [], by simp, by simp, by simp, by simpa using tight, by simp, last⟩

/-! Resolving. -/

theorem checkedBaseUrl_eq_ok_iff {raw text : String} :
    checkedBaseUrl raw = .ok text ↔ Trimmed raw.toList text.toList ∧ IsWeb text.toList := by
  rw [trimmed_iff, IsWeb]
  constructor
  · intro checked
    refine ⟨?_, web_of_checkedBaseUrl checked⟩
    unfold checkedBaseUrl at checked
    dsimp only at checked
    split at checked
    · cases checked
    · split at checked
      · rw [← Except.ok.inj checked, String.toList_ofList]
      · cases checked
  · rintro ⟨trimmed, url, parsed, web⟩
    unfold checkedBaseUrl
    dsimp only
    rw [trimmed, parsed]
    dsimp only
    rw [if_pos (by simpa using web), String.ofList_toList]

theorem exists_checkedBaseUrl_iff {raw : String} : (∃ text, checkedBaseUrl raw = .ok text) ↔
    ∃ address, Trimmed raw.toList address ∧ IsWeb address := by
  constructor
  · rintro ⟨text, checked⟩
    exact ⟨text.toList, checkedBaseUrl_eq_ok_iff.1 checked⟩
  · rintro ⟨address, trimmed, web⟩
    refine ⟨String.ofList address, checkedBaseUrl_eq_ok_iff.2 ?_⟩
    rw [String.toList_ofList]
    exact ⟨trimmed, web⟩

theorem exists_reason {raw : String} (refused : ¬∃ text, checkedBaseUrl raw = .ok text) :
    ∃ reason, checkedBaseUrl raw = .error (.baseUrl raw reason) := by
  unfold checkedBaseUrl at refused ⊢
  dsimp only at refused ⊢
  split at refused
  · exact ⟨_, rfl⟩
  · split at refused
    · exact absurd ⟨_, rfl⟩ refused
    · rename_i other
      exact ⟨_, if_neg other⟩

theorem resolve_eq (c : Config) (o : Overrides) : c.resolve o =
    match checkedBaseUrl (c.override o).baseUrl with
    | .error fault => .error fault
    | .ok baseUrl =>
      if (c.override o).timeout = 0 then .error (.setting "timeout_secs must be greater than 0")
      else .ok { c.override o with
        baseUrl, apiPrefix := rootedPath (c.override o).apiPrefix } := by
  unfold resolve
  dsimp only
  cases checkedBaseUrl (c.override o).baseUrl <;> rfl

variable {c c' : Config} {o : Overrides}

theorem resolve_eq_ok_iff : c.resolve o = .ok c' ↔
    checkedBaseUrl (c.override o).baseUrl = .ok c'.baseUrl ∧ (c.override o).timeout ≠ 0 ∧
      c' = { c.override o with
        baseUrl := c'.baseUrl, apiPrefix := rootedPath (c.override o).apiPrefix } := by
  rw [resolve_eq]
  cases checkedBaseUrl (c.override o).baseUrl with
  | error fault => simp
  | ok text =>
    dsimp only
    split
    · rename_i zero
      simp [zero]
    · rename_i positive
      constructor
      · intro accepted
        obtain rfl := Except.ok.inj accepted
        exact ⟨rfl, positive, rfl⟩
      · rintro ⟨same, -, whole⟩
        rw [whole, Except.ok.inj same]

private theorem override_none (c : Config) : c.override {} = c := by
  simp [override]

private theorem getLast?_rootedPath (path : String) :
    (rootedPath path).toList.getLast? ≠ some '/' := by
  rw [rootedPath, String.toList_ofList]
  exact getLast?_withoutSlashes _

private theorem rootedPath_rootedPath (path : String) :
    rootedPath (rootedPath path) = rootedPath path := by
  have closed := getLast?_rootedPath path
  have form := rooted_rootedPath path
  generalize rootedPath path = rooted at closed form
  obtain empty | ⟨rest, slash⟩ := form
  · obtain rfl := String.toList_eq_nil_iff.1 empty
    decide
  · have stays := withoutSlashes_of_getLast? closed
    rw [slash] at stays
    rw [rootedPath, slash, if_pos (by rfl), stays, ← slash, String.ofList_toList]

/-- A resolved configuration is its own resolution, and its base address has no blank around it,
just if the base address given hides none in front of the slashes at its end. It never has a slash
at its end, and the prefix is empty or a path from the root without a slash at its end. -/
theorem resolve_again_iff (accepted : c.resolve o = .ok c') :
    (c'.resolve {} = .ok c' ↔ ¬HidesBlank (o.baseUrl.getD c.baseUrl).toList) ∧
      (Tight c'.baseUrl.toList ↔ ¬HidesBlank (o.baseUrl.getD c.baseUrl).toList) ∧
      c'.baseUrl.toList.getLast? ≠ some '/' ∧
      (c'.apiPrefix = "" ∨
        c'.apiPrefix.toList.head? = some '/' ∧ c'.apiPrefix.toList.getLast? ≠ some '/') := by
  obtain ⟨checked, positive, whole⟩ := resolve_eq_ok_iff.1 accepted
  obtain ⟨trimmed, web⟩ := checkedBaseUrl_eq_ok_iff.1 checked
  have tight : Tight c'.baseUrl.toList ↔ ¬HidesBlank (o.baseUrl.getD c.baseUrl).toList :=
    trimmed.tight_iff web.ne_nil
  have last : c'.baseUrl.toList.getLast? ≠ some '/' := by
    obtain ⟨-, -, -, -, -, -, -, -, last⟩ := trimmed
    exact last
  have rooted : c'.apiPrefix = rootedPath (c.override o).apiPrefix := by rw [whole]
  refine ⟨?_, tight, last, ?_⟩
  · have timeout : c'.timeout ≠ 0 := by
      rw [whole]
      exact positive
    rw [← tight, resolve_eq_ok_iff, override_none, checkedBaseUrl_eq_ok_iff, trimmed_self_iff,
      rooted, rootedPath_rootedPath, ← rooted]
    exact ⟨fun again => again.1.1.1, fun closed => ⟨⟨⟨closed, last⟩, web⟩, timeout, rfl⟩⟩
  · rw [rooted]
    obtain empty | ⟨rest, slash⟩ := rooted_rootedPath (c.override o).apiPrefix
    · exact .inl (String.toList_eq_nil_iff.1 empty)
    · exact .inr ⟨by rw [slash]; rfl, getLast?_rootedPath _⟩

theorem slashed_address_settled :
    let o : Overrides := { baseUrl := some "\u00a0https://panel.example.com//\u3000" }
    let c : Config := { baseUrl := "https://panel.example.com" }
    resolve { apiPrefix := "api/v2/" } o = .ok { c with apiPrefix := "/api/v2" } ∧
      resolve { c with apiPrefix := "/api/v2" } {} = .ok { c with apiPrefix := "/api/v2" } := by
  intro o c
  have accepted : resolve { apiPrefix := "api/v2/" } o = .ok { c with apiPrefix := "/api/v2" } := by
    decide +kernel
  have trimmed : Trimmed c.baseUrl.toList c.baseUrl.toList := trimmed_iff.2 (by decide +kernel)
  have tight : Tight c.baseUrl.toList := (trimmed_self_iff.1 trimmed).1
  obtain ⟨again, closed, -⟩ := resolve_again_iff accepted
  exact ⟨accepted, again.2 (closed.1 tight)⟩

/-- A blank that slashes have hidden is left at the end, and goes when the address is resolved
again. -/
theorem hidden_blank_outlasts :
    let c : Config := { baseUrl := "http://api.test " }
    resolve {} { baseUrl := some "http://api.test /" } = .ok c ∧
      c.resolve {} = .ok { baseUrl := "http://api.test" } ∧ c.resolve {} ≠ .ok c := by
  intro c
  have again : c.resolve {} = .ok { baseUrl := "http://api.test" } := by decide +kernel
  refine ⟨by decide +kernel, again, ?_⟩
  rw [again]
  decide

end PanelProbe.Config
