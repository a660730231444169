import PanelProbe.Proofs.Http.Headers

/-!
Headers written one after the other. Of those that share a name, whatever its case, the last gives
the value and the first gives the place and the spelling.
-/

set_option autoImplicit false

namespace PanelProbe

namespace Text

private theorem sameIgnoringCase_iff {a b : String} :
    sameIgnoringCase a b = true ↔ lower a = lower b :=
  beq_iff_eq

private theorem sameIgnoringCase_comm (a b : String) :
    sameIgnoringCase a b = sameIgnoringCase b a :=
  BEq.comm

private theorem sameIgnoringCase_congr {a b : String} (same : sameIgnoringCase a b = true)
    (name : String) :
    sameIgnoringCase a name = sameIgnoringCase b name := by
  rw [sameIgnoringCase, sameIgnoringCase_iff.1 same, sameIgnoringCase]

end Text

namespace Http

def Apart (names : List String) : Prop :=
  names.Pairwise fun a b => Text.sameIgnoringCase a b = false

variable (name value : String) (headers : List (String × String))

/-! One header. -/

private theorem names_setHeader : (setHeader name value headers).map Prod.fst =
    if (headers.map Prod.fst).any (Text.sameIgnoringCase name) then headers.map Prod.fst
    else headers.map Prod.fst ++ [name] := by
  induction headers with
  | nil => rfl
  | cons header rest ih =>
    obtain ⟨n, v⟩ := header
    rw [setHeader, List.map_cons, List.any_cons, Text.sameIgnoringCase_comm name n]
    cases Text.sameIgnoringCase n name with
    | true => simp
    | false =>
      rw [if_neg Bool.false_ne_true, List.map_cons, ih, Bool.false_or]
      split <;> rfl

private theorem apart_setHeader (apart : Apart (headers.map Prod.fst)) :
    Apart ((setHeader name value headers).map Prod.fst) := by
  rw [names_setHeader]
  split
  · exact apart
  · rename_i fresh
    refine List.pairwise_append.2 ⟨apart, List.pairwise_singleton _ _, ?_⟩
    intro n member m last
    rw [List.mem_singleton.1 last, Text.sameIgnoringCase_comm]
    simp only [List.any_eq_true, not_exists, not_and, Bool.not_eq_true] at fresh
    exact fresh n member

private theorem find?_setHeader (key : String) :
    ((setHeader name value headers).find? fun h => Text.sameIgnoringCase h.1 key).map Prod.snd =
      if Text.sameIgnoringCase name key then some value
      else (headers.find? fun h => Text.sameIgnoringCase h.1 key).map Prod.snd := by
  induction headers with
  | nil =>
    rw [setHeader, List.find?_singleton]
    split <;> rfl
  | cons header rest ih =>
    obtain ⟨n, v⟩ := header
    rw [setHeader]
    cases same : Text.sameIgnoringCase n name with
    | true =>
      rw [if_pos rfl, List.find?_cons, List.find?_cons, Text.sameIgnoringCase_congr same key]
      cases Text.sameIgnoringCase name key <;> rfl
    | false =>
      rw [if_neg Bool.false_ne_true, List.find?_cons, List.find?_cons]
      cases here : Text.sameIgnoringCase n key with
      | false => exact ih
      | true =>
        -- The header found here has the key for its name, so the one that is set has not.
        have other : Text.sameIgnoringCase name key = false := by
          rw [Text.sameIgnoringCase_comm, ← Text.sameIgnoringCase_congr here, same]
        rw [other]
        rfl

/-! Headers one after the other. -/

def setHeaders (written headers : List (String × String)) : List (String × String) :=
  written.foldl (fun hs h => setHeader h.1 h.2 hs) headers

variable (written : List (String × String))

private theorem apart_setHeaders (apart : Apart (headers.map Prod.fst)) :
    Apart ((setHeaders written headers).map Prod.fst) := by
  induction written generalizing headers with
  | nil => exact apart
  | cons header rest ih => exact ih _ (apart_setHeader header.1 header.2 headers apart)

private theorem find?_setHeaders (key : String) :
    ((setHeaders written headers).find? fun h => Text.sameIgnoringCase h.1 key).map Prod.snd =
      ((written.findRev? fun h => Text.sameIgnoringCase h.1 key).map Prod.snd).or
        ((headers.find? fun h => Text.sameIgnoringCase h.1 key).map Prod.snd) := by
  induction written generalizing headers with
  | nil => rfl
  | cons header rest ih =>
    have later := ih (setHeader header.1 header.2 headers)
    rw [find?_setHeader] at later
    rw [setHeaders, List.foldl_cons, ← setHeaders, later, List.findRev?]
    cases rest.findRev? fun h => Text.sameIgnoringCase h.1 key with
    | some last => rfl
    | none => cases Text.sameIgnoringCase header.1 key <;> rfl

private theorem names_setHeaders : (setHeaders written headers).map Prod.fst =
    List.eraseDupsBy.loop Text.sameIgnoringCase (written.map Prod.fst)
      (headers.map Prod.fst).reverse := by
  induction written generalizing headers with
  | nil => exact (List.reverse_reverse _).symm
  | cons header rest ih =>
    rw [setHeaders, List.foldl_cons, ← setHeaders, ih, names_setHeader, List.map_cons,
      List.eraseDupsBy.loop, List.any_reverse]
    cases (headers.map Prod.fst).any (Text.sameIgnoringCase header.1) with
    | true => rfl
    | false => simp

private theorem headers_resolve_eq (call : Call) (bases : Bases) (token : Option String) :
    (call.resolve bases token).headers = setHeaders (("Content-Type", "application/json") ::
      call.headers ++ bearer (if call.authorized then token else none)) [] := by
  simp only [Call.resolve, Call.writtenHeaders, setHeaders]
  cases call.authorized <;> cases token <;> rfl

/-- A request has one header for each name among the content type, the caller's own and the token of
a call that is authorized, in the order and spelling of the first and with the value of the last. -/
theorem merged_headers (call : Call) (bases : Bases) (token : Option String) :
    let written := ("Content-Type", "application/json") :: call.headers ++
      bearer (if call.authorized then token else none)
    let request := call.resolve bases token
    Apart (request.headers.map Prod.fst) ∧
      (∀ name, request.header? name =
        (written.findRev? fun h => Text.sameIgnoringCase h.1 name).map Prod.snd) ∧
      request.headers.map Prod.fst =
        (written.map Prod.fst).eraseDupsBy Text.sameIgnoringCase := by
  intro written request
  have merged : request.headers = setHeaders written [] := headers_resolve_eq call bases token
  refine ⟨?_, fun name => ?_, ?_⟩
  · rw [merged]
    exact apart_setHeaders [] written .nil
  · rw [Request.header?, merged, find?_setHeaders]
    exact Option.or_none
  · rw [merged]
    exact names_setHeaders [] written

/-- The caller's own authorization gives way to the token, in the caller's spelling. -/
example : (Call.resolve { method := .get, path := "/x", headers := [("content-type", "text/plain"),
    ("AUTHORIZATION", "mine")] } ⟨"", ""⟩ (some "tok")).headers =
      [("Content-Type", "text/plain"), ("AUTHORIZATION", "Bearer tok")] := by
  decide

end Http

end PanelProbe
