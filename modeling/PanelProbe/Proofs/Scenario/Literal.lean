import PanelProbe.Http.Outcome
import PanelProbe.Proofs.Json.Document
import PanelProbe.Proofs.Scenario.Identifier
import PanelProbe.Run.Cleanup

/-!
Identifiers that a server writes as integers. Whatever the text around the integer, its digits are
kept exactly when it fits a 64-bit word; any other integer is read as a double, and what is kept is
the text of that double.
-/

set_option autoImplicit false

namespace PanelProbe

namespace Json

def Numeral.ofInt (value : Int) : Numeral where
  text := Text.integer value
  literal := by
    have read := NumberLiteral.ofChars?_text (Number.sound_literal (.integer value))
    have text : (Number.literal (.integer value)).text = Text.integer value :=
      Number.text_literal (.integer value)
    rw [← text, read]
    rfl

namespace Document

variable {d : Document} {v : Json} {address : String}

def HasInteger (d : Document) (address : String) (value : Int) : Prop :=
  d.at? address = some (.number (.ofInt value))

theorem HasInteger.at? {value : Int} (shown : d.HasInteger address value)
    (read : d.value? = some v) :
    ∃ n, Number.ofChars? (Text.integer value) = some n ∧ v.at? address = some (.number n) := by
  have below := map_value?_at? read address
  rw [shown, Option.map_some] at below
  obtain ⟨w, found, same⟩ := Option.map_eq_some_iff.1 below.symm
  obtain ⟨raw, number, rfl⟩ := Option.map_eq_some_iff.1 same.symm
  obtain ⟨n, literal, rfl⟩ := Option.map_eq_some_iff.1 number
  exact ⟨n, literal, found⟩

private theorem eq_null_of_blank (read : d.value? = some v)
    (blank : ∀ e, d.at? address = some e → e = .null) {w : Json}
    (found : v.at? address = some w) : w = .null := by
  have below := map_value?_at? read address
  rw [found, Option.map_some] at below
  obtain ⟨e, here, same⟩ := Option.map_eq_some_iff.1 below
  rw [blank e here] at same
  exact (Option.some.inj same).symm

end Document

end Json

open Json

private theorem Http.json?_response {d : Document} {text : String}
    (written : d.WrittenAs text.toList)
    (status : Nat) : (Http.Outcome.response status (.parse text)).json? =
      d.raw?.bind fun v => Build.within v.depth (some (v.readAs id)) := by
  rw [← Document.parse?_of_writtenAs written, Http.Body.parse, Document.isEmpty_trim written]
  cases parse? text <;> rfl

namespace Capture

/-- A capture looks for the identifier of a kind where the document has an integer: at `id` only
when `data.id` is absent or `null`. -/
inductive Carries (kind : ResourceKind) (d : Document) (value : Int) : Capture → Prop
  | created (shown : d.HasInteger "data.id" value) : Carries kind d value (.createdId kind)
  | fallback (blank : ∀ e, d.at? "data.id" = some e → e = .null)
      (shown : d.HasInteger "id" value) : Carries kind d value (.createdId kind)
  | listed (shown : d.HasInteger "data.0.id" value) : Carries kind d value (.firstListedId kind)

def Stores (capture : Capture) (kind : ResourceKind) (text : String) (id : ResourceId) : Prop :=
  ∀ status s, ((Http.Outcome.response status (.parse text)).json?.bind fun body =>
    capture.keep? body s) = some (s.withId kind (some id))

variable {capture : Capture} {kind : ResourceKind} {d : Document} {value : Int} {text : String}

theorem Carries.keep? {v : Json} (carries : Carries kind d value capture)
    (read : d.value? = some v) : ∃ n, Number.ofChars? (Text.integer value) = some n ∧
      ∀ s, capture.keep? v s = some (s.withId kind (some ⟨String.ofList n.chars⟩)) := by
  cases carries with
  | created shown =>
    obtain ⟨n, literal, found⟩ := shown.at? read
    refine ⟨n, literal, fun s => ?_⟩
    rw [keep?_createdId, createdId?_of_filled found rfl]
    rfl
  | fallback blank shown =>
    obtain ⟨n, literal, found⟩ := shown.at? read
    refine ⟨n, literal, fun s => ?_⟩
    rw [keep?_createdId, createdId?_of_blank fun w => Document.eq_null_of_blank read blank,
      found]
    rfl
  | listed shown =>
    obtain ⟨n, literal, found⟩ := shown.at? read
    refine ⟨n, literal, fun s => ?_⟩
    rw [Capture.keep?, firstListedAddress, found]
    rfl

theorem Stores.unique {first second : ResourceId} (kept : Stores capture kind text first)
    (again : Stores capture kind text second) : first = second := by
  have same := (kept 200 {}).symm.trans (again 200 {})
  have held := congrArg (Session.id? · kind) (Option.some.inj same)
  simpa only [Session.id?_withId_self, Option.some.injEq] using held

private theorem Stores.readable {id : ResourceId} (written : d.WrittenAs text.toList)
    (stores : Stores capture kind text id) : d.Readable := by
  have kept := stores 200 {}
  rw [Http.json?_response written] at kept
  obtain ⟨v, json, -⟩ := Option.bind_eq_some_iff.1 kept
  obtain ⟨raw, read, inside⟩ := Option.bind_eq_some_iff.1 json
  obtain ⟨shallow, -⟩ := Option.ite_none_right_eq_some.1 inside
  exact ⟨raw, read, shallow⟩

private theorem Carries.stores (carries : Carries kind d value capture)
    (written : d.WrittenAs text.toList) (readable : d.Readable) :
    ∃ n, Number.ofChars? (Text.integer value) = some n ∧
      Stores capture kind text ⟨String.ofList n.chars⟩ := by
  obtain ⟨raw, read, shallow⟩ := readable
  have whole : d.value? = some (raw.readAs id) := by
    rw [Document.value?, read]
    rfl
  obtain ⟨n, literal, keeps⟩ := carries.keep? whole
  refine ⟨n, literal, fun status s => ?_⟩
  rw [Http.json?_response written, read, Option.bind_some, Build.within_of_le shallow,
    Option.bind_some]
  exact keeps s

private theorem segment_integer (value : Int) :
    ResourceId.segment ⟨String.ofList (Text.integer value)⟩ =
      String.ofList (Text.integer value) := by
  rw [ResourceId.segment, String.toList_ofList, Percent.encode_of_kept]
  intro c member
  have kept : Percent.isUnreserved c = true := by
    obtain rfl | digit := Text.mem_integer member
    · decide
    · simp [Percent.isUnreserved, Char.isAlphanum, digit]
  exact ⟨Percent.toNat_of_isUnreserved kept, kept⟩

/-- A capture keeps the text of the number that the integer is read as, if the text around it can be
read. These are the digits of the integer if and only if it fits a 64-bit word, and then they are
one segment of a path as they stand. -/
theorem keeps_digits_iff_fits (written : d.WrittenAs text.toList)
    (carries : Carries kind d value capture) :
    let digits : ResourceId := ⟨String.ofList (Text.integer value)⟩
    (d.Readable → ∃ n, Number.ofChars? (Text.integer value) = some n ∧
      Stores capture kind text ⟨String.ofList n.chars⟩) ∧
    (Stores capture kind text digits ↔ Number.Fits value ∧ d.Readable) ∧
    digits.segment = digits.text ∧
    (Run.deletion kind digits).path = kind.collection ++ "/" ++ digits.text := by
  intro digits
  have segment : digits.segment = digits.text := segment_integer value
  refine ⟨carries.stores written, ⟨?_, ?_⟩, segment, ?_⟩
  · intro stores
    have readable := stores.readable written
    obtain ⟨n, literal, kept⟩ := carries.stores written readable
    have spelled : n.chars = Text.integer value :=
      String.ofList_injective (congrArg ResourceId.text (kept.unique stores))
    rw [Number.eq_integer_of_chars spelled] at literal
    exact ⟨(Number.ofChars?_integer value).1 literal, readable⟩
  · rintro ⟨fits, readable⟩
    obtain ⟨n, literal, kept⟩ := carries.stores written readable
    rw [(Number.ofChars?_integer value).2 fits] at literal
    cases literal
    exact kept
  · rw [Run.deletion, segment]

def creationReply (value : Int) : Document :=
  .object [("data", .object [("id", .number (.ofInt value))])]

private theorem carries_creationReply (kind : ResourceKind) (value : Int) :
    Carries kind (creationReply value) value (.createdId kind) := .created rfl

private theorem writtenAs_creationReply (value : Int) : (creationReply value).WrittenAs
    ("\x7b\"data\":\x7b\"id\":".toList ++ (Text.integer value ++ ['\x7d', '\x7d'])) := by
  have digits : ∀ c ∈ Text.integer value, isWordChar c = true := by
    intro c member
    obtain rfl | digit := Text.mem_integer member
    · decide
    · exact Scan.isWordChar_of_isDigit digit
  have ends : Scan.Ends ['\x7d', '\x7d'] := by
    rintro c ⟨⟩
    decide
  have closing : Written [.mark '\x7d', .mark '\x7d'] ['\x7d', '\x7d'] :=
    .mark rfl (.mark rfl .done)
  have inner := Written.word (Number.chars_ne_nil (.integer value)) digits ends closing
  have data := Scan.spelled_escaped ['d', 'a', 't', 'a']
  have key := Scan.spelled_escaped ['i', 'd']
  exact .mark rfl (.string data (.mark rfl (.mark rfl (.string key (.mark rfl inner)))))

theorem largest_word_kept :
    let text := "\x7b\"data\":\x7b\"id\":18446744073709551615\x7d\x7d"
    let digits : ResourceId := ⟨"18446744073709551615"⟩
    (creationReply 18446744073709551615).WrittenAs text.toList ∧
      Stores (.createdId .user) .user text digits ∧
      (Run.deletion .user digits).path = "/admin/users/18446744073709551615" := by
  intro text digits
  have spelled : text.toList = "\x7b\"data\":\x7b\"id\":".toList ++
      (Text.integer 18446744073709551615 ++ ['\x7d', '\x7d']) := by
    decide +kernel
  have written : (creationReply 18446744073709551615).WrittenAs text.toList := by
    rw [spelled]
    exact writtenAs_creationReply _
  have fits : Number.Fits 18446744073709551615 := by decide
  have readable : (creationReply 18446744073709551615).Readable := ⟨_, rfl, by decide⟩
  have kept := keeps_digits_iff_fits written (carries_creationReply .user _)
  exact ⟨written, kept.2.1.2 ⟨fits, readable⟩, kept.2.2.2⟩

/-- The first integer beyond the words is read as a double and kept as its text. -/
theorem word_bound_not_kept :
    let text := "\x7b\"data\":\x7b\"id\":18446744073709551616\x7d\x7d"
    (creationReply 18446744073709551616).WrittenAs text.toList ∧
      Carries .user (creationReply 18446744073709551616) 18446744073709551616 (.createdId .user) ∧
      ¬Stores (.createdId .user) .user text ⟨"18446744073709551616"⟩ ∧
      (((Http.Outcome.response 201 (.parse text)).json?.bind fun body =>
        (createdId .user).keep? body {}) =
          some { user := some ⟨"1.8446744073709552e+19"⟩ }) := by
  intro text
  have kept : ((Http.Outcome.response 201 (.parse text)).json?.bind fun body =>
      (createdId .user).keep? body {}) = some { user := some ⟨"1.8446744073709552e+19"⟩ } := by
    decide +kernel
  have spelled : text.toList = "\x7b\"data\":\x7b\"id\":".toList ++
      (Text.integer 18446744073709551616 ++ ['\x7d', '\x7d']) := by
    decide +kernel
  have written : (creationReply 18446744073709551616).WrittenAs text.toList := by
    rw [spelled]
    exact writtenAs_creationReply _
  refine ⟨written, carries_creationReply .user _, ?_, kept⟩
  intro stores
  have same := (stores 201 {}).symm.trans kept
  exact absurd same (by decide)

end Capture

end PanelProbe
