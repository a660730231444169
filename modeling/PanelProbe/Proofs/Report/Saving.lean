import Mathlib.Data.List.Nodup
import Mathlib.Data.List.Perm.Subperm
import PanelProbe.Proofs.Storage.Path
import PanelProbe.Proofs.Text.Numeral
import PanelProbe.Report.File

/-!
Saving of results. The names tried for a file are all different, so the search ends at the first one
that is free, and a file that is there is never touched, however often and wherever results are
saved.
-/

set_option autoImplicit false

namespace PanelProbe.Report

open Storage

variable (started : Calendar.Instant)

/-! Names. -/

/-- The names tried for a file: the plain one before those with a number. -/
def numbered (k : Nat) : String :=
  if k = 0 then "api_test_results_" ++ started.compactText ++ ".json"
  else "api_test_results_" ++ started.compactText ++ "_" ++ toString k ++ ".json"

private theorem candidate_eq_numbered (k : Nat) : candidate started k = numbered started k := rfl

private theorem toList_numbered (k : Nat) : (numbered started k).toList =
    (stem started).toList ++ (if k = 0 then [] else '_' :: Text.digits k) ++ ".json".toList := by
  rw [← candidate_eq_numbered, candidate]
  split
  · simp [fileName]
  · rw [String.toList_append, String.toList_append, String.toList_append, Text.toList_toString]
    simp

private theorem numbered_injective : Function.Injective (numbered started) := by
  intro j k same
  have texts := congrArg String.toList same
  rw [toList_numbered, toList_numbered, List.append_assoc, List.append_assoc] at texts
  have behind := List.append_cancel_right (List.append_cancel_left texts)
  by_cases first : j = 0
  · by_cases second : k = 0
    · rw [first, second]
    · rw [if_pos first, if_neg second] at behind
      cases behind
  · by_cases second : k = 0
    · rw [if_neg first, if_pos second] at behind
      cases behind
    · rw [if_neg first, if_neg second] at behind
      exact Text.digits_injective (List.cons.inj behind).2

private theorem toList_stem : (stem started).toList =
    "api_test_results_".toList ++ started.compactText.toList := String.toList_append

private theorem slash_notMem_stem : '/' ∉ (stem started).toList := by
  have padded (width n : Nat) : '/' ∉ Text.padded width n :=
    Text.notMem_padded (by decide) width n
  have year (y : Int) : '/' ∉ Calendar.Date.yearChars y := by
    unfold Calendar.Date.yearChars
    split
    · exact padded 4 _
    · split <;> simp [padded]
  simp [toList_stem, Calendar.Instant.compactText, Calendar.Date.chars, Calendar.Instant.clock,
    padded, year]

private theorem isName_numbered (k : Nat) : IsName (numbered started k) := by
  have first : (numbered started k).toList.head? = some 'a' := by
    rw [toList_numbered]
    simp [toList_stem]
  have other : ∀ text : String, text.toList.head? ≠ some 'a' → numbered started k ≠ text := by
    rintro text apart rfl
    exact apart first
  refine ⟨?_, fun blank => ?_, other _ (by decide), other _ (by decide)⟩
  · rw [toList_numbered]
    have number : '/' ∉ Text.digits k := Text.notMem_digits (by decide) k
    split <;> simp [slash_notMem_stem, number]
  · rw [blank] at first
    cases first

/-! The search. -/

variable {tree : Tree} {place : List String} {directory : String} {data : ByteArray}

def checkCandidate (directory : String) (started : Calendar.Instant) (k : Nat) :
    Except Failure Unit :=
  Tree.checkPath (join directory (numbered started k)) >>= fun _ =>
    Tree.checkName (numbered started k)

def spot (place : List String) (started : Calendar.Instant) (k : Nat) : List String :=
  place ++ [numbered started k]

private theorem spot_injective (place : List String) : Function.Injective (spot place started) := by
  intro j k same
  exact numbered_injective started (List.cons.inj (List.append_cancel_left same)).1

/-- The candidates from `attempt` on that are in front of `k` are taken. -/
def TakenBefore (tree : Tree) (place : List String) (started : Calendar.Instant)
    (attempt k : Nat) : Prop :=
  ∀ j, attempt ≤ j → j < k → tree.node? (spot place started j) ≠ none

private theorem createFrom_succ (tries attempt : Nat) :
    createFrom tree directory place started data (tries + 1) attempt =
      checkCandidate directory started attempt >>= fun _ =>
        if tree.node? (spot place started attempt) = none then
          .ok (tree ++ [(spot place started attempt, .file data)],
            join directory (numbered started attempt))
        else createFrom tree directory place started data tries (attempt + 1) := by
  rw [createFrom, checkCandidate, candidate_eq_numbered]
  cases Tree.checkPath (join directory (numbered started attempt)) with
  | error failure => rfl
  | ok _ =>
    cases checked : Tree.checkName (numbered started attempt) with
    | error failure =>
      have long : failure = .nameTooLong := by
        rw [Tree.checkName] at checked
        split at checked
        · exact (Except.error.inj checked).symm
        · cases checked
      simp only [bind, Except.bind, Tree.createNew, checked, long]
    | ok _ =>
      simp only [bind, Except.bind, Tree.createNew, checked]
      rw [← spot]
      by_cases free : tree.node? (spot place started attempt) = none
      · rw [if_pos free, free]
        rfl
      · rw [if_neg free, if_pos (Option.isSome_iff_ne_none.2 free)]

/-- A search ends at the first free name, with a file there or with the fault of that name or of one
before it, unless all names that it may try are taken. -/
private theorem createFrom_cases (tree : Tree) (place : List String) (directory : String)
    (data : ByteArray) (tries attempt : Nat) :
    (∃ k, attempt ≤ k ∧ TakenBefore tree place started attempt k ∧
      tree.node? (spot place started k) = none ∧ checkCandidate directory started k = .ok () ∧
      createFrom tree directory place started data tries attempt =
        .ok (tree ++ [(spot place started k, .file data)], join directory (numbered started k))) ∨
    (∃ k failure, attempt ≤ k ∧ TakenBefore tree place started attempt k ∧
      checkCandidate directory started k = .error failure ∧
      createFrom tree directory place started data tries attempt = .error failure) ∨
    TakenBefore tree place started attempt (attempt + tries) := by
  induction tries generalizing attempt with
  | zero =>
    refine .inr (.inr fun j low high => ?_)
    omega
  | succ tries ih =>
    have none_before : TakenBefore tree place started attempt attempt := by
      intro j low high
      omega
    rw [createFrom_succ]
    cases checked : checkCandidate directory started attempt with
    | error failure =>
      exact .inr (.inl ⟨attempt, failure, Nat.le_refl _, none_before, checked, rfl⟩)
    | ok _ =>
      simp only [bind, Except.bind]
      by_cases free : tree.node? (spot place started attempt) = none
      · rw [if_pos free]
        exact .inl ⟨attempt, Nat.le_refl _, none_before, free, checked, rfl⟩
      · rw [if_neg free]
        have further : ∀ k, TakenBefore tree place started (attempt + 1) k →
            TakenBefore tree place started attempt k := by
          intro k taken j low high
          by_cases here : j = attempt
          · rw [here]
            exact free
          · exact taken j (by omega) high
        obtain ⟨k, low, taken, rest⟩ | ⟨k, failure, low, taken, rest⟩ | taken := ih (attempt + 1)
        · exact .inl ⟨k, by omega, further k taken, rest⟩
        · exact .inr (.inl ⟨k, failure, by omega, further k taken, rest⟩)
        · refine .inr (.inr (further _ ?_))
          rwa [Nat.add_right_comm] at taken

private theorem not_takenBefore_of_length_lt {tries : Nat} (more : tree.length < tries) :
    ¬TakenBefore tree place started 0 tries := by
  intro taken
  have distinct : ((List.range tries).map (spot place started)).Nodup :=
    List.Nodup.map (spot_injective started place) List.nodup_range
  have inside : (List.range tries).map (spot place started) ⊆ tree.map Prod.fst := by
    intro p member
    obtain ⟨j, small, rfl⟩ := List.mem_map.1 member
    have found := taken j (Nat.zero_le j) (List.mem_range.1 small)
    have inner : tree.node? (spot place started j) = tree.lookup (spot place started j) :=
      if_neg (by simp [spot])
    rw [inner, ne_eq, List.lookup_eq_none_iff] at found
    push Not at found
    obtain ⟨entry, member, same⟩ := found
    exact List.mem_map.2 ⟨entry, member, (beq_iff_eq.1 (by simpa using same)).symm⟩
  have bound := (distinct.subperm inside).length_le
  simp only [List.length_map, List.length_range] at bound
  omega

/-! Saving. -/

structure Results where
  started : Calendar.Instant
  summary : Summary
  ledger : Ledger

namespace Results

variable (r : Results)

def save (cwd : List String) (directory : String) (tree : Tree) :
    Tree × Except Failure String :=
  persist tree cwd directory r.started r.summary r.ledger

def text : String :=
  (Json.object [("summary", r.summary.toJson), ("results", .array (r.ledger.map entryJson))]).pretty

end Results

def saveAll (cwd : List String) (directory : String) (tree : Tree) (list : List Results) : Tree :=
  list.foldl (fun tree r => (r.save cwd directory tree).1) tree

/-- The first candidate that is free in a directory. -/
structure IsFirstFree (tree : Tree) (place : List String) (started : Calendar.Instant)
    (k : Nat) : Prop where
  taken : TakenBefore tree place started 0 k
  free : tree.node? (spot place started k) = none

/-- Where results are saved: `ready` is the tree once the directory is there, and `k` numbers the
first candidate that is free in it. -/
structure Saves (cwd : List String) (directory : String) (before : Tree) (r : Results)
    (place : List String) (k : Nat) (ready : Tree) : Prop where
  made : before.makeDirectory cwd directory = (ready, .ok place)
  first : IsFirstFree ready place r.started k
  checked : checkCandidate directory r.started k = .ok ()
  saved : r.save cwd directory before =
    (ready ++ [(spot place r.started k, .file r.text.toUTF8)],
      .ok (join directory (numbered r.started k)))

/-- The results are not saved: the directory cannot be made, or a name that has to be tried cannot
be handed to the system. -/
structure Fails (cwd : List String) (directory : String) (before : Tree) (r : Results)
    (failure : Failure) (ready : Tree) : Prop where
  prepared : Tree.Prepared before ready
  ended : r.save cwd directory before = (ready, .error failure)
  fault : before.makeDirectory cwd directory = (ready, .error failure) ∨
    ∃ place k, before.makeDirectory cwd directory = (ready, .ok place) ∧
      TakenBefore ready place r.started 0 k ∧ checkCandidate directory r.started k = .error failure

theorem saves_or_fails (cwd : List String) (directory : String) (before : Tree) (r : Results) :
    (∃ place k ready, Saves cwd directory before r place k ready) ∨
      ∃ failure ready, Fails cwd directory before r failure ready := by
  have prepared := (Tree.makes_makeDirectory before cwd directory).prepared
  have whole : content r.summary r.ledger = r.text := rfl
  rcases made : before.makeDirectory cwd directory with ⟨ready, failure | place⟩
  · rw [made] at prepared
    refine .inr ⟨failure, ready, prepared, ?_, .inl made⟩
    rw [Results.save, persist, made]
  · rw [made] at prepared
    -- The search may try one name more than there are entries, so it never runs out of them.
    obtain ⟨k, -, taken, free, checked, found⟩ | ⟨k, failure, -, taken, refused, ended⟩ | taken :=
      createFrom_cases r.started ready place directory r.text.toUTF8 (ready.length + 1) 0
    · refine .inl ⟨place, k, ready, made, ⟨taken, free⟩, checked, ?_⟩
      rw [Results.save, persist, made]
      simp only [create, whole, found]
    · refine .inr ⟨failure, ready, prepared, ?_, .inr ⟨place, k, made, taken, refused⟩⟩
      rw [Results.save, persist, made]
      simp only [create, whole, ended]
    · exact absurd taken (not_takenBefore_of_length_lt r.started (by omega))

namespace Saves

variable {cwd : List String} {directory : String} {before ready : Tree} {r : Results}
  {place : List String} {k : Nat} (h : Saves cwd directory before r place k ready)

include h

theorem prepared : Tree.Prepared before ready := by
  have prepared := (Tree.makes_makeDirectory before cwd directory).prepared
  rwa [h.made] at prepared

private theorem keeps_ready : Tree.Keeps ready (r.save cwd directory before).1 := by
  rw [h.saved]
  exact Tree.keeps_append h.first.free _

theorem file? (p : List String) :
    (r.save cwd directory before).1.file? p =
      if p = spot place r.started k then some r.text.toUTF8 else before.file? p := by
  rw [h.saved, Tree.file?_append_singleton h.first.free, h.prepared.file?]

private theorem free_before : before.node? (spot place r.started k) = none := by
  cases found : before.node? (spot place r.started k) with
  | none => rfl
  | some node =>
    have kept := h.prepared.keeps _ _ found
    rw [h.first.free] at kept
    cases kept

theorem found {later : Tree} (keeps : Tree.Keeps (r.save cwd directory before).1 later) :
    later.locate cwd (join directory (numbered r.started k)) = .ok (spot place r.started k) ∧
      later.readText cwd (join directory (numbered r.started k)) = .ok r.text := by
  have leads := (Tree.makes_makeDirectory before cwd directory).leads place
  rw [h.made] at leads
  have there : later.IsAt cwd directory place := (leads rfl).mono (h.keeps_ready.trans keeps)
  have file : later.file? (place ++ [numbered r.started k]) = some r.text.toUTF8 := by
    apply keeps.file?
    rw [h.file?]
    exact if_pos rfl
  have both := h.checked
  rw [checkCandidate] at both
  cases path : Tree.checkPath (join directory (numbered r.started k)) with
  | error failure =>
    rw [path] at both
    cases both
  | ok _ =>
    rw [path] at both
    have named := isName_numbered r.started k
    exact ⟨Tree.locate_join named there both path, Tree.readText_join named there both path file⟩

private theorem node?_ready (direct : (∃ found, before.IsAt cwd directory found) ∨
    ".." ∉ (Path.ofText directory).names) (name : String) :
    ready.node? (place ++ [name]) = before.node? (place ++ [name]) := by
  have made := Tree.makes_makeDirectory before cwd directory
  obtain ⟨found, there⟩ | plain := direct
  · have path : Tree.checkPath directory = .ok () := by
      have made := h.made
      rw [Tree.makeDirectory] at made
      cases checked : Tree.checkPath directory with
      | error failure =>
        rw [checked] at made
        cases made
      | ok _ => rfl
    have same := (Tree.makeDirectory_of_isAt path there).symm.trans h.made
    rw [(Prod.mk.inj same).1]
  · have beyond := made.beyond plain (place ++ [name])
    have leads := made.leads place
    rw [h.made] at beyond leads
    apply beyond
    rw [Tree.eq_append_of_follow plain (leads rfl).1]
    simp

private theorem isFirstFree_before (direct : (∃ found, before.IsAt cwd directory found) ∨
    ".." ∉ (Path.ofText directory).names) : IsFirstFree before place r.started k := by
  refine ⟨fun j low high => ?_, h.free_before⟩
  rw [spot, ← h.node?_ready direct]
  exact h.first.taken j low high

end Saves

private theorem keeps_save (cwd : List String) (directory : String) (before : Tree) (r : Results) :
    Tree.Keeps before (r.save cwd directory before).1 := by
  obtain ⟨place, k, ready, saves⟩ | ⟨failure, ready, fails⟩ := saves_or_fails cwd directory before r
  · exact saves.prepared.keeps.trans saves.keeps_ready
  · rw [fails.ended]
    exact fails.prepared.keeps

private theorem keeps_saveAll (cwd : List String) (directory : String) (tree : Tree)
    (list : List Results) : Tree.Keeps tree (saveAll cwd directory tree list) := by
  induction list generalizing tree with
  | nil => exact Tree.Keeps.refl tree
  | cons r rest ih => exact (keeps_save cwd directory tree r).trans (ih _)

/-- The second and the fourth of these names are free. -/
example :
    let r : Results := ⟨⟨1700000000, 0⟩, .ofLedger [] ⟨1, 0⟩ ⟨1700000000, 0⟩, []⟩
    let tree : Tree := [(spot ["out"] r.started 0, .directory), (["out"], .directory),
      (spot ["out"] r.started 2, .file r.text.toUTF8)]
    (r.save [] "out/" tree).2 = .ok "out/api_test_results_20231114_221320_1.json" ∧
      (r.save [] "out/" (saveAll [] "out/" tree [r])).2 =
        .ok "out/api_test_results_20231114_221320_3.json" := by
  decide +kernel

end PanelProbe.Report
