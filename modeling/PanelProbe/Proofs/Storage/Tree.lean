import Mathlib.Data.List.Basic
import PanelProbe.Storage.Basic

/-!
Trees that only grow. Making a directory adds directories to a tree and leaves what is in it, and
the place it gives is where the path leads from then on; a second time it changes nothing.
-/

set_option autoImplicit false

namespace PanelProbe.Storage.Tree

variable {tree : Tree} {place : List String}

def file? (tree : Tree) (place : List String) : Option ByteArray :=
  match tree.node? place with
  | some (.file content) => some content
  | _ => none

theorem file?_eq_some_iff {content : ByteArray} :
    tree.file? place = some content ↔ tree.node? place = some (.file content) := by
  unfold file?
  split
  · rename_i found
    rw [found]
    simp
  · rename_i other
    constructor
    · intro found
      cases found
    · intro found
      exact absurd found (other content)

private theorem isDirectory_iff :
    tree.isDirectory place = true ↔ tree.node? place = some .directory := by
  unfold isDirectory
  split
  · rename_i found
    rw [found]
    simp
  · rename_i other
    simpa using other

private theorem node?_nil (tree : Tree) : tree.node? [] = some .directory := rfl

private theorem node?_append_singleton (free : tree.node? place = none) (node : Node)
    (p : List String) :
    (tree ++ [(place, node)]).node? p = if p = place then some node else tree.node? p := by
  by_cases root : p = []
  · subst root
    have apart : [] ≠ place := by
      rintro rfl
      cases free
    rw [if_neg apart, node?_nil, node?_nil]
  · have inner : ∀ (other : Tree), other.node? p = other.lookup p := fun other => if_neg root
    rw [inner, inner, List.lookup_append]
    by_cases same : p = place
    · subst same
      rw [inner] at free
      rw [if_pos rfl, free]
      simp
    · have apart : (p == place) = false := beq_eq_false_iff_ne.2 same
      rw [if_neg same, List.lookup_cons, apart]
      simp

theorem file?_append_singleton (free : tree.node? place = none) (content : ByteArray)
    (p : List String) :
    file? (tree ++ [(place, .file content)]) p =
      if p = place then some content else tree.file? p := by
  unfold file?
  rw [node?_append_singleton free]
  by_cases same : p = place
  · rw [if_pos same, if_pos same]
  · rw [if_neg same, if_neg same]

/-- Whatever is in a tree is still there later. -/
def Keeps (tree later : Tree) : Prop :=
  ∀ place node, tree.node? place = some node → later.node? place = some node

namespace Keeps

variable {later last : Tree}

theorem refl (tree : Tree) : Keeps tree tree :=
  fun _ _ found => found

theorem trans (h : Keeps tree later) (h' : Keeps later last) : Keeps tree last :=
  fun place node found => h' place node (h place node found)

theorem isDirectory (h : Keeps tree later) (found : tree.isDirectory place = true) :
    later.isDirectory place = true :=
  isDirectory_iff.2 (h _ _ (isDirectory_iff.1 found))

theorem file? (h : Keeps tree later) {content : ByteArray}
    (found : tree.file? place = some content) : later.file? place = some content :=
  file?_eq_some_iff.2 (h _ _ (file?_eq_some_iff.1 found))

end Keeps

theorem keeps_append (free : tree.node? place = none) (node : Node) :
    Keeps tree (tree ++ [(place, node)]) := by
  intro p other found
  have apart : p ≠ place := by
    rintro rfl
    rw [found] at free
    cases free
  rw [node?_append_singleton free, if_neg apart, found]

/-- Directories may have been added to a tree, where nothing was before. -/
def Prepared (tree later : Tree) : Prop :=
  ∀ place, later.node? place = tree.node? place ∨
    (tree.node? place = none ∧ later.node? place = some .directory)

namespace Prepared

variable {later last : Tree}

theorem refl (tree : Tree) : Prepared tree tree :=
  fun _ => .inl rfl

theorem keeps (h : Prepared tree later) : Keeps tree later := by
  intro place node found
  obtain same | ⟨free, -⟩ := h place
  · exact same.trans found
  · rw [found] at free
    cases free

theorem file? (h : Prepared tree later) (place : List String) :
    later.file? place = tree.file? place := by
  unfold Tree.file?
  obtain same | ⟨free, made⟩ := h place
  · rw [same]
  · rw [free, made]

theorem trans (h : Prepared tree later) (h' : Prepared later last) : Prepared tree last := by
  intro place
  obtain same | ⟨free, made⟩ := h' place
  · rw [same]
    exact h place
  · obtain same' | ⟨-, made'⟩ := h place
    · exact .inr ⟨same'.symm.trans free, made⟩
    · rw [made'] at free
      cases free

end Prepared

private theorem prepared_append (free : tree.node? place = none) :
    Prepared tree (tree ++ [(place, .directory)]) := by
  intro p
  rw [node?_append_singleton free]
  by_cases same : p = place
  · subst same
    exact .inr ⟨free, if_pos rfl⟩
  · exact .inl (if_neg same)

/-! Following names. -/

theorem follow_nil (tree : Tree) (place : List String) : tree.follow place [] = .ok place := by
  rw [follow]

theorem follow_cons (directory : tree.isDirectory place = true) (name : String)
    (rest : List String) : tree.follow place (name :: rest) =
      if name = ".." then tree.follow place.dropLast rest
      else checkName name >>= fun _ => tree.follow (place ++ [name]) rest := by
  rw [follow, isDirectory_iff.1 directory]

private theorem isDirectory_of_follow {name : String} {rest found : List String}
    (h : tree.follow place (name :: rest) = .ok found) : tree.isDirectory place = true := by
  rw [follow] at h
  split at h
  · cases h
  · cases h
  · rename_i directory
    exact isDirectory_iff.2 directory

theorem follow_append (names more : List String) :
    tree.follow place (names ++ more) =
      tree.follow place names >>= fun found => tree.follow found more := by
  induction names generalizing place with
  | nil => rw [follow_nil]; rfl
  | cons name rest ih =>
    rw [List.cons_append, follow, follow]
    split
    · rfl
    · rfl
    · split
      · exact ih
      · cases checkName name with
        | error failure => rfl
        | ok _ => exact ih

theorem eq_append_of_follow {names found : List String} (plain : ".." ∉ names)
    (h : tree.follow place names = .ok found) : found = place ++ names := by
  induction names generalizing place with
  | nil =>
    rw [follow_nil] at h
    rw [List.append_nil, Except.ok.inj h]
  | cons name rest ih =>
    obtain ⟨apart, plain⟩ := not_or.1 (List.mem_cons.not.1 plain)
    rw [follow_cons (isDirectory_of_follow h), if_neg (Ne.symm apart)] at h
    cases checked : checkName name with
    | error failure =>
      rw [checked] at h
      cases h
    | ok _ =>
      rw [checked] at h
      rw [ih plain h, List.append_assoc, List.singleton_append]

def Leads (tree : Tree) (place names found : List String) : Prop :=
  tree.follow place names = .ok found ∧ tree.isDirectory found = true

private theorem leads_nil_iff {found : List String} :
    tree.Leads place [] found ↔ found = place ∧ tree.isDirectory place = true := by
  rw [Leads, follow_nil, Except.ok.injEq]
  constructor
  · rintro ⟨rfl, directory⟩
    exact ⟨rfl, directory⟩
  · rintro ⟨rfl, directory⟩
    exact ⟨rfl, directory⟩

private theorem leads_cons_iff {name : String} {rest found : List String} :
    tree.Leads place (name :: rest) found ↔ tree.isDirectory place = true ∧
      if name = ".." then tree.Leads place.dropLast rest found
      else checkName name = .ok () ∧ tree.Leads (place ++ [name]) rest found := by
  by_cases directory : tree.isDirectory place = true
  · simp only [Leads, follow_cons directory, directory, true_and]
    by_cases up : name = ".."
    · simp only [if_pos up]
    · simp only [if_neg up]
      cases checkName name with
      | error failure => simp [bind, Except.bind]
      | ok _ => simp [bind, Except.bind]
  · constructor
    · rintro ⟨followed, -⟩
      exact absurd (isDirectory_of_follow followed) directory
    · rintro ⟨found, -⟩
      exact absurd found directory

theorem Leads.mono {later : Tree} {names found : List String} (keeps : Keeps tree later)
    (h : tree.Leads place names found) : later.Leads place names found := by
  induction names generalizing place with
  | nil =>
    obtain ⟨same, directory⟩ := leads_nil_iff.1 h
    exact leads_nil_iff.2 ⟨same, keeps.isDirectory directory⟩
  | cons name rest ih =>
    obtain ⟨directory, onward⟩ := leads_cons_iff.1 h
    refine leads_cons_iff.2 ⟨keeps.isDirectory directory, ?_⟩
    by_cases up : name = ".."
    · rw [if_pos up] at onward ⊢
      exact ih onward
    · rw [if_neg up] at onward ⊢
      exact ⟨onward.1, ih onward.2⟩

private theorem enter_eq_ok_iff {names found : List String} :
    tree.enter place names = .ok found ↔ tree.Leads place names found := by
  rw [enter, Leads]
  cases tree.follow place names with
  | error failure => simp [bind, Except.bind]
  | ok reached =>
    have directory := @isDirectory_iff tree reached
    simp only [bind, Except.bind, Except.ok.injEq]
    constructor
    · intro entered
      split at entered
      · cases entered
      · cases entered
      · rename_i node
        obtain rfl := Except.ok.inj entered
        exact ⟨rfl, directory.2 node⟩
    · rintro ⟨rfl, found⟩
      rw [directory.1 found]

/-! Making directories. -/

/-- What becomes of a tree when the directories on the way along names are made. -/
structure Makes (tree : Tree) (place names : List String)
    (made : Tree × Except Failure (List String)) : Prop where
  prepared : Prepared tree made.1
  leads : ∀ found, made.2 = .ok found → made.1.Leads place names found
  /-- Without a step up nothing is made beyond the last name. -/
  beyond : ".." ∉ names → ∀ p : List String, place.length + names.length < p.length →
    made.1.node? p = tree.node? p

private theorem Makes.of_error (tree : Tree) (place names : List String) (failure : Failure) :
    Makes tree place names (tree, .error failure) where
  prepared := Prepared.refl tree
  leads := fun _ same => nomatch same
  beyond := fun _ _ _ => rfl

/-- A step down, with the rest of the names from there. Whether the next directory was made or there
before, the tree in between differs from the first by that directory at most. -/
theorem Makes.cons {tree next : Tree} {place rest : List String} {name : String}
    {made : Tree × Except Failure (List String)} (directory : tree.isDirectory place = true)
    (up : name ≠ "..") (checked : checkName name = .ok ()) (before : Prepared tree next)
    (same : ∀ p : List String, place.length + (name :: rest).length < p.length →
      next.node? p = tree.node? p)
    (further : Makes next (place ++ [name]) rest made) : Makes tree place (name :: rest) made := by
  have prepared := before.trans further.prepared
  refine ⟨prepared, fun found reached => ?_, fun plain p long => ?_⟩
  · refine leads_cons_iff.2 ⟨prepared.keeps.isDirectory directory, ?_⟩
    rw [if_neg up]
    exact ⟨checked, further.leads found reached⟩
  · have below : (place ++ [name]).length + rest.length < p.length := by
      simp only [List.length_append, List.length_cons, List.length_nil] at long ⊢
      omega
    rw [further.beyond (fun later => plain (List.mem_cons_of_mem name later)) p below]
    exact same p long

private theorem makes_makeAll (tree : Tree) (lacked : Bool) (place names : List String) :
    Makes tree place names (tree.makeAll lacked place names) := by
  induction names generalizing tree lacked place with
  | nil =>
    rw [makeAll]
    split
    · rename_i directory
      refine ⟨Prepared.refl tree, fun found same => ?_, fun _ _ _ => rfl⟩
      exact leads_nil_iff.2 ⟨(Except.ok.inj same).symm, directory⟩
    · exact Makes.of_error tree place [] _
  | cons name rest ih =>
    rw [makeAll]
    by_cases directory : tree.isDirectory place = true
    swap
    · simp only [directory]
      exact Makes.of_error tree place (name :: rest) _
    rw [directory]
    by_cases up : name = ".."
    · obtain ⟨prepared, leads, -⟩ := ih tree lacked place.dropLast
      rw [if_neg (by simp), if_pos up]
      refine ⟨prepared, fun found same => ?_, fun plain => absurd (up ▸ List.mem_cons_self) plain⟩
      exact leads_cons_iff.2
        ⟨prepared.keeps.isDirectory directory, by simpa [up] using leads found same⟩
    rw [if_neg (by simp), if_neg up]
    cases checked : checkName name with
    | error failure => exact Makes.of_error tree place (name :: rest) failure
    | ok _ =>
      dsimp only
      split
      · exact .cons directory up checked (Prepared.refl tree) (fun _ _ => rfl) (ih _ _ _)
      · rename_i free
        have free : tree.node? (place ++ [name]) = none := by simpa using free
        refine .cons directory up checked (prepared_append free) (fun p long => ?_) (ih _ _ _)
        have apart : p ≠ place ++ [name] := by
          rintro rfl
          simp only [List.length_append, List.length_cons, List.length_nil] at long
          omega
        rw [node?_append_singleton free, if_neg apart]

private theorem makeAll_of_leads {names found : List String} (h : tree.Leads place names found)
    (lacked : Bool) : tree.makeAll lacked place names = (tree, .ok found) := by
  induction names generalizing place with
  | nil =>
    obtain ⟨rfl, directory⟩ := leads_nil_iff.1 h
    rw [makeAll, if_pos directory]
  | cons name rest ih =>
    obtain ⟨directory, onward⟩ := leads_cons_iff.1 h
    rw [makeAll, directory, if_neg (by simp)]
    by_cases up : name = ".."
    · rw [if_pos up] at onward ⊢
      exact ih onward
    · rw [if_neg up] at onward ⊢
      obtain ⟨checked, onward⟩ := onward
      have there : tree.isDirectory (place ++ [name]) = true := by
        cases rest with
        | nil => exact (leads_nil_iff.1 onward).2
        | cons => exact (leads_cons_iff.1 onward).1
      rw [checked]
      dsimp only
      rw [isDirectory_iff.1 there]
      exact ih onward

def origin (cwd : List String) (path : String) : List String :=
  if (Path.ofText path).rooted then [] else cwd

variable {cwd : List String} {path : String}

def IsAt (tree : Tree) (cwd : List String) (path : String) (found : List String) : Prop :=
  tree.Leads (origin cwd path) (Path.ofText path).names found

theorem makes_makeDirectory (tree : Tree) (cwd : List String) (path : String) :
    Makes tree (origin cwd path) (Path.ofText path).names (tree.makeDirectory cwd path) := by
  rw [makeDirectory]
  cases checkPath path with
  | error failure => exact Makes.of_error tree _ _ failure
  | ok _ =>
    dsimp only
    rw [← origin]
    generalize origin cwd path = place
    generalize (Path.ofText path).names = names
    split
    · exact makes_makeAll tree false place names
    · split
      · have made := makes_makeAll tree false place names.dropLast
        generalize tree.makeAll false place names.dropLast = all at made ⊢
        obtain ⟨later, reached⟩ := all
        have beyond : ".." ∉ names → ∀ p : List String, place.length + names.length < p.length →
            later.node? p = tree.node? p := by
          intro plain p long
          refine made.beyond (fun inside => plain (names.dropLast_subset inside)) p ?_
          rw [List.length_dropLast]
          omega
        cases reached with
        | error failure => exact ⟨made.prepared, (fun found same => nomatch same), beyond⟩
        | ok other =>
          exact ⟨made.prepared, fun found entered => enter_eq_ok_iff.1 entered, beyond⟩
      · refine ⟨Prepared.refl tree, fun found entered => ?_, fun _ _ _ => rfl⟩
        exact enter_eq_ok_iff.1 entered

theorem makeDirectory_of_isAt {found : List String} (checked : checkPath path = .ok ())
    (h : tree.IsAt cwd path found) : tree.makeDirectory cwd path = (tree, .ok found) := by
  have all := makeAll_of_leads h false
  have entered := enter_eq_ok_iff.2 h
  rw [origin] at all entered
  rw [makeDirectory, checked]
  dsimp only
  rw [all, entered]
  split <;> rfl

end PanelProbe.Storage.Tree
