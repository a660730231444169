import Mathlib.Data.List.Basic
import PanelProbe.Proofs.Storage.Tree

/-!
Names put behind the path of a directory: the joined path leads into the directory and on to the
name, and a file there is read by that path.
-/

set_option autoImplicit false

namespace PanelProbe.Storage

structure IsName (name : String) : Prop where
  single : '/' ∉ name.toList
  nonempty : name.toList ≠ []
  here : name ≠ "."
  above : name ≠ ".."

namespace IsName

variable {name : String} (named : IsName name)

include named

private theorem ne_empty : name ≠ "" := by
  rintro rfl
  exact named.nonempty rfl

private theorem head?_ne : name.toList.head? ≠ some '/' :=
  fun first => named.single (List.mem_of_head? first)

private theorem getLast?_ne : name.toList.getLast? ≠ some '/' :=
  fun last => named.single (List.mem_of_getLast? last)

private theorem splitOn_eq : name.toList.splitOn '/' = [name.toList] :=
  List.splitOn_eq_singleton named.single

private theorem toList_join (base : String) :
    (join base name).toList =
      if base.toList = [] ∨ base.toList.getLast? = some '/' then base.toList ++ name.toList
      else base.toList ++ '/' :: name.toList := by
  have first : (name.toList.head? == some '/') = false := beq_eq_false_iff_ne.2 named.head?_ne
  have blank : base.isEmpty = true ↔ base.toList = [] := by simp
  rw [join, first, if_neg (by simp)]
  by_cases closed : base.toList = [] ∨ base.toList.getLast? = some '/'
  · have ready : (base.isEmpty || base.toList.getLast? == some '/') = true := by
      rw [Bool.or_eq_true, blank, beq_iff_eq]
      exact closed
    rw [if_pos ready, if_pos closed, String.toList_append]
  · have shut : ¬(base.isEmpty || base.toList.getLast? == some '/') = true := by
      rw [Bool.or_eq_true, blank, beq_iff_eq]
      exact closed
    rw [if_neg shut, if_neg closed]
    simp

private theorem splitOn_join (base : String) :
    ∃ front, (join base name).toList.splitOn '/' = front ++ [name.toList] ∧
      front.filter (· ≠ []) = (base.toList.splitOn '/').filter (· ≠ []) := by
  have cut (text : List Char) : (text ++ '/' :: name.toList).splitOn '/' =
      text.splitOn '/' ++ [name.toList] := by
    rw [← named.splitOn_eq]
    exact List.splitOn_append_cons_self text _
  rw [named.toList_join]
  split
  · rename_i closed
    obtain blank | last := closed
    · exact ⟨[], by rw [blank, List.nil_append, named.splitOn_eq]; rfl, by rw [blank]; rfl⟩
    · obtain ⟨text, whole⟩ := List.getLast?_eq_some_iff.1 last
      have split : (text ++ ['/']).splitOn '/' = text.splitOn '/' ++ [[]] :=
        List.splitOn_append_cons_self text []
      rw [whole, List.append_assoc]
      refine ⟨text.splitOn '/', cut text, ?_⟩
      rw [split]
      simp
  · exact ⟨_, cut _, rfl⟩

private theorem names_join (base : String) :
    (Path.ofText (join base name)).names = (Path.ofText base).names ++ [name] := by
  obtain ⟨front, parts, same⟩ := named.splitOn_join base
  have nonempty (parts : List (List Char)) :
      (parts.map String.ofList).filter (fun p => p != "" && p != ".") =
        ((parts.filter (· ≠ [])).map String.ofList).filter fun p => p != "." := by
    rw [List.filter_map, List.filter_map, List.filter_filter]
    congr 1
    apply List.filter_congr
    intro part _
    have blank : String.ofList part = "" ↔ part = [] := by
      rw [← String.toList_inj, String.toList_ofList]
      rfl
    rw [Bool.eq_iff_iff]
    simp [blank, and_comm]
  have last : (name != "" && name != ".") = true := by
    rw [bne_iff_ne.2 named.ne_empty, bne_iff_ne.2 named.here]
    rfl
  simp only [Path.ofText, parts, List.map_append, List.filter_append, List.map_cons, List.map_nil,
    String.ofList_toList, List.filter_cons, last, List.filter_nil, if_true]
  rw [nonempty, same, ← nonempty]

private theorem rooted_join (base : String) :
    (Path.ofText (join base name)).rooted = (Path.ofText base).rooted := by
  have head : base.toList ≠ [] → ∀ more, (base.toList ++ more).head? = base.toList.head? :=
    fun nonempty more => List.head?_append_of_ne_nil _ nonempty
  have first : (name.toList.head? == some '/') = false := beq_eq_false_iff_ne.2 named.head?_ne
  simp only [Path.ofText, named.toList_join]
  by_cases blank : base.toList = []
  · simp [blank, first]
  · split
    · rw [head blank]
    · rw [head blank]

private theorem closed_join (base : String) : (Path.ofText (join base name)).closed = false := by
  obtain ⟨front, parts, -⟩ := named.splitOn_join base
  have last : (join base name).toList.getLast? = name.toList.getLast? := by
    rw [named.toList_join]
    split
    · exact List.getLast?_append_of_ne_nil _ named.nonempty
    · rw [List.getLast?_append_of_ne_nil _ (List.cons_ne_nil _ _), List.getLast?_cons]
      obtain ⟨c, found⟩ := Option.ne_none_iff_exists'.1
        (List.getLast?_eq_none_iff.not.2 named.nonempty)
      rw [found]
      rfl
  have slash : (name.toList.getLast? == some '/') = false := beq_eq_false_iff_ne.2 named.getLast?_ne
  have point : (some name == some ".") = false := beq_eq_false_iff_ne.2 (by simpa using named.here)
  simp only [Path.ofText, parts, List.map_append, List.map_cons, List.map_nil,
    String.ofList_toList, List.getLast?_concat, last, slash, point, Bool.or_false]

private theorem join_ne_empty (base : String) : (join base name).isEmpty = false := by
  have filled : (join base name).toList ≠ [] := by
    rw [named.toList_join]
    split
    · simp [named.nonempty]
    · simp
  simpa using filled

end IsName

namespace Tree

variable {tree : Tree} {cwd place : List String} {directory name : String}

theorem locate_join (named : IsName name) (there : tree.IsAt cwd directory place)
    (checked : checkName name = .ok ()) (path : checkPath (join directory name) = .ok ()) :
    tree.locate cwd (join directory name) = .ok (place ++ [name]) := by
  obtain ⟨followed, found⟩ := there
  have start : origin cwd (join directory name) = origin cwd directory := by
    rw [origin, origin, named.rooted_join]
  have last : tree.follow place [name] = .ok (place ++ [name]) := by
    rw [follow_cons found, if_neg named.above, checked]
    exact follow_nil tree _
  have whole : tree.follow (origin cwd directory) (Path.ofText (join directory name)).names =
      .ok (place ++ [name]) := by
    rw [named.names_join, follow_append, followed]
    exact last
  rw [← start, origin] at whole
  rw [locate, named.join_ne_empty, path]
  exact whole

theorem readText_join (named : IsName name) (there : tree.IsAt cwd directory place)
    (checked : checkName name = .ok ()) (path : checkPath (join directory name) = .ok ())
    {text : String} (file : tree.file? (place ++ [name]) = some text.toUTF8) :
    tree.readText cwd (join directory name) = .ok text := by
  have bytes : tree.read cwd (join directory name) = .ok text.toUTF8 := by
    rw [read, locate_join named there checked path]
    simp only [bind, Except.bind, file?_eq_some_iff.1 file, named.closed_join, if_neg,
      Bool.false_eq_true, not_false_eq_true]
  have decoded : String.fromUTF8? text.toUTF8 = some text := dif_pos text.isValidUTF8
  rw [readText, bytes]
  simp only [bind, Except.bind, decoded]

end Tree

end PanelProbe.Storage
