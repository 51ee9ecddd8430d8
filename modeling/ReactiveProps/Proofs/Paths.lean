import Mathlib.Data.String.Basic
import ReactiveProps.Files.SourceFile

/-!
# Paths of folders

A path and its tidy form lead to the same folder, and a path that can be looked up is at least as
long as its tidy form. So a search that starts from a folder finds that folder.
-/
namespace ReactiveProps.Files

section Lists

variable {α : Type} {sep : α}

theorem not_mem_of_mem_splitOn [BEq α] [LawfulBEq α] {xs part : List α}
    (listed : part ∈ xs.splitOn sep) : sep ∉ part := by
  induction xs generalizing part with
  | nil =>
    rw [List.splitOn_nil, List.mem_singleton] at listed
    rw [listed]
    exact List.not_mem_nil
  | cons x xs ih =>
    rw [List.splitOn_cons_eq_if_modifyHead] at listed
    by_cases same : x == sep
    · rw [if_pos same] at listed
      rcases List.mem_cons.mp listed with rfl | later
      · exact List.not_mem_nil
      · exact ih later
    · rw [if_neg same] at listed
      have differ : sep ≠ x := fun equal => same (beq_iff_eq.mpr equal.symm)
      cases parts : xs.splitOn sep with
      | nil => exact absurd parts (List.splitOn_ne_nil sep xs)
      | cons first rest =>
        rw [parts] at ih listed
        rcases List.mem_cons.mp listed with rfl | later
        · rw [List.mem_cons, not_or]
          exact ⟨differ, ih List.mem_cons_self⟩
        · exact ih (List.mem_cons_of_mem first later)

theorem sublist_intercalate {xs ys : List (List α)} (fewer : xs.Sublist ys) :
    ([sep].intercalate xs).Sublist ([sep].intercalate ys) := by
  have grows (y : List α) (zs : List (List α)) :
      ([sep].intercalate zs).Sublist ([sep].intercalate (y :: zs)) := by
    cases zs with
    | nil => exact List.nil_sublist _
    | cons z zs =>
      rw [List.intercalate_cons_cons]
      exact List.sublist_append_right _ _
  induction fewer with
  | slnil => exact List.Sublist.refl _
  | @cons xs ys y _ ih => exact ih.trans (grows y ys)
  | @cons_cons xs ys y fewer ih =>
    cases xs with
    | nil =>
      rw [List.intercalate_singleton]
      cases ys with
      | nil => rw [List.intercalate_singleton]
      | cons z zs =>
        rw [List.intercalate_cons_cons, List.append_assoc]
        exact List.sublist_append_left _ _
    | cons x xs =>
      have more : ys ≠ [] := by
        rintro rfl
        cases fewer
      rw [List.intercalate_cons_cons, List.intercalate_cons_of_ne_nil more]
      exact ih.append_left _

end Lists

/-! ### The names in a path -/

theorem not_mem_of_mem_components {path name : String} (listed : name ∈ components path) :
    '/' ∉ name.toList := by
  obtain ⟨part, inside, rfl⟩ := List.mem_map.mp listed
  rw [String.toList_ofList]
  exact not_mem_of_mem_splitOn inside

theorem toList_eq_intercalate (path : String) :
    path.toList = ['/'].intercalate ((components path).map String.toList) := by
  have parts : (components path).map String.toList = path.toList.splitOn '/' := by
    rw [components, List.map_map]
    exact (List.map_congr_left fun part _ => String.toList_ofList).trans (List.map_id _)
  rw [parts, List.intercalate_splitOn]

theorem components_intercalate {names : List String} (some : names ≠ [])
    (plain : ∀ name ∈ names, '/' ∉ name.toList) : components ("/".intercalate names) = names := by
  have parts : ("/".intercalate names).toList.splitOn '/' = names.map String.toList := by
    rw [String.toList_intercalate]
    refine List.splitOn_intercalate '/' ?_ (by simpa using some)
    intro part listed
    obtain ⟨name, inside, rfl⟩ := List.mem_map.mp listed
    exact plain name inside
  rw [components, parts, List.map_map]
  exact (List.map_congr_left fun name _ => String.ofList_toList).trans (List.map_id _)

theorem components_slash (text : String) : components ("/" ++ text) = "" :: components text := by
  have read : ("/" ++ text).toList = '/' :: text.toList := String.toList_append
  rw [components, read, List.splitOn_cons_eq_if_modifyHead]
  rfl

theorem pathParts_sublist (path : String) : (pathParts path).Sublist (components path) :=
  List.filter_sublist

theorem pathParts_slash (text : String) : pathParts ("/" ++ text) = pathParts text := by
  rw [pathParts, components_slash, List.filter_cons_of_neg (by decide)]
  rfl

/-- What can stand between the slashes of a path without being idle. -/
structure IsPart (name : String) : Prop where
  filled : name ≠ ""
  plain : '/' ∉ name.toList

theorem isPart_of_mem_pathParts {path name : String} (listed : name ∈ pathParts path) :
    IsPart name := by
  have chosen := (List.mem_filter.mp listed).2
  simp only [bne_iff_ne, Bool.and_eq_true] at chosen
  exact ⟨chosen.1, not_mem_of_mem_components ((pathParts_sublist path).subset listed)⟩

theorem intercalate_ne_empty {names : List String} (some : names ≠ [])
    (parts : ∀ name ∈ names, IsPart name) : "/".intercalate names ≠ "" := by
  intro empty
  have back := components_intercalate some fun name listed => (parts name listed).plain
  have only : components "" = [""] := components_intercalate (List.cons_ne_nil "" []) (by decide)
  rw [empty, only] at back
  exact (parts "" (back ▸ List.mem_singleton_self "")).filled rfl

/-! ### The slashes in front -/

theorem anchor_cases (path : String) :
    anchor path = "" ∧ isAbsolute path = false ∨
      (anchor path = "/" ∨ anchor path = "//") ∧ isAbsolute path = true := by
  unfold anchor isAbsolute
  split
  · next read => exact .inr ⟨.inl rfl, by rw [read]; rfl⟩
  · next read => exact .inr ⟨.inr rfl, by rw [read]; rfl⟩
  · next read => exact .inr ⟨.inl rfl, by rw [read]; rfl⟩
  · next relative =>
    refine .inl ⟨rfl, ?_⟩
    cases read : path.toList with
    | nil => rfl
    | cons first rest =>
      rw [List.head?_cons, beq_eq_false_iff_ne]
      rintro ⟨⟩
      exact relative rest read

theorem twoSlashes_append (text : String) : "//" ++ text = "/" ++ ("/" ++ text) := by
  rw [← String.append_assoc]
  rfl

/-- The anchor of a path is what it begins with, and the names come after it. -/
theorem exists_anchor_append (path : String) :
    ∃ rest, path = anchor path ++ rest ∧ pathParts path = pathParts rest := by
  have slash {text : List Char} (read : path.toList = '/' :: text) :
      path = "/" ++ String.ofList text := by
    rw [← String.toList_inj, read, String.toList_append]
    exact congrArg ('/' :: ·) String.toList_ofList.symm
  unfold anchor
  split
  · next read => exact ⟨_, slash read, by rw [slash read, pathParts_slash]⟩
  · next text _ read =>
    have whole : path = "//" ++ String.ofList text := by
      rw [twoSlashes_append, slash read]
      exact congrArg ("/" ++ ·) (String.toList_inj.mp (by simp))
    exact ⟨_, whole, by rw [whole, twoSlashes_append, pathParts_slash, pathParts_slash]⟩
  · next read => exact ⟨_, slash read, by rw [slash read, pathParts_slash]⟩
  · exact ⟨path, String.empty_append.symm, rfl⟩

/-! ### Tidy paths -/

theorem pathError?_eq_none_iff {path : String} :
    pathError? path = none ↔
      Char.ofNat 0 ∉ path.toList ∧ path.utf8ByteSize ≤ longestPath := by
  unfold pathError?
  by_cases null : path.toList.contains (Char.ofNat 0) = true
  · rw [if_pos null]
    simp only [reduceCtorEq, false_iff, not_and]
    exact fun without => absurd (List.contains_iff_mem.mp null) without
  · rw [if_neg null]
    by_cases long : longestPath < path.utf8ByteSize
    · rw [if_pos long]
      simp only [reduceCtorEq, false_iff, not_and]
      exact fun _ => Nat.not_le.mpr long
    · rw [if_neg long]
      simp only [true_iff]
      exact ⟨fun listed => null (List.contains_iff_mem.mpr listed), Nat.not_lt.mp long⟩

theorem pathError?_of_sublist {path other : String} (shorter : other.toList.Sublist path.toList)
    (fine : pathError? path = none) : pathError? other = none := by
  rw [pathError?_eq_none_iff] at fine ⊢
  obtain ⟨plain, short⟩ := fine
  refine ⟨fun listed => plain (shorter.subset listed), ?_⟩
  have size := String.utf8Len_le_of_sublist shorter
  rw [String.utf8Len_toList, String.utf8Len_toList] at size
  exact size.trans short

theorem listedPath_sublist (path : String) : (listedPath path []).toList.Sublist path.toList := by
  obtain ⟨rest, whole, parts⟩ := exists_anchor_append path
  have names : ("/".intercalate (pathParts rest)).toList.Sublist rest.toList := by
    rw [String.toList_intercalate, toList_eq_intercalate rest]
    exact sublist_intercalate ((pathParts_sublist rest).map String.toList)
  have joined : (listedPath path []).toList =
      (anchor path).toList ++ ("/".intercalate (pathParts rest)).toList := by
    rw [listedPath, List.append_nil, parts, String.toList_append]
  have split : path.toList = (anchor path).toList ++ rest.toList := by
    conv_lhs => rw [whole]
    exact String.toList_append
  rw [joined, split]
  exact names.append_left _

theorem pathError?_tidyPath {path : String} (fine : pathError? path = none) :
    pathError? (tidyPath path) = none := by
  simp only [tidyPath]
  split
  · decide
  · exact pathError?_of_sublist (listedPath_sublist path) fine

section Listed

variable {root : String} {entry : Location} (parts : ∀ name ∈ entry, IsPart name)

include parts

theorem isPart_of_mem_append : ∀ name ∈ pathParts root ++ entry, IsPart name := by
  intro name listed
  rcases List.mem_append.mp listed with above | below
  · exact isPart_of_mem_pathParts above
  · exact parts name below

/-- A listed path starts where its root starts. -/
theorem isAbsolute_listedPath : isAbsolute (listedPath root entry) = isAbsolute root := by
  unfold listedPath
  rcases anchor_cases root with ⟨none, relative⟩ | ⟨slash | slashes, absolute⟩
  · rw [none, relative, String.empty_append, isAbsolute, String.toList_intercalate]
    cases names : pathParts root ++ entry with
    | nil => rfl
    | cons name rest =>
      have isPart : IsPart name :=
        isPart_of_mem_append parts name (names ▸ List.mem_cons_self)
      cases read : name.toList with
      | nil => exact absurd (String.toList_eq_nil_iff.mp read) isPart.filled
      | cons first others =>
        have differ : first ≠ '/' := by
          rintro rfl
          exact isPart.plain (read ▸ List.mem_cons_self)
        have head : ("/".toList.intercalate ((name :: rest).map String.toList)).head? =
            some first := by
          cases rest <;> simp [read, List.intercalate]
        rw [head]
        simpa using differ
  · rw [slash, absolute]
    simp [isAbsolute]
  · rw [slashes, absolute]
    simp [isAbsolute]

end Listed

namespace FileSystem

variable {fs : FileSystem}

section Follow

variable {current : Location} {name : String} {rest : List String}

theorem follow_idle (idle : name = "" ∨ name = ".") :
    fs.follow current (name :: rest) = fs.follow current rest := by
  rw [follow, if_pos idle]

theorem follow_up :
    fs.follow current (".." :: rest) = fs.follow current.dropLast rest := by
  rw [follow, if_neg (by decide), if_pos rfl]

theorem follow_down (leads : ¬ (name = "" ∨ name = ".")) (inner : name ≠ "..")
    (short : ¬ longestName < name.utf8ByteSize)
    (folder : fs.isFolderAt (current ++ [name]) = true) :
    fs.follow current (name :: rest) = fs.follow (current ++ [name]) rest := by
  rw [follow, if_neg leads, if_neg inner]
  simp only [short, folder, if_false, if_true]

theorem follow_file (leads : ¬ (name = "" ∨ name = ".")) (inner : name ≠ "..")
    (short : ¬ longestName < name.utf8ByteSize)
    (noFolder : fs.isFolderAt (current ++ [name]) = false)
    (isFile : fs.isFileAt (current ++ [name]) = true) :
    fs.follow current [name] = .ok (.file (current ++ [name])) := by
  rw [follow, if_neg leads, if_neg inner]
  simp only [short, noFolder, isFile, Bool.false_eq_true, if_false, if_true, List.isEmpty_nil]

end Follow

theorem filter_leading_cons {name : String} {rest : List String}
    (leads : ¬ (name = "" ∨ name = ".")) :
    (name :: rest).filter (fun name => name != "" && name != ".") =
      name :: rest.filter fun name => name != "" && name != "." := by
  refine List.filter_cons_of_pos ?_
  simpa using not_or.mp leads

/-- On the way to a folder it makes no difference whether the names that lead nowhere are there. -/
theorem follow_filter {current folder : Location} {names : List String}
    (found : fs.follow current names = .ok (.folder folder)) :
    fs.follow current (names.filter fun name => name != "" && name != ".") =
      .ok (.folder folder) := by
  fun_induction fs.follow current names with
  | case1 => exact found
  | case2 current name rest idle ih =>
    rw [List.filter_cons_of_neg (by rcases idle with rfl | rfl <;> decide)]
    exact ih found
  | case3 current rest leads ih =>
    rw [filter_leading_cons leads, follow_up]
    exact ih found
  | case5 current name rest leads inner next short folder ih =>
    rw [filter_leading_cons leads, follow_down leads inner short folder]
    exact ih found
  | case4 | case6 | case7 | case8 | case9 => cases found

theorem follow_components_intercalate {current : Location} {names : List String}
    (parts : ∀ name ∈ names, IsPart name) :
    fs.follow current (components ("/".intercalate names)) = fs.follow current names := by
  by_cases some : names = []
  · rw [some, String.intercalate_nil]
    exact follow_idle (.inl rfl)
  · rw [components_intercalate some fun name listed => (parts name listed).plain]

theorem follow_components_anchor {current : Location} (path text : String) :
    fs.follow current (components (anchor path ++ text)) =
      fs.follow current (components text) := by
  have idle (text : String) :
      fs.follow current (components ("/" ++ text)) = fs.follow current (components text) := by
    rw [components_slash, follow_idle (.inl rfl)]
  rcases anchor_cases path with ⟨none, -⟩ | ⟨slash | slashes, -⟩
  · rw [none, String.empty_append]
  · rw [slash, idle]
  · rw [slashes, twoSlashes_append, idle, idle]

/-- A listed path leads where the names of its root and then its own lead. -/
theorem locate_listedPath {root : String} {entry : Location}
    (parts : ∀ name ∈ entry, IsPart name) (filled : listedPath root entry ≠ "")
    (fine : pathError? (listedPath root entry) = none) :
    fs.locate (listedPath root entry) =
      fs.follow (startOf fs.workingFolder root) (pathParts root ++ entry) := by
  rw [locate, fine]
  simp only
  rw [if_neg filled, startOf, isAbsolute_listedPath parts, listedPath, follow_components_anchor,
    follow_components_intercalate (isPart_of_mem_append parts)]
  rfl

theorem locate_tidyPath {path : String} (fine : pathError? (tidyPath path) = none) :
    fs.locate (tidyPath path) = fs.follow (startOf fs.workingFolder path) (pathParts path) := by
  by_cases empty : listedPath path [] = ""
  · have here : tidyPath path = "." := if_pos empty
    have split : anchor path = "" ∧ "/".intercalate (pathParts path) = "" := by
      rwa [listedPath, List.append_nil, String.append_eq_empty_iff] at empty
    have none : pathParts path = [] := by
      by_contra some
      exact intercalate_ne_empty some (fun _ => isPart_of_mem_pathParts) split.2
    have relative : isAbsolute path = false := by
      rcases anchor_cases path with ⟨-, relative⟩ | ⟨slash | slashes, -⟩
      · exact relative
      · exact absurd (split.1.symm.trans slash) (by decide)
      · exact absurd (split.1.symm.trans slashes) (by decide)
    rw [here, none, startOf, relative]
    rfl
  · have tidy : tidyPath path = listedPath path [] := if_neg empty
    rw [tidy] at fine ⊢
    rw [locate_listedPath (by simp) empty fine, List.append_nil]

/-- A tidy path leads to the same folder. -/
theorem locate_tidyPath_of_locate {path : String} {folder : Location}
    (found : fs.locate path = .ok (.folder folder)) :
    fs.locate (tidyPath path) = .ok (.folder folder) := by
  unfold locate at found
  cases fine : pathError? path with
  | some error =>
    rw [fine] at found
    cases found
  | none =>
    rw [fine] at found
    simp only at found
    split at found
    · cases found
    · rw [locate_tidyPath (pathError?_tidyPath fine)]
      exact follow_filter found

theorem exists_of_isFolder {path : String} (isFolder : fs.isFolder path = true) :
    ∃ folder, fs.locate path = .ok (.folder folder) := by
  unfold FileSystem.isFolder at isFolder
  split at isFolder
  · rename_i folder found
    exact ⟨folder, found⟩
  · cases isFolder

/-- A search that starts from a folder has that folder as its root. -/
theorem root?_of_isFolder {path : String} (isFolder : fs.isFolder path = true) :
    ∃ folder, fs.root? path = .ok (some folder) := by
  obtain ⟨folder, found⟩ := exists_of_isFolder isFolder
  refine ⟨folder, ?_⟩
  rw [root?, locate_tidyPath_of_locate found]

/-- The names of a root lead to its folder. -/
theorem follow_of_root? {root : String} {folder : Location}
    (found : fs.root? root = .ok (some folder)) :
    fs.follow (startOf fs.workingFolder root) (pathParts root) = .ok (.folder folder) := by
  unfold root? at found
  split at found
  · rename_i other located
    cases found
    cases fine : pathError? (tidyPath root) with
    | none => rwa [locate_tidyPath fine] at located
    | some error =>
      rw [locate, fine] at located
      cases located
  · cases found
  · cases found

end FileSystem

end ReactiveProps.Files
