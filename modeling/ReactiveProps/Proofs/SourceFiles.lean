import Mathlib.Data.List.Sort
import Mathlib.Data.List.TakeWhile
import ReactiveProps.Proofs.Writes

/-!
# The source files below a folder

A search lists the source files below a folder, each once and in increasing order of their paths. A
search of a folder without those below it lists some of the same files. Each path listed leads to
its file.
-/
namespace ReactiveProps.Files

/-! ### The order of paths -/

theorem inOrder_iff (first second : Location) : inOrder first second = true ↔ first ≤ second := by
  rw [← not_lt]
  induction first generalizing second with
  | nil => simp [inOrder]
  | cons name rest ih =>
    cases second with
    | nil => simp [inOrder]
    | cons other others =>
      rw [inOrder, List.cons_lt_cons_iff]
      rcases lt_trichotomy name other with less | rfl | greater
      · rw [if_neg less.ne, decide_eq_true_iff]
        refine iff_of_true less ?_
        rintro (greater | ⟨same, -⟩)
        · exact lt_asymm less greater
        · exact less.ne same.symm
      · simp [ih]
      · rw [if_neg greater.ne', decide_eq_true_iff]
        exact iff_of_false (lt_asymm greater) (not_not.mpr (.inl greater))

theorem sortedLE_mergeSort_inOrder (files : List Location) :
    (files.mergeSort inOrder).SortedLE := by
  have order : inOrder = fun first second : Location => decide (first ≤ second) := by
    funext first second
    rw [Bool.eq_iff_iff, inOrder_iff, decide_eq_true_iff]
  rw [order]
  exact List.sortedLE_mergeSort

/-! ### Trees of files -/

structure IsName (name : String) : Prop where
  part : IsPart name
  notSame : name ≠ "."
  notParent : name ≠ ".."
  noNull : Char.ofNat 0 ∉ name.toList
  short : name.utf8ByteSize ≤ longestName

/-- Everything has a name, and no file is a folder. -/
structure FileSystem.IsTree (fs : FileSystem) : Prop where
  named : ∀ location ∈ fs.workingFolder :: fs.folders ++ fs.files.keys,
    ∀ name ∈ location, IsName name
  apart : ∀ file ∈ fs.files.keys, fs.isFolderAt file = false

instance (name : String) : Decidable (IsName name) :=
  decidable_of_iff ((name ≠ "" ∧ '/' ∉ name.toList) ∧ name ≠ "." ∧ name ≠ ".." ∧
      Char.ofNat 0 ∉ name.toList ∧ name.utf8ByteSize ≤ longestName)
    ⟨fun ⟨⟨filled, plain⟩, notSame, notParent, noNull, short⟩ =>
      ⟨⟨filled, plain⟩, notSame, notParent, noNull, short⟩,
    fun isName => ⟨⟨isName.part.filled, isName.part.plain⟩, isName.notSame, isName.notParent,
      isName.noNull, isName.short⟩⟩

instance (fs : FileSystem) : Decidable fs.IsTree :=
  decidable_of_iff ((∀ location ∈ fs.workingFolder :: fs.folders ++ fs.files.keys,
      ∀ name ∈ location, IsName name) ∧ ∀ file ∈ fs.files.keys, fs.isFolderAt file = false)
    ⟨fun ⟨named, apart⟩ => ⟨named, apart⟩, fun tree => ⟨tree.named, tree.apart⟩⟩

theorem mem_stages {location stage : Location} :
    stage ∈ location.stages ↔ stage ≠ [] ∧ stage <+: location := by
  simp only [Location.stages, List.mem_map, List.mem_range]
  constructor
  · rintro ⟨last, inside, rfl⟩
    refine ⟨fun none => ?_, List.take_prefix _ _⟩
    have size := congrArg List.length none
    rw [List.length_take, List.length_nil] at size
    omega
  · rintro ⟨some, onWay⟩
    have size := List.length_pos_iff.mpr some
    refine ⟨stage.length - 1, by have := onWay.length_le; omega, ?_⟩
    rw [Nat.sub_add_cancel size, ← List.prefix_iff_eq_take.mp onWay]

namespace FileSystem

variable {fs : FileSystem}

/-- What lies on the way to something is a folder, or that thing itself. -/
theorem exists_isPrefix_iff {location : Location} :
    (∃ known ∈ fs.workingFolder :: fs.folders ++ fs.files.keys, location <+: known) ↔
      fs.isFolderAt location = true ∨ location ∈ fs.files.keys := by
  rw [isFolderAt_iff]
  constructor
  · rintro ⟨known, listed, onWay⟩
    rcases List.mem_append.mp listed with folder | file
    · exact .inl (.inl ⟨known, folder, onWay⟩)
    · by_cases same : known = location
      · exact .inr (same ▸ file)
      · exact .inl (.inr ⟨known, file, onWay, same⟩)
  · rintro ((⟨folder, listed, onWay⟩ | ⟨file, listed, onWay, -⟩) | file)
    · exact ⟨folder, List.mem_append_left _ listed, onWay⟩
    · exact ⟨file, List.mem_append_right _ listed, onWay⟩
    · exact ⟨location, List.mem_append_right _ file, List.prefix_rfl⟩

theorem mem_entriesBelow {folder entry : Location} :
    entry ∈ fs.entriesBelow folder ↔
      entry ≠ [] ∧ (fs.isFolderAt (folder ++ entry) = true ∨ folder ++ entry ∈ fs.files.keys) := by
  simp only [entriesBelow, List.mem_eraseDups, List.mem_flatMap, List.mem_map, List.mem_filter,
    List.isPrefixOf_iff_prefix, mem_stages, ← exists_isPrefix_iff]
  constructor
  · rintro ⟨way, ⟨known, ⟨listed, ⟨rest, rfl⟩⟩, rfl⟩, some, onWay⟩
    rw [List.drop_left] at onWay
    exact ⟨some, _, listed, (List.prefix_append_right_inj folder).mpr onWay⟩
  · rintro ⟨some, known, listed, ⟨rest, rfl⟩⟩
    refine ⟨entry ++ rest, ⟨_, ⟨listed, ?_⟩, ?_⟩, some, List.prefix_append _ _⟩
    · exact (List.prefix_append folder entry).trans (List.prefix_append _ _)
    · rw [List.append_assoc, List.drop_left]

theorem IsTree.isName_of_mem (tree : fs.IsTree) {folder entry : Location}
    (listed : entry ∈ fs.entriesBelow folder) : ∀ name ∈ entry, IsName name := by
  obtain ⟨known, there, onWay⟩ := exists_isPrefix_iff.mpr (mem_entriesBelow.mp listed).2
  exact fun name inside =>
    tree.named known there name (onWay.subset (List.mem_append_right _ inside))

/-- From a folder on the way to a folder, the rest of the way leads there. -/
theorem follow_of_isFolderAt {folder entry : Location} (names : ∀ name ∈ entry, IsName name)
    (isFolder : fs.isFolderAt (folder ++ entry) = true) :
    fs.follow folder entry = .ok (.folder (folder ++ entry)) := by
  induction entry generalizing folder with
  | nil => rw [follow, List.append_nil]
  | cons name rest ih =>
    have isName := names name List.mem_cons_self
    have split : folder ++ name :: rest = (folder ++ [name]) ++ rest := by simp
    rw [split] at isFolder ⊢
    rw [follow_down (not_or.mpr ⟨isName.part.filled, isName.notSame⟩) isName.notParent
      (Nat.not_lt.mpr isName.short) (isFolderAt_of_isPrefix (List.prefix_append _ _) isFolder)]
    exact ih (fun other later => names other (List.mem_cons_of_mem _ later)) isFolder

theorem follow_append {current folder : Location} {names more : List String}
    (found : fs.follow current names = .ok (.folder folder)) :
    fs.follow current (names ++ more) = fs.follow folder more := by
  fun_induction fs.follow current names with
  | case1 =>
    cases found
    rfl
  | case2 current name rest idle ih =>
    rw [List.cons_append, follow_idle idle]
    exact ih found
  | case3 current rest leads ih =>
    rw [List.cons_append, follow_up]
    exact ih found
  | case5 current name rest leads inner next short folder ih =>
    rw [List.cons_append, follow_down leads inner short folder]
    exact ih found
  | case4 | case6 | case7 | case8 | case9 => cases found

/-- From a folder on the way to a file, the rest of the way leads to the file. -/
theorem IsTree.follow_of_mem_keys (tree : fs.IsTree) {folder file : Location} (some : file ≠ [])
    (listed : folder ++ file ∈ fs.files.keys) :
    fs.follow folder file = .ok (.file (folder ++ file)) := by
  have names := tree.isName_of_mem (mem_entriesBelow.mpr ⟨some, .inr listed⟩)
  obtain ⟨above, name, rfl⟩ := (List.eq_nil_or_concat' file).resolve_left some
  have isName := names name (List.mem_append_right _ List.mem_cons_self)
  have onWay : fs.isFolderAt (folder ++ above) = true := by
    refine isFolderAt_iff.mpr (.inr ⟨_, listed, ?_, ?_⟩)
    · rw [← List.append_assoc]
      exact List.prefix_append _ _
    · simp
  have isFile := isFileAt_of_mem_keys listed
  have noFolder := tree.apart _ listed
  rw [← List.append_assoc] at isFile noFolder ⊢
  rw [follow_append (follow_of_isFolderAt
      (fun other inside => names other (List.mem_append_left _ inside)) onWay)]
  exact follow_file (not_or.mpr ⟨isName.part.filled, isName.notSame⟩) isName.notParent
    (Nat.not_lt.mpr isName.short) noFolder isFile

/-- A search from a name that is too long to be looked up fails. -/
theorem root?_of_longName {name : String} (plain : '/' ∉ name.toList)
    (long : longestName < name.utf8ByteSize) (fine : pathError? name = none) :
    fs.root? name = .error .tooLong := by
  have other {text : String} (short : text.utf8ByteSize ≤ longestName) : name ≠ text := by
    rintro rfl
    exact absurd long (Nat.not_lt.mpr short)
  have leads : ¬ (name = "" ∨ name = ".") :=
    not_or.mpr ⟨other (by decide), other (by decide)⟩
  have read : components name = [name] := by
    have one := components_intercalate (List.cons_ne_nil name []) (by simpa using plain)
    rwa [String.intercalate_singleton] at one
  have parts : pathParts name = [name] := by
    rw [pathParts, read, filter_leading_cons leads]
    rfl
  have followed (current : Location) : fs.follow current [name] = .error .tooLong := by
    rw [follow, if_neg leads, if_neg (other (by decide))]
    simp only [long, if_true]
  rw [root?, locate_tidyPath (pathError?_tidyPath fine), parts, followed]

end FileSystem

/-! ### Listed paths -/

theorem intercalate_concat {names : List String} (some : names ≠ []) (last : String) :
    "/".intercalate (names ++ [last]) = "/".intercalate names ++ "/" ++ last := by
  induction names with
  | nil => exact absurd rfl some
  | cons name rest ih =>
    cases rest with
    | nil => simp [String.intercalate_cons_cons]
    | cons next others =>
      rw [List.cons_append, List.cons_append, String.intercalate_cons_cons, ← List.cons_append,
        ih (List.cons_ne_nil _ _), String.intercalate_cons_cons]
      simp only [String.append_assoc]

theorem mem_intercalate_iff {c : Char} (other : c ≠ '/') {names : List String} :
    c ∈ ("/".intercalate names).toList ↔ ∃ name ∈ names, c ∈ name.toList := by
  induction names with
  | nil => simp
  | cons name rest ih =>
    cases rest with
    | nil => simp
    | cons next others =>
      rw [String.intercalate_cons_cons, String.toList_append, String.toList_append,
        List.mem_append, List.mem_append, ih]
      simp [other]

namespace FileSystem

variable {fs : FileSystem} {root : String} {folder entry : Location}

theorem noNull_of_root? (found : fs.root? root = .ok (some folder)) :
    ∀ name ∈ pathParts root, Char.ofNat 0 ∉ name.toList := by
  intro name listed inside
  have here : Char.ofNat 0 ∈ ("/".intercalate (pathParts root)).toList :=
    (mem_intercalate_iff (by decide)).mpr ⟨name, listed, inside⟩
  have listedHere : Char.ofNat 0 ∈ (listedPath root []).toList := by
    rw [listedPath, List.append_nil, String.toList_append]
    exact List.mem_append_right _ here
  have tidy : tidyPath root = listedPath root [] := by
    refine if_neg fun empty => ?_
    rw [empty] at listedHere
    cases listedHere
  have broken : pathError? (tidyPath root) = some .nullCharacter := by
    rw [pathError?, tidy, if_pos (List.contains_iff_mem.mpr listedHere)]
  rw [root?, locate, broken] at found
  cases found

/-- A path below a root can be looked up if it is not too long. -/
theorem IsTree.pathError?_listedPath (tree : fs.IsTree) (found : fs.root? root = .ok (some folder))
    (listed : entry ∈ fs.entriesBelow folder)
    (short : fs.isTooLong (listedPath root entry) = false) :
    pathError? (listedPath root entry) = none := by
  have noNull : Char.ofNat 0 ∉ (listedPath root entry).toList := by
    rw [listedPath, String.toList_append, List.mem_append, not_or]
    refine ⟨?_, fun inside => ?_⟩
    · rcases anchor_cases root with ⟨none, -⟩ | ⟨slash | slashes, -⟩
      · rw [none]
        decide
      · rw [slash]
        decide
      · rw [slashes]
        decide
    · obtain ⟨name, there, null⟩ := (mem_intercalate_iff (by decide)).mp inside
      rcases List.mem_append.mp there with above | below
      · exact noNull_of_root? found name above null
      · exact (tree.isName_of_mem listed name below).noNull null
  rw [pathError?_eq_none_iff]
  refine ⟨noNull, Nat.not_lt.mp fun long => ?_⟩
  have broken : pathError? (listedPath root entry) = some .tooLong := by
    rw [pathError?, if_neg fun null => noNull (List.contains_iff_mem.mp null), if_pos long]
  rw [isTooLong, locate, broken] at short
  cases short

/-- What is listed below a root is found there, unless its path is too long to be looked up. -/
theorem IsTree.locate_entry (tree : fs.IsTree) (found : fs.root? root = .ok (some folder))
    (listed : entry ∈ fs.entriesBelow folder)
    (short : fs.isTooLong (listedPath root entry) = false) :
    fs.locate (listedPath root entry) = fs.follow folder entry := by
  have parts : ∀ name ∈ entry, IsPart name :=
    fun name inside => (tree.isName_of_mem listed name inside).part
  have filled : listedPath root entry ≠ "" := by
    intro empty
    rw [listedPath, String.append_eq_empty_iff] at empty
    refine intercalate_ne_empty (fun none => ?_) (isPart_of_mem_append parts) empty.2
    exact (mem_entriesBelow.mp listed).1 (List.append_eq_nil_iff.mp none).2
  rw [locate_listedPath parts filled (tree.pathError?_listedPath found listed short),
    follow_append (follow_of_root? found)]

/-- A path that a search lists is the path of a file if there is a file below the root. -/
theorem IsTree.isFile_listedPath (tree : fs.IsTree) (found : fs.root? root = .ok (some folder))
    (listed : entry ∈ fs.entriesBelow folder)
    (short : fs.isTooLong (listedPath root entry) = false) :
    fs.isFile (listedPath root entry) = true ↔ folder ++ entry ∈ fs.files.keys := by
  have located := tree.locate_entry found listed short
  obtain ⟨some, isFolder | file⟩ := mem_entriesBelow.mp listed
  · rw [follow_of_isFolderAt (tree.isName_of_mem listed) isFolder] at located
    rw [isFile, located]
    refine iff_of_false Bool.false_ne_true fun file => ?_
    exact absurd (isFolder.symm.trans (tree.apart _ file)) (by decide)
  · rw [tree.follow_of_mem_keys some file] at located
    rw [isFile, located]
    exact iff_of_true rfl file

/-- What a search from a root selects: files below it, or right in it, with one of the extensions and
not among those left out. A file is given relative to the root. -/
structure Selected (fs : FileSystem) (extensions : List String) (root : String)
    (folder? : Option Location) (recursive : Bool) (file : Location) : Prop where
  below : ∃ folder, folder? = some folder ∧ folder ++ file ∈ fs.files.keys
  filled : file ≠ []
  direct : recursive = false → file.length = 1
  extension : Text.lowercase (suffix (file.getLast filled)) ∈ extensions
  notDeclaration : (file.getLast filled).endsWith ".d.ts" = false
  notVendored : "node_modules" ∉ pathParts root ++ file

/-- No path that a search from a root looks at is too long to be looked up. -/
def Searchable (fs : FileSystem) (root : String) (recursive : Bool) : Prop :=
  ∀ folder, fs.root? root = .ok (some folder) → ∀ entry ∈ fs.candidates folder recursive,
    fs.isTooLong (listedPath root entry) = false

def selection (fs : FileSystem) (extensions : List String) (root : String)
    (folder? : Option Location) (recursive : Bool) : List Location :=
  match folder? with
  | some folder => (fs.candidates folder recursive).filter fun entry =>
      fs.isFile (listedPath root entry) && isSource extensions (pathParts root ++ entry)
  | none => []

theorem mem_candidates {recursive : Bool} :
    entry ∈ fs.candidates folder recursive ↔
      entry ∈ fs.entriesBelow folder ∧ (recursive = false → entry.length = 1) := by
  simp only [candidates, List.mem_mergeSort, List.mem_filter, Bool.or_eq_true, beq_iff_eq]
  cases recursive <;> simp

section Selection

variable {extensions : List String} {folder? : Option Location} {recursive : Bool}

theorem Searchable.direct (searchable : fs.Searchable root true) : fs.Searchable root recursive :=
  fun folder found entry listed => searchable folder found entry
    (mem_candidates.mpr ⟨(mem_candidates.mp listed).1, nofun⟩)

theorem searchable_of_entriesBelow (found : fs.root? root = .ok (some folder))
    (short : ∀ entry ∈ fs.entriesBelow folder, fs.isTooLong (listedPath root entry) = false) :
    fs.Searchable root recursive := by
  intro other foundToo entry listed
  cases found.symm.trans foundToo
  exact short entry (mem_candidates.mp listed).1

/-- A search that meets no path that is too long lists its selection. -/
theorem search_eq (found : fs.root? root = .ok folder?)
    (searchable : fs.Searchable root recursive) :
    fs.search extensions root recursive =
      ⟨(fs.selection extensions root folder? recursive).map (listedPath root), none⟩ := by
  rw [search, found]
  cases folder? with
  | none => rfl
  | some folder =>
    have short := searchable folder found
    have all {entries : List Location} (some : ∀ entry ∈ entries,
        entry ∈ fs.candidates folder recursive) :
        (entries.map (listedPath root)).find? fs.isTooLong = none := by
      refine List.find?_eq_none.mpr fun path listed => ?_
      obtain ⟨entry, inside, rfl⟩ := List.mem_map.mp listed
      exact Bool.not_eq_true _ ▸ short entry (some entry inside)
    have seen : (fs.candidates folder recursive).takeWhile
        (fun entry => !fs.isTooLong (listedPath root entry)) = fs.candidates folder recursive :=
      List.takeWhile_eq_self_iff.mpr fun entry inside => by rw [short entry inside]; rfl
    simp only [searchFrom]
    rw [all fun entry inside => (List.mem_filter.mp inside).1]
    simp only [look]
    rw [seen, all fun _ inside => inside]
    rfl

theorem isSource_append_iff {above file : List String} (filled : file ≠ []) :
    isSource extensions (above ++ file) = true ↔
      Text.lowercase (suffix (file.getLast filled)) ∈ extensions ∧
        (file.getLast filled).endsWith ".d.ts" = false ∧ "node_modules" ∉ above ++ file := by
  have last : (above ++ file).getLast?.getD "" = file.getLast filled := by
    rw [List.getLast?_append, List.getLast?_eq_some_getLast filled]
    rfl
  unfold isSource
  rw [last]
  simp only [Bool.and_eq_true, decide_eq_true_eq, Bool.not_eq_true', and_assoc]
  rfl

theorem IsTree.mem_selection (tree : fs.IsTree) (found : fs.root? root = .ok folder?)
    (searchable : fs.Searchable root recursive) {file : Location} :
    file ∈ fs.selection extensions root folder? recursive ↔
      fs.Selected extensions root folder? recursive file := by
  cases folder? with
  | none =>
    refine iff_of_false List.not_mem_nil fun selected => ?_
    obtain ⟨folder, none, -⟩ := selected.below
    cases none
  | some folder =>
    rw [selection, List.mem_filter, Bool.and_eq_true]
    constructor
    · rintro ⟨candidate, isFile, source⟩
      obtain ⟨listed, direct⟩ := mem_candidates.mp candidate
      have filled := (mem_entriesBelow.mp listed).1
      obtain ⟨extension, notDeclaration, notVendored⟩ := (isSource_append_iff filled).mp source
      have short := searchable folder found file candidate
      exact ⟨⟨folder, rfl, (tree.isFile_listedPath found listed short).mp isFile⟩, filled, direct,
        extension, notDeclaration, notVendored⟩
    · intro selected
      obtain ⟨other, same, there⟩ := selected.below
      cases same
      have listed := mem_entriesBelow.mpr ⟨selected.filled, .inr there⟩
      have candidate := mem_candidates.mpr ⟨listed, selected.direct⟩
      have short := searchable folder found file candidate
      exact ⟨candidate, (tree.isFile_listedPath found listed short).mpr there,
        (isSource_append_iff selected.filled).mpr
          ⟨selected.extension, selected.notDeclaration, selected.notVendored⟩⟩

theorem sortedLT_selection : (fs.selection extensions root folder? recursive).SortedLT := by
  cases folder? with
  | none => exact List.Pairwise.nil.sortedLT
  | some folder =>
    have distinct : ((fs.entriesBelow folder).filter fun entry =>
        recursive || entry.length == 1).Nodup := (nodup_eraseDups _).filter _
    have sorted := (sortedLE_mergeSort_inOrder _).sortedLT_of_nodup
      ((List.mergeSort_perm _ inOrder).nodup_iff.mpr distinct)
    exact (sorted.pairwise.filter _).sortedLT

theorem pairwise_selection :
    ((fs.selection extensions root folder? recursive).map (pathParts root ++ ·)).Pairwise
      (· < ·) := by
  rw [List.pairwise_map]
  exact sortedLT_selection.pairwise.imp fun less => List.Lex.append_left _ less _

theorem IsTree.locate_file (tree : fs.IsTree) (found : fs.root? root = .ok (some folder))
    {file : Location} (filled : file ≠ []) (there : folder ++ file ∈ fs.files.keys)
    (searchable : fs.Searchable root true) :
    fs.locate (listedPath root file) = .ok (.file (folder ++ file)) := by
  have listed := mem_entriesBelow.mpr ⟨filled, .inr there⟩
  have short := searchable folder found file (mem_candidates.mpr ⟨listed, nofun⟩)
  rw [tree.locate_entry found listed short, tree.follow_of_mem_keys filled there]

/-- A search that leaves out the folders below a root lists some of the files of a full search. -/
theorem IsTree.selection_sublist (tree : fs.IsTree) (found : fs.root? root = .ok folder?)
    (searchable : fs.Searchable root true) :
    (fs.selection extensions root folder? false).Sublist
      (fs.selection extensions root folder? true) := by
  refine List.sublist_of_subperm_of_sortedLE ?_ sortedLT_selection.sortedLE
    sortedLT_selection.sortedLE
  refine List.subperm_of_subset sortedLT_selection.nodup fun file listed => ?_
  have selected := (tree.mem_selection found searchable.direct).mp listed
  exact (tree.mem_selection found searchable).mpr { selected with direct := nofun }

end Selection

end FileSystem

end ReactiveProps.Files
