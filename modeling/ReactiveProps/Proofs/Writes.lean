import Mathlib.Data.List.Infix
import ReactiveProps.Files.FileSystem
import ReactiveProps.Proofs.OrderedMap
import ReactiveProps.Proofs.Paths
import ReactiveProps.Proofs.Report

/-!
# What is written can be read

Only a location in an existing folder is written. So no folder comes into being with a new file, and
the path that was written leads to the file that it named.
-/
namespace ReactiveProps.Files

namespace FileSystem

variable {fs : FileSystem}

theorem isFolderAt_iff {location : Location} :
    fs.isFolderAt location = true ↔
      (∃ folder ∈ fs.workingFolder :: fs.folders, location <+: folder) ∨
        ∃ file ∈ fs.files.keys, location <+: file ∧ file ≠ location := by
  simp only [isFolderAt, Location.isBelow, Bool.or_eq_true, List.any_eq_true, Bool.and_eq_true,
    List.isPrefixOf_iff_prefix, bne_iff_ne]

/-- Every folder on the way to a folder is one. -/
theorem isFolderAt_of_isPrefix {location folder : Location} (below : folder <+: location)
    (isFolder : fs.isFolderAt location = true) : fs.isFolderAt folder = true := by
  rw [isFolderAt_iff] at isFolder ⊢
  rcases isFolder with ⟨kept, listed, onWay⟩ | ⟨file, listed, onWay, above⟩
  · exact .inl ⟨kept, listed, below.trans onWay⟩
  · refine .inr ⟨file, listed, below.trans onWay, ?_⟩
    rintro rfl
    exact above (below.eq_of_length (Nat.le_antisymm below.length_le onWay.length_le))

theorem isFolderAt_startOf (path : String) :
    fs.isFolderAt (startOf fs.workingFolder path) = true := by
  refine isFolderAt_iff.mpr (.inl ⟨fs.workingFolder, List.mem_cons_self, ?_⟩)
  unfold startOf
  split
  · exact List.nil_prefix
  · exact List.prefix_rfl

/-- A location that a file can be written at: that of a file, or a new one in a folder. -/
def Writable (fs : FileSystem) (location : Location) : Prop :=
  fs.isFolderAt location = false ∧
    (fs.isFileAt location = true ∨
      ∃ folder name, location = folder ++ [name] ∧ fs.isFolderAt folder = true)

/-- What is found is a file, or nothing yet in a folder that there is. -/
inductive LeadsTo (location : Location) : Except FileError Place → Prop
  | file : LeadsTo location (.ok (.file location))
  | vacant : LeadsTo location (.ok (.vacant location))

theorem writable_of_follow {current location : Location} {names : List String}
    (isFolder : fs.isFolderAt current = true) (found : LeadsTo location (fs.follow current names)) :
    fs.Writable location := by
  fun_induction fs.follow current names with
  | case2 current name rest idle ih => exact ih isFolder found
  | case3 current rest leads ih =>
    exact ih (isFolderAt_of_isPrefix (List.dropLast_prefix current) isFolder) found
  | case5 current name rest leads inner next short folder ih => exact ih folder found
  | case6 current name rest leads inner next short noFolder isFile last =>
    subst next
    cases found
    exact ⟨eq_false_of_ne_true noFolder, .inl isFile⟩
  | case8 current name rest leads inner next short noFolder noFile last =>
    subst next
    cases found
    exact ⟨eq_false_of_ne_true noFolder, .inr ⟨current, name, rfl, isFolder⟩⟩
  | case1 | case4 | case7 | case9 => cases found

theorem foldl_goTo_of_follow {current location : Location} {names : List String}
    (found : LeadsTo location (fs.follow current names)) : names.foldl goTo current = location := by
  fun_induction fs.follow current names with
  | case2 current name rest idle ih =>
    rw [List.foldl_cons, goTo, if_pos idle]
    exact ih found
  | case3 current rest leads ih =>
    rw [List.foldl_cons, goTo, if_neg leads, if_pos rfl]
    exact ih found
  | case5 current name rest leads inner next short folder ih =>
    rw [List.foldl_cons, goTo, if_neg leads, if_neg inner]
    exact ih found
  | case6 current name rest leads inner next short noFolder isFile last
  | case8 current name rest leads inner next short noFolder noFile last =>
    subst next
    cases found
    rw [List.isEmpty_iff.mp last, List.foldl_cons, goTo, if_neg leads, if_neg inner, List.foldl_nil]
  | case1 | case4 | case7 | case9 => cases found

theorem mem_keys_put {location file : Location} {content : ByteArray} :
    file ∈ (fs.put location content).files.keys ↔ file = location ∨ file ∈ fs.files.keys := by
  have keys := OrderedMap.keys_insert fs.files location content
  rw [put, keys]
  split
  · rename_i known
    refine ⟨.inr, ?_⟩
    rintro (rfl | listed)
    · exact known
    · exact listed
  · rw [List.mem_append, List.mem_singleton, or_comm]

theorem isFileAt_put {location other : Location} {content : ByteArray} :
    (fs.put location content).isFileAt other = (decide (other = location) || fs.isFileAt other) := by
  rw [isFileAt, isFileAt, put, OrderedMap.contains, OrderedMap.get?_insert]
  by_cases same : other = location
  · simp [same]
  · simp [same, OrderedMap.contains]

theorem mem_keys_of_isFileAt {location : Location} (isFile : fs.isFileAt location = true) :
    location ∈ fs.files.keys := by
  obtain ⟨content, held⟩ := Option.isSome_iff_exists.mp isFile
  obtain ⟨entry, found, -⟩ := Option.map_eq_some_iff.mp held
  have same : entry.1 = location := by simpa using List.find?_some found
  exact List.mem_map.mpr ⟨entry, List.mem_of_find?_eq_some found, same⟩

theorem isFileAt_of_mem_keys {location : Location} (listed : location ∈ fs.files.keys) :
    fs.isFileAt location = true := by
  obtain ⟨⟨_, content⟩, inside, rfl⟩ := List.mem_map.mp listed
  rw [isFileAt, OrderedMap.contains, OrderedMap.get?_of_mem inside]
  rfl

section Put

variable {location : Location} (writable : fs.Writable location) (content : ByteArray)

include writable

/-- No folder comes into being with a new file. -/
theorem isFolderAt_put (other : Location) :
    (fs.put location content).isFolderAt other = fs.isFolderAt other := by
  rw [Bool.eq_iff_iff]
  constructor
  · intro isFolder
    rcases isFolderAt_iff.mp isFolder with kept | ⟨file, listed, onWay, above⟩
    · exact isFolderAt_iff.mpr (.inl kept)
    · rcases mem_keys_put.mp listed with rfl | before
      · rcases writable.2 with isFile | ⟨folder, name, rfl, above'⟩
        · exact isFolderAt_iff.mpr (.inr ⟨_, mem_keys_of_isFileAt isFile, onWay, above⟩)
        · rcases List.prefix_concat_iff.mp onWay with same | onWay
          · exact absurd same.symm above
          · exact isFolderAt_of_isPrefix onWay above'
      · exact isFolderAt_iff.mpr (.inr ⟨file, before, onWay, above⟩)
  · intro isFolder
    rcases isFolderAt_iff.mp isFolder with kept | ⟨file, listed, onWay, above⟩
    · exact isFolderAt_iff.mpr (.inl kept)
    · exact isFolderAt_iff.mpr (.inr ⟨file, mem_keys_put.mpr (.inr listed), onWay, above⟩)

theorem follow_put_last {current : Location} {name : String} (same : current ++ [name] = location)
    (leads : ¬ (name = "" ∨ name = ".")) (inner : name ≠ "..")
    (short : ¬ longestName < name.utf8ByteSize) :
    (fs.put location content).follow current [name] = .ok (.file location) := by
  subst same
  refine follow_file leads inner short ?_ ?_
  · rw [isFolderAt_put writable]
    exact writable.1
  · rw [isFileAt_put, decide_eq_true rfl, Bool.true_or]

/-- The names that led to a location lead to the file there once it is written. -/
theorem follow_put {current : Location} {names : List String}
    (found : LeadsTo location (fs.follow current names)) :
    (fs.put location content).follow current names = .ok (.file location) := by
  fun_induction fs.follow current names with
  | case2 current name rest idle ih => rw [follow_idle idle, ih found]
  | case3 current rest leads ih => rw [follow_up, ih found]
  | case5 current name rest leads inner next short isFolder ih =>
    rw [follow_down leads inner short (by rw [isFolderAt_put writable]; exact isFolder), ih found]
  | case6 current name rest leads inner next short noFolder isFile last =>
    subst next
    cases found
    rw [List.isEmpty_iff.mp last]
    exact follow_put_last writable content rfl leads inner short
  | case8 current name rest leads inner next short noFolder noFile last =>
    subst next
    cases found
    rw [List.isEmpty_iff.mp last]
    exact follow_put_last writable content rfl leads inner short
  | case1 | case4 | case7 | case9 => cases found

end Put

/-- Where a path leads to a file, or to a place for one, it leads to the file once that is written. -/
theorem locate_put {path : String} {location : Location}
    (found : LeadsTo location (fs.locate path)) (content : ByteArray) :
    (fs.put location content).locate path = .ok (.file location) := by
  unfold locate at found ⊢
  cases fine : pathError? path with
  | some error =>
    rw [fine] at found
    cases found
  | none =>
    rw [fine] at found
    simp only at found ⊢
    split at found
    · cases found
    · rename_i filled
      rw [if_neg filled]
      exact follow_put (writable_of_follow (isFolderAt_startOf path) found) content found

/-- A path to a file, or to a place for one, leads to the location that it names. -/
theorem locationOf_of_locate {path : String} {location : Location}
    (found : LeadsTo location (fs.locate path)) : locationOf fs.workingFolder path = location := by
  unfold locate at found
  split at found
  · cases found
  · split at found
    · cases found
    · exact foldl_goTo_of_follow found

theorem locate_of_target {path : String} {location : Location}
    (found : fs.target path = .ok location) : LeadsTo location (fs.locate path) := by
  unfold target at found
  split at found
  · cases found
  · split at found
    · rename_i same
      cases found
      rw [same]
      exact .file
    · rename_i same
      cases found
      rw [same]
      exact .vacant
    · cases found
    · cases found

/-- What was written is what is read. -/
theorem read_write {path : String} {content : ByteArray} {written : FileSystem}
    (writes : fs.write path content = .ok written) : written.read path = .ok content := by
  obtain ⟨location, found, rfl⟩ := exists_of_map_eq_ok writes
  have leads := locate_put (locate_of_target found) content
  have held : (fs.put location content).files.get? location = some content := by
    rw [put, OrderedMap.get?_insert, if_pos rfl]
  simp only [FileSystem.read, leads, held, Option.getD_some]

end FileSystem

end ReactiveProps.Files
